import Mathlib
import ModuleScope.Text.Utf8

/-!
Text can be read back from its bytes. What stands at the head of the bytes of a text is its first
character, so decoding goes from character to character and never meets a fault. Where the last one is
cut, its first bytes are one fault. In the other direction no bytes but its own are read as an ASCII
text, since a character of several bytes is never one that a single byte can say.
-/
namespace ModuleScope.Text.Utf8

@[simp] theorem encode_nil : encode [] = [] := rfl

@[simp] theorem encode_cons (c : Char) (rest : List Char) :
    encode (c :: rest) = String.utf8EncodeChar c ++ encode rest := rfl

@[simp] theorem encode_append (left right : List Char) :
    encode (left ++ right) = encode left ++ encode right := List.flatMap_append

theorem encode_eq_nil {text : List Char} : encode text = [] ↔ text = [] := by
  cases text with
  | nil => simp
  | cons c rest => simp [String.utf8EncodeChar_ne_nil]

theorem length_encode (text : List Char) : (encode text).length = (text.map Char.utf8Size).sum := by
  induction text with
  | nil => rfl
  | cons c rest ih => simp [ih]

private theorem toNat_ofNat {value : Nat} (small : value < 256) :
    (UInt8.ofNat value).toNat = value := by
  rw [UInt8.toNat_ofNat']
  omega

theorem finish_done (value taken least greatest : Nat) (rest : List UInt8) :
    finish value taken 0 least greatest rest = .scalar (Char.ofNat value) := by
  cases rest <;> rfl

theorem finish_next {value taken following least greatest byte : Nat} (rest : List UInt8)
    (small : byte < 256) (low : least ≤ byte) (high : byte ≤ greatest) :
    finish value taken (following + 1) least greatest (UInt8.ofNat byte :: rest) =
      finish (value * 64 + (byte - 0x80)) (taken + 1) following 0x80 0xBF rest := by
  rw [finish, toNat_ofNat small, if_pos ⟨low, high⟩]

theorem head_of_lead {byte following high least greatest : Nat} (rest : List UInt8)
    (small : byte < 256) (large : 0x80 ≤ byte)
    (promised : lead? byte = some ⟨following, high, least, greatest⟩) :
    head (UInt8.ofNat byte) rest = finish high 1 following least greatest rest := by
  rw [head, toNat_ofNat small, if_neg (by omega), promised]

section Leads

variable {byte : Nat}

theorem lead?_two (low : 0xC2 ≤ byte) (high : byte < 0xE0) :
    lead? byte = some ⟨1, byte - 0xC0, 0x80, 0xBF⟩ := by
  rw [lead?, if_neg (by omega), if_pos high]

/-- The range of the second of three bytes keeps out what two bytes can say, and the surrogates. -/
theorem lead?_three (low : 0xE0 ≤ byte) (high : byte < 0xF0) :
    lead? byte = some ⟨2, byte - 0xE0, if byte = 0xE0 then 0xA0 else 0x80,
      if byte = 0xED then 0x9F else 0xBF⟩ := by
  rw [lead?, if_neg (by omega), if_neg (by omega)]
  by_cases first : byte = 0xE0
  · simp [first]
  · by_cases surrogate : byte = 0xED
    · simp [surrogate]
    · simp [first, surrogate, high]

theorem lead?_four (low : 0xF0 ≤ byte) (high : byte < 0xF5) :
    lead? byte = some ⟨3, byte - 0xF0, if byte = 0xF0 then 0x90 else 0x80,
      if byte = 0xF4 then 0x8F else 0xBF⟩ := by
  rw [lead?, if_neg (by omega), if_neg (by omega), if_neg (by omega), if_neg (by omega),
    if_neg (by omega)]
  by_cases first : byte = 0xF0
  · simp [first]
  · by_cases last : byte = 0xF4
    · simp [last]
    · have middle : byte < 0xF4 := by omega
      simp [first, last, middle]

end Leads

theorem head_encode (c : Char) (rest : List UInt8) :
    ∃ byte following, String.utf8EncodeChar c = byte :: following ∧
      head byte (following ++ rest) = .scalar c := by
  have valid : c.val.toNat < 0xD800 ∨ 0xDFFF < c.val.toNat ∧ c.val.toNat < 0x110000 := c.valid
  have same : Char.ofNat c.val.toNat = c := Char.ofNat_toNat c
  unfold String.utf8EncodeChar
  set value := c.val.toNat with valued
  dsimp only
  split_ifs with one two three
  · refine ⟨_, _, rfl, ?_⟩
    rw [head, toNat_ofNat (by omega), if_pos (by omega), same]
  · refine ⟨_, _, rfl, ?_⟩
    rw [head_of_lead _ (by omega) (by omega) (lead?_two (by omega) (by omega)), List.cons_append,
      finish_next _ (by omega) (by omega) (by omega), finish_done]
    have whole : (value / 64 % 32 + 192 - 192) * 64 + (value % 64 + 128 - 128) = value := by omega
    rw [whole, same]
  · refine ⟨_, _, rfl, ?_⟩
    rw [head_of_lead _ (by omega) (by omega) (lead?_three (by omega) (by omega)), List.cons_append,
      finish_next _ (by omega) (by split_ifs <;> omega) (by split_ifs <;> omega), List.cons_append,
      finish_next _ (by omega) (by omega) (by omega), finish_done]
    have whole : ((value / 4096 % 16 + 224 - 224) * 64 + (value / 64 % 64 + 128 - 128)) * 64 +
        (value % 64 + 128 - 128) = value := by omega
    rw [whole, same]
  · refine ⟨_, _, rfl, ?_⟩
    rw [head_of_lead _ (by omega) (by omega) (lead?_four (by omega) (by omega)), List.cons_append,
      finish_next _ (by omega) (by split_ifs <;> omega) (by split_ifs <;> omega), List.cons_append,
      finish_next _ (by omega) (by omega) (by omega), List.cons_append,
      finish_next _ (by omega) (by omega) (by omega), finish_done]
    have whole : (((value / 262144 % 8 + 240 - 240) * 64 + (value / 4096 % 64 + 128 - 128)) * 64 +
        (value / 64 % 64 + 128 - 128)) * 64 + (value % 64 + 128 - 128) = value := by omega
    rw [whole, same]

theorem piecesFrom_skip (skipped rest : List UInt8) :
    piecesFrom skipped.length (skipped ++ rest) = pieces rest := by
  induction skipped with
  | nil => rfl
  | cons byte others ih => exact ih

theorem pieces_encode (text : List Char) (rest : List UInt8) :
    pieces (encode text ++ rest) = text.map Piece.scalar ++ pieces rest := by
  induction text with
  | nil => rfl
  | cons c others ih =>
    obtain ⟨byte, following, bytes, first⟩ := head_encode c (encode others ++ rest)
    have length : following.length = c.utf8Size - 1 := by
      have whole := String.length_utf8EncodeChar c
      rw [bytes, List.length_cons] at whole
      omega
    rw [encode_cons, List.append_assoc, bytes, List.cons_append, pieces, piecesFrom]
    simp only [first, Piece.tailLength]
    rw [← length, piecesFrom_skip, ih]
    rfl

theorem decodeLossy_encode (text : List Char) : decodeLossy (encode text) = text := by
  have whole := pieces_encode text []
  rw [List.append_nil] at whole
  rw [decodeLossy, whole]
  simp [pieces, piecesFrom, Function.comp_def]

/-- A promised character of which only the first bytes are there is one fault that covers them all. -/
theorem finish_take {value taken following least greatest : Nat} {bytes : List UInt8} {c : Char}
    (whole : finish value taken following least greatest bytes = .scalar c) (count : Nat) :
    finish value taken following least greatest (bytes.take count) = .scalar c ∨
      ∃ reason, finish value taken following least greatest (bytes.take count) =
        .fault reason (taken + (bytes.take count).length) := by
  induction bytes generalizing value taken following least greatest count with
  | nil => exact Or.inl (by simpa using whole)
  | cons byte rest ih =>
    cases following with
    | zero =>
      rw [finish_done] at whole ⊢
      exact Or.inl whole
    | succ following =>
      cases count with
      | zero => exact Or.inr ⟨.unexpectedEnd, rfl⟩
      | succ count =>
        rw [finish] at whole
        rw [List.take_succ_cons, finish]
        split at whole
        · next inRange =>
          rw [if_pos inRange, List.length_cons]
          have next := ih whole count
          rwa [Nat.add_assoc, Nat.add_comm 1] at next
        · cases whole

theorem piecesFrom_of_length_le {bytes : List UInt8} {skip : Nat} (covered : bytes.length ≤ skip) :
    piecesFrom skip bytes = [] := by
  induction bytes generalizing skip with
  | nil => rfl
  | cons byte rest ih =>
    rw [List.length_cons] at covered
    obtain ⟨less, rfl⟩ := Nat.exists_eq_succ_of_ne_zero (by omega : skip ≠ 0)
    exact ih (by omega)

theorem length_decodeLossy_cut {c : Char} {count : Nat} (present : 0 < count)
    (bound : count ≤ c.utf8Size) :
    (decodeLossy ((String.utf8EncodeChar c).take count)).length = 1 := by
  obtain ⟨byte, following, bytes, first⟩ := head_encode c []
  have length : following.length + 1 = c.utf8Size := by
    rw [← String.length_utf8EncodeChar, bytes, List.length_cons]
  obtain ⟨fewer, rfl⟩ := Nat.exists_eq_succ_of_ne_zero present.ne'
  rw [List.append_nil] at first
  have covered : (following.take fewer).length ≤ (head byte (following.take fewer)).tailLength := by
    rw [head] at first ⊢
    split at first
    · next ascii =>
      obtain rfl := Piece.scalar.inj first
      rw [if_pos ascii, Piece.tailLength, List.length_take]
      omega
    · next other =>
      rw [if_neg other]
      split at first
      · cases first
      · next lead promised =>
        rcases finish_take first fewer with scalar | ⟨reason, fault⟩
        · rw [scalar, Piece.tailLength, List.length_take]
          omega
        · rw [fault, Piece.tailLength]
          omega
  rw [bytes, List.take_succ_cons, decodeLossy, List.length_map, pieces, piecesFrom,
    List.length_cons, piecesFrom_of_length_le covered, List.length_nil]

theorem length_decodeLossy_append (text : List Char) (rest : List UInt8) :
    (decodeLossy (encode text ++ rest)).length = text.length + (decodeLossy rest).length := by
  rw [decodeLossy, decodeLossy, pieces_encode, List.length_map, List.length_map, List.length_append,
    List.length_map]

/-- The byte of a line feed stands for nothing but a line feed. -/
theorem newline_of_mem {c : Char} (member : 10 ∈ String.utf8EncodeChar c) : c = '\n' := by
  have byte (value : Nat) : 10 = UInt8.ofNat value ↔ value % 256 = 10 := by
    rw [← UInt8.toNat_inj, UInt8.toNat_ofNat', eq_comm]
    rfl
  have value : c.val.toNat = 10 := by
    unfold String.utf8EncodeChar at member
    dsimp only at member
    -- The bytes of a longer character are at least 128 each.
    split_ifs at member <;> simp only [List.mem_cons, List.not_mem_nil, or_false, byte] at member <;>
      omega
  exact Char.ext (UInt32.toNat_inj.mp value)

theorem count_newline_encode (text : List Char) : (encode text).count 10 = text.count '\n' := by
  induction text with
  | nil => rfl
  | cons c rest ih =>
    rw [encode_cons, List.count_append, ih]
    by_cases newline : c = '\n'
    · subst newline
      rw [List.count_cons_self, show (String.utf8EncodeChar '\n').count 10 = 1 from rfl, Nat.add_comm]
    · rw [List.count_cons_of_ne newline, List.count_eq_zero_of_not_mem fun member =>
        newline (newline_of_mem member), Nat.zero_add]

theorem decodeLossy_ne_nil {bytes : List UInt8} (present : bytes ≠ []) : decodeLossy bytes ≠ [] := by
  cases bytes with
  | nil => exact absurd rfl present
  | cons byte rest => simp [decodeLossy, pieces, piecesFrom]

/-- A character begins in the bytes of a text only where one of the text's characters does. -/
theorem exists_left_of_drop {text : List Char} {offset : Nat} {c : Char} {rest : List UInt8}
    (begins : (encode text).drop offset = String.utf8EncodeChar c ++ rest) :
    ∃ left right, text = left ++ right ∧ offset = (encode left).length := by
  induction text generalizing offset with
  | nil =>
    rw [encode_nil, List.drop_nil] at begins
    have absent := (List.append_eq_nil_iff.mp begins.symm).1
    exact absurd absent String.utf8EncodeChar_ne_nil
  | cons d others ih =>
    rw [encode_cons, List.drop_append] at begins
    by_cases beyond : (String.utf8EncodeChar d).length ≤ offset
    · rw [List.drop_of_length_le beyond, List.nil_append] at begins
      obtain ⟨left, right, rfl, reached⟩ := ih begins
      refine ⟨d :: left, right, rfl, ?_⟩
      rw [encode_cons, List.length_append]
      omega
    · -- The byte here begins a character and is one of those of `d`, so it is the first of them.
      have inside : offset < (String.utf8EncodeChar d).length := Nat.lt_of_not_le beyond
      have nonempty : 0 < (String.utf8EncodeChar c).length :=
        List.length_pos_of_ne_nil String.utf8EncodeChar_ne_nil
      have left : (String.utf8EncodeChar d).drop offset ≠ [] := by
        rw [Ne, List.drop_eq_nil_iff]
        exact beyond
      have same := congrArg List.head? begins
      rw [List.head?_append_of_ne_nil _ left, List.head?_append_of_ne_nil _
        String.utf8EncodeChar_ne_nil, List.head?_drop, List.head?_eq_getElem?,
        List.getElem?_eq_getElem inside, List.getElem?_eq_getElem nonempty] at same
      have first := UInt8.isUTF8FirstByte_getElem_zero_utf8EncodeChar (c := c)
      rw [← Option.some.inj same, UInt8.isUTF8FirstByte_getElem_utf8EncodeChar] at first
      exact ⟨[], d :: others, rfl, first⟩

theorem exists_next_of_finish {value taken following least greatest : Nat} {bytes : List UInt8} {c : Char}
    (done : finish value taken (following + 1) least greatest bytes = .scalar c) :
    ∃ byte rest, least ≤ byte ∧ byte ≤ greatest ∧
      finish (value * 64 + (byte - 0x80)) (taken + 1) following 0x80 0xBF rest = .scalar c := by
  cases bytes with
  | nil => cases done
  | cons byte rest =>
    rw [finish] at done
    split at done
    · next inRange => exact ⟨byte.toNat, rest, inRange.1, inRange.2, done⟩
    · cases done

theorem exists_code_of_finish {value taken following : Nat} {bytes : List UInt8} {c : Char}
    (done : finish value taken following 0x80 0xBF bytes = .scalar c) :
    ∃ code, c = Char.ofNat code ∧ value * 64 ^ following ≤ code ∧ code < (value + 1) * 64 ^ following := by
  induction following generalizing value taken bytes with
  | zero =>
    rw [finish_done] at done
    exact ⟨value, (Piece.scalar.inj done).symm, by simp⟩
  | succ following ih =>
    obtain ⟨byte, rest, low, high, next⟩ := exists_next_of_finish done
    obtain ⟨code, same, least, greatest⟩ := ih next
    refine ⟨code, same, ?_, ?_⟩
    · calc value * 64 ^ (following + 1) = value * 64 * 64 ^ following := by ring
        _ ≤ (value * 64 + (byte - 0x80)) * 64 ^ following := Nat.mul_le_mul_right _ (by omega)
        _ ≤ code := least
    · calc code < (value * 64 + (byte - 0x80) + 1) * 64 ^ following := greatest
        _ ≤ (value + 1) * 64 * 64 ^ following := Nat.mul_le_mul_right _ (by omega)
        _ = (value + 1) * 64 ^ (following + 1) := by ring

theorem exists_code_of_lead {byte taken : Nat} {lead : Lead} {bytes : List UInt8} {c : Char}
    (promised : lead? byte = some lead)
    (done : finish lead.high taken lead.following lead.least lead.greatest bytes = .scalar c) :
    ∃ code, c = Char.ofNat code ∧ 0x80 ≤ code ∧ code.isValidChar := by
  have bounds : 0xC2 ≤ byte ∧ byte < 0xF5 := by
    unfold lead? at promised
    split_ifs at promised <;> omega
  rcases lt_or_ge byte 0xE0 with two | more
  · rw [lead?_two bounds.1 two] at promised
    obtain rfl := Option.some.inj promised
    obtain ⟨next, rest, low, high, reached⟩ := exists_next_of_finish done
    obtain ⟨code, same, least, greatest⟩ := exists_code_of_finish reached
    dsimp only at low high least greatest
    exact ⟨code, same, by omega, Or.inl (by omega)⟩
  rcases lt_or_ge byte 0xF0 with three | four
  · rw [lead?_three more three] at promised
    obtain rfl := Option.some.inj promised
    obtain ⟨next, rest, low, high, reached⟩ := exists_next_of_finish done
    obtain ⟨code, same, least, greatest⟩ := exists_code_of_finish reached
    dsimp only at low high least greatest
    refine ⟨code, same, ?_, ?_⟩
    · split_ifs at low <;> omega
    · by_cases surrogate : byte = 0xED
      · rw [if_pos surrogate] at high
        exact Or.inl (by omega)
      · rw [if_neg surrogate] at high
        by_cases before : byte < 0xED
        · exact Or.inl (by omega)
        · exact Or.inr ⟨by omega, by omega⟩
  · rw [lead?_four four bounds.2] at promised
    obtain rfl := Option.some.inj promised
    obtain ⟨next, rest, low, high, reached⟩ := exists_next_of_finish done
    obtain ⟨code, same, least, greatest⟩ := exists_code_of_finish reached
    dsimp only at low high least greatest
    refine ⟨code, same, ?_, Or.inr ⟨?_, ?_⟩⟩
    · split_ifs at low <;> omega
    · split_ifs at low <;> omega
    · split_ifs at high <;> omega

/-- A byte that is no character of its own never begins one that a single byte can say. -/
theorem ascii_of_head {byte : UInt8} {rest : List UInt8} {c : Char} (first : head byte rest = .scalar c)
    (ascii : c.toNat < 0x80) : byte.toNat < 0x80 ∧ c = Char.ofNat byte.toNat := by
  rw [head] at first
  split at first
  · next small => exact ⟨small, (Piece.scalar.inj first).symm⟩
  · split at first
    · cases first
    · next lead promised =>
      obtain ⟨code, rfl, large, valid⟩ := exists_code_of_lead promised first
      rw [Char.toNat_ofNat, if_pos valid] at ascii
      omega

theorem eq_encode_of_ascii {bytes : List UInt8} (ascii : ∀ c ∈ decodeLossy bytes, c.toNat < 0x80) :
    bytes = encode (decodeLossy bytes) := by
  induction bytes with
  | nil => rfl
  | cons byte rest ih =>
    cases first : head byte rest with
    | fault reason length =>
      have replaced : '\uFFFD' ∈ decodeLossy (byte :: rest) := by
        simp [decodeLossy, pieces, piecesFrom, first]
      exact absurd (ascii _ replaced) (by decide)
    | scalar c =>
      have begins : c ∈ decodeLossy (byte :: rest) := by
        simp [decodeLossy, pieces, piecesFrom, first]
      obtain ⟨small, rfl⟩ := ascii_of_head first (ascii _ begins)
      have single : String.utf8EncodeChar (Char.ofNat byte.toNat) = [byte] := by
        have value : (Char.ofNat byte.toNat).val.toNat = byte.toNat :=
          (Char.toNat_ofNat _).trans (if_pos (Or.inl (by omega)))
        rw [String.utf8EncodeChar, value, if_pos (by omega), UInt8.ofNat_toNat]
      have size : (Char.ofNat byte.toNat).utf8Size = 1 := by
        rw [← String.length_utf8EncodeChar, single]
        rfl
      have read : decodeLossy (byte :: rest) = Char.ofNat byte.toNat :: decodeLossy rest := by
        rw [decodeLossy, pieces, piecesFrom]
        simp only [first, Piece.tailLength, size, Nat.sub_self, List.map_cons]
        rfl
      rw [read] at ascii ⊢
      rw [encode_cons, single, List.singleton_append, ← ih fun each member => ascii each (by simp [member])]

theorem exists_right_of_encode {text word : List Char} {bytes : List UInt8}
    (begins : encode text = encode word ++ bytes) : ∃ right, text = word ++ right := by
  have whole : pieces (encode text) = text.map Piece.scalar := by
    simpa [pieces, piecesFrom] using pieces_encode text []
  rw [begins, pieces_encode] at whole
  obtain ⟨front, right, rfl, same, _⟩ := List.map_eq_append_iff.mp whole.symm
  rw [List.map_injective_iff.mpr (fun _ _ => Piece.scalar.inj) same]
  exact ⟨right, rfl⟩

end ModuleScope.Text.Utf8
