import Mathlib
import ModuleScope.Proofs.OffsetOrder
import ModuleScope.Proofs.OffsetRoundTrip

/-!
Documents read as plain texts. A document counts bytes, but every offset it computes is one at which a
character begins; so its lines are the pieces of the text between line feeds, and what it cuts out
between two positions is what stands between two places of the text, counted in characters.
-/
namespace ModuleScope

open Text Utf8

namespace Text

def lengthWithEnds (pieces : List (List Char)) : Nat := (pieces.map (·.length + 1)).sum

def between (text : List Char) (start stop : Nat) : List Char := (text.drop start).take (stop - start)

theorem lengthWithEnds_splitOn (text : List Char) :
    lengthWithEnds (text.splitOn '\n') = text.length + 1 := by
  induction text with
  | nil => rfl
  | cons c rest ih =>
    obtain ⟨first, others, split⟩ := List.exists_cons_of_ne_nil (List.splitOn_ne_nil '\n' rest)
    rw [List.splitOn_cons_eq_if_modifyHead]
    rw [split] at ih ⊢
    simp only [lengthWithEnds, List.map_cons, List.sum_cons] at ih
    split
    · simp only [lengthWithEnds, List.map_cons, List.sum_cons, List.length_nil, List.length_cons]
      omega
    · simp only [lengthWithEnds, List.modifyHead_cons, List.map_cons, List.sum_cons, List.length_cons]
      omega

theorem between_append (text : List Char) {start middle stop : Nat} (first : start ≤ middle)
    (second : middle ≤ stop) :
    between text start middle ++ between text middle stop = between text start stop := by
  obtain ⟨count, rfl⟩ := Nat.exists_eq_add_of_le first
  have rest : stop - start = count + (stop - (start + count)) := by omega
  rw [between, between, between, rest, List.take_add, List.drop_drop, Nat.add_sub_cancel_left]

end Text

theorem Position.le_trans {a b c : Position} (first : a ≤ b) (second : b ≤ c) : a ≤ c := by
  change (_ < _ ∨ _ = _ ∧ _ ≤ _) at first
  change (_ < _ ∨ _ = _ ∧ _ ≤ _) at second
  change (_ < _ ∨ _ = _ ∧ _ ≤ _)
  omega

namespace Document

variable {document : Document} {a b c : Position}

theorem LineBetween.lengthWithEnds_above {above line below : List Char}
    (stands : document.LineBetween above line below) :
    lengthWithEnds ((document.text.toList.splitOn '\n').take (above.count '\n')) = above.length := by
  rw [stands.parts, List.append_assoc]
  rcases stands.starts with rfl | ⟨front, rfl⟩
  · rfl
  · have pieces : (front.splitOn '\n').length = (front ++ ['\n']).count '\n' := by
      rw [length_splitOn_newline, List.count_append]
      rfl
    rw [List.append_assoc, List.singleton_append, List.splitOn_append_cons_self, ← pieces,
      List.take_left, lengthWithEnds_splitOn, List.length_append]
    rfl

/-- Number of characters before a position, which is first moved onto a line of the text and into that
line: the lines above it, each with its line feed, and its column. -/
def indexAt (document : Document) (position : Position) : Nat :=
  let moved := document.clamped position
  lengthWithEnds ((document.text.toList.splitOn '\n').take moved.line.toNat) + moved.character.toNat

/-- A position cuts the text in two: its offset counts the bytes of the first part and its index the
characters. -/
theorem exists_parts_at (document : Document) (position : Position) :
    ∃ left right, document.text.toList = left ++ right ∧
      document.offsetAt position = (encode left).length ∧ document.indexAt position = left.length := by
  obtain ⟨above, line, below, stands, column, bound, moved, same⟩ := document.exists_clamped position
  obtain ⟨returns, whole⟩ := isPrefix_trimEnd (· == '\r') line
  refine ⟨above ++ (trimEnd (· == '\r') line).take column,
    (trimEnd (· == '\r') line).drop column ++ (returns ++ below), ?_, ?_, ?_⟩
  · have kept := List.take_append_drop column (trimEnd (· == '\r') line)
    calc document.text.toList
      _ = above ++ (trimEnd (· == '\r') line ++ returns) ++ below := by rw [whole, stands.parts]
      _ = _ := by
        nth_rewrite 1 [← kept]
        simp only [List.append_assoc]
  · rw [same, stands.offsetAt_eq, encode_append, List.length_append]
  · rw [indexAt, moved, Int.toNat_natCast, Int.toNat_natCast, stands.lengthWithEnds_above,
      List.length_append, List.length_take, Nat.min_eq_left bound]

theorem lineAt_eq_ok {number : Nat} {piece : List Char}
    (found : (document.text.toList.splitOn '\n')[number]? = some piece) :
    document.lineAt number = .ok (String.ofList (trimEnd (· == '\r') piece)) := by
  obtain ⟨inside, _⟩ := List.getElem?_eq_some_iff.mp found
  have existing : number < document.lineCount := by
    rwa [← length_lines, lines, List.length_map]
  obtain ⟨above, line, below, stands, rfl⟩ := document.exists_line existing
  obtain ⟨earlier, later, split, length⟩ := stands.splitOn_eq
  rw [split, ← length, List.getElem?_append_right le_rfl, Nat.sub_self, List.getElem?_cons_zero,
    Option.some.injEq] at found
  rw [lineAt, if_pos stands.hasLine, Int.toNat_natCast, stands.lineText_eq, found]

theorem lineAt_eq_error_iff (document : Document) (number : Int) :
    document.lineAt number = .error ⟨number, document.path⟩ ↔
      number < 0 ∨ document.lineCount ≤ number := by
  have outside : document.hasLine number = false ↔ number < 0 ∨ document.lineCount ≤ number := by
    rw [Bool.eq_false_iff, hasLine, Ne, Bool.and_eq_true, decide_eq_true_eq, decide_eq_true_eq]
    omega
  rw [← outside, lineAt]
  split
  · next existing => simp [existing]
  · next absent => simp [absent]

theorem clamped_le_clamped (first : document.hasLine a.line = true) (second : document.hasLine b.line = true)
    (before : a ≤ b) : document.clamped a ≤ document.clamped b := by
  have length := document.length_lines
  rw [hasLine, Bool.and_eq_true, decide_eq_true_eq, decide_eq_true_eq] at first second
  have stays (position : Position) (low : 0 ≤ position.line) (high : position.line < document.lineCount) :
      max 0 (min position.line ((lines document.text.toList).length - 1)) = position.line := by
    omega
  change (_ < _ ∨ _ = _ ∧ _ ≤ _) at before
  change (_ < _ ∨ _ = _ ∧ _ ≤ _)
  simp only [clamped, stays a first.1 first.2, stays b second.1 second.2]
  rcases before with above | ⟨level, before⟩
  · exact Or.inl above
  · refine Or.inr ⟨level, ?_⟩
    rw [level]
    omega

/-- If an offset were before that of an earlier position, so would be the place it leads back to. -/
theorem offsetAt_mono (first : document.hasLine a.line = true) (second : document.hasLine b.line = true)
    (before : a ≤ b) : document.offsetAt a ≤ document.offsetAt b := by
  have boundary (position : Position) : document.Boundary (document.offsetAt position) := by
    obtain ⟨left, right, parts, offset, _⟩ := document.exists_parts_at position
    exact ⟨left, right, parts, offset⟩
  by_contra reversed
  have after := (boundary b).positionAt_lt (boundary a) (Nat.lt_of_not_le reversed)
  rw [positionAt_offsetAt, positionAt_offsetAt] at after
  exact Position.not_lt_of_le (clamped_le_clamped first second before) after

theorem textOf_of_parts {left middle right : List Char}
    (parts : document.text.toList = left ++ middle ++ right)
    (start : document.offsetAt a = (encode left).length)
    (stop : document.offsetAt b = (encode (left ++ middle)).length) :
    document.textOf ⟨a, b⟩ = String.ofList middle := by
  have bytes : document.slice (encode left).length (encode (left ++ middle)).length = encode middle := by
    rw [slice, document.source_eq, parts, List.append_assoc, encode_append, encode_append, List.drop_left,
      encode_append, List.length_append, Nat.add_sub_cancel_left, List.take_left]
  rw [textOf, start, stop, bytes, decodeLossy_encode]

theorem between_of_parts {left middle right : List Char}
    (parts : document.text.toList = left ++ middle ++ right) :
    between document.text.toList left.length (left ++ middle).length = middle := by
  rw [between, parts, List.append_assoc, List.drop_left, List.length_append, Nat.add_sub_cancel_left,
    List.take_left]

theorem exists_between_at (first : document.hasLine a.line = true) (second : document.hasLine b.line = true)
    (before : a ≤ b) : ∃ left middle right, document.text.toList = left ++ middle ++ right ∧
      document.offsetAt a = (encode left).length ∧
      document.offsetAt b = (encode (left ++ middle)).length ∧
      document.indexAt a = left.length ∧ document.indexAt b = (left ++ middle).length := by
  have ordered := offsetAt_mono first second before
  obtain ⟨left, rest, parts, start, index⟩ := document.exists_parts_at a
  obtain ⟨longer, right, parts', stop, index'⟩ := document.exists_parts_at b
  rw [start, stop] at ordered
  obtain ⟨middle, rfl⟩ := isPrefix_of_length_le parts parts' ordered
  exact ⟨left, middle, right, parts', start, stop, index, index'⟩

theorem textOf_eq_between (first : document.hasLine a.line = true) (second : document.hasLine b.line = true)
    (before : a ≤ b) : document.textOf ⟨a, b⟩ =
      String.ofList (between document.text.toList (document.indexAt a) (document.indexAt b)) := by
  obtain ⟨left, middle, right, parts, start, stop, index, index'⟩ := exists_between_at first second before
  rw [textOf_of_parts parts start stop, index, index', between_of_parts parts]

theorem indexAt_mono (first : document.hasLine a.line = true) (second : document.hasLine b.line = true)
    (before : a ≤ b) : document.indexAt a ≤ document.indexAt b := by
  obtain ⟨left, middle, _, _, _, _, index, index'⟩ := exists_between_at first second before
  rw [index, index', List.length_append]
  exact Nat.le_add_right _ _

/-- A document has one line more than its text has line feeds, and its lines are the pieces between these
without the carriage returns at their ends; no other line can be asked for. Positions on its lines have
offsets in their order, the text of a range is what stands between two places of the text counted in
characters, and the texts of ranges that meet join up. -/
theorem reads_as_plain_text (document : Document) :
    document.lineCount = document.text.toList.count '\n' + 1 ∧
    (∀ (number : Nat) piece, (document.text.toList.splitOn '\n')[number]? = some piece →
      document.lineAt number = .ok (String.ofList (trimEnd (· == '\r') piece))) ∧
    (∀ number : Int, document.lineAt number = .error ⟨number, document.path⟩ ↔
      number < 0 ∨ document.lineCount ≤ number) ∧
    ∀ a b c, document.hasLine a.line = true → document.hasLine b.line = true →
      document.hasLine c.line = true → a ≤ b → b ≤ c →
      document.offsetAt a ≤ document.offsetAt b ∧
      document.textOf ⟨a, b⟩ =
        String.ofList (between document.text.toList (document.indexAt a) (document.indexAt b)) ∧
      document.textOf ⟨a, b⟩ ++ document.textOf ⟨b, c⟩ = document.textOf ⟨a, c⟩ := by
  refine ⟨?_, fun number piece => lineAt_eq_ok, document.lineAt_eq_error_iff, ?_⟩
  · rw [← length_lines, lines, List.length_map, length_splitOn_newline]
  · intro a b c first second third before after
    refine ⟨offsetAt_mono first second before, textOf_eq_between first second before, ?_⟩
    rw [textOf_eq_between first second before, textOf_eq_between second third after,
      textOf_eq_between first third (Position.le_trans before after), ← String.ofList_append,
      between_append _ (indexAt_mono first second before) (indexAt_mono second third after)]

/-- The first line ends in two carriage returns, at which a position past its end is held back, and the
second begins with a character of four bytes. -/
theorem reads_as_plain_text_returns :
    let document := Document.ofText "/w/a.ts" "é\r\r\n😀b\r\n"
    document.lineAt 1 = .ok "😀b" ∧ document.lineAt 3 = .error ⟨3, "/w/a.ts"⟩ ∧
      document.offsetAt ⟨0, 7⟩ ≤ document.offsetAt ⟨1, 1⟩ ∧
      document.textOf ⟨⟨0, 7⟩, ⟨1, 1⟩⟩ = "\r\r\n😀" ∧
      document.textOf ⟨⟨0, 7⟩, ⟨1, 1⟩⟩ ++ document.textOf ⟨⟨1, 1⟩, ⟨2, -4⟩⟩ =
        document.textOf ⟨⟨0, 7⟩, ⟨2, -4⟩⟩ := by
  intro document
  obtain ⟨_, pieces, outside, ranges⟩ := reads_as_plain_text document
  have line := pieces 1 ['😀', 'b', '\r'] (by decide)
  obtain ⟨ordered, cut, joined⟩ := ranges ⟨0, 7⟩ ⟨1, 1⟩ ⟨2, -4⟩ (by decide) (by decide)
    (by decide) (by decide) (by decide)
  refine ⟨line, (outside 3).mpr (by decide), ordered, cut.trans ?_, joined⟩
  decide

end Document

end ModuleScope
