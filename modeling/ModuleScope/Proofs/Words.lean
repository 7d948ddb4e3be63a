import Mathlib
import ModuleScope.Text.Basic

/-!
Words and where they stand. A word stands between two parts of a text if the part before it does not
end inside a word and the part after it does not go on with one. The scan finds exactly these words.
-/
namespace ModuleScope.Text

/-- Whether a text ends inside a word, when it begins inside one or not. -/
def endsInWord (inside : Bool) (text : List Char) : Bool :=
  text.foldl (fun inside c => if inside then isWordPart c else isWordStart c) inside

structure WordBetween (left word right : List Char) : Prop where
  isWord : Text.isWord word = true
  before : endsInWord false left = false
  after : ∀ c ∈ right.head?, isWordPart c = false

theorem endsInWord_append (inside : Bool) (left right : List Char) :
    endsInWord inside (left ++ right) = endsInWord (endsInWord inside left) right :=
  List.foldl_append

theorem isWordPart_of_isWordStart {c : Char} (starts : isWordStart c = true) :
    isWordPart c = true := by
  simp [isWordPart, starts]

theorem isWordPart_of_mem {word : List Char} (isWord : Text.isWord word = true) {c : Char}
    (member : c ∈ word) : isWordPart c = true := by
  cases word with
  | nil => cases member
  | cons first rest =>
    obtain ⟨starts, parts⟩ := Bool.and_eq_true_iff.mp isWord
    rcases List.mem_cons.mp member with rfl | inside
    · exact isWordPart_of_isWordStart starts
    · exact List.all_eq_true.mp parts c inside

section Scan

variable {start : Option Nat} {offset : Nat}

theorem start_of_mem_wordsFrom {text : List Char} {found : Nat × Nat}
    (member : found ∈ wordsFrom start offset text) : start = some found.1 ∨ offset ≤ found.1 := by
  induction text generalizing start offset with
  | nil =>
    cases start with
    | none => cases member
    | some first =>
      obtain rfl := List.mem_singleton.mp member
      exact Or.inl rfl
  | cons c rest ih =>
    cases start with
    | none =>
      rw [wordsFrom] at member
      split at member
      · rcases ih member with same | later
        · exact Or.inr (Option.some.inj same).le
        · exact Or.inr (by omega)
      · rcases ih member with same | later
        · cases same
        · exact Or.inr (by omega)
    | some first =>
      rw [wordsFrom] at member
      split at member
      · rcases ih member with same | later
        · exact Or.inl same
        · exact Or.inr (by omega)
      · rcases List.mem_cons.mp member with rfl | after
        · exact Or.inl rfl
        · rcases ih after with same | later
          · cases same
          · exact Or.inr (by omega)

theorem wordsFrom_cons (start : Option Nat) (offset : Nat) (c : Char) :
    ∃ closed next, (∀ rest, wordsFrom start offset (c :: rest) =
        closed ++ wordsFrom next (offset + 1) rest) ∧
      next.isSome = endsInWord start.isSome [c] ∧ ∀ found ∈ closed, found.2 = offset := by
  cases start with
  | none =>
    by_cases starts : isWordStart c = true
    · exact ⟨[], some offset, fun rest => by rw [wordsFrom, if_pos starts]; rfl,
        by simp [endsInWord, starts], by simp⟩
    · exact ⟨[], none, fun rest => by rw [wordsFrom, if_neg starts]; rfl,
        by simp [endsInWord, starts], by simp⟩
  | some first =>
    by_cases goesOn : isWordPart c = true
    · exact ⟨[], some first, fun rest => by rw [wordsFrom, if_pos goesOn]; rfl,
        by simp [endsInWord, goesOn], by simp⟩
    · exact ⟨[(first, offset)], none, fun rest => by rw [wordsFrom, if_neg goesOn]; rfl,
        by simp [endsInWord, goesOn], by simp⟩

/-- A part of a text that does not end inside a word is scanned on its own. -/
theorem wordsFrom_append {left : List Char}
    (outside : endsInWord start.isSome left = false) (rest : List Char) :
    ∃ earlier, wordsFrom start offset (left ++ rest) =
        earlier ++ wordsFrom none (offset + left.length) rest ∧
      ∀ found ∈ earlier, found.2 < offset + left.length := by
  induction left generalizing start offset with
  | nil =>
    have closed : start = none := by simpa [endsInWord] using outside
    subst closed
    exact ⟨[], by simp, by simp⟩
  | cons c others ih =>
    obtain ⟨closed, next, step, inside, ends⟩ := wordsFrom_cons start offset c
    rw [← List.singleton_append, endsInWord_append, ← inside] at outside
    obtain ⟨earlier, scanned, bounds⟩ := @ih next (offset + 1) outside
    refine ⟨closed ++ earlier, ?_, fun found member => ?_⟩
    · rw [List.cons_append, step, scanned, List.length_cons, Nat.add_assoc, Nat.add_comm 1,
        List.append_assoc]
    · rw [List.length_cons]
      rcases List.mem_append.mp member with now | later
      · have stop := ends found now
        omega
      · have bound := bounds found later
        omega

theorem wordsFrom_inside (first offset : Nat) {word right : List Char}
    (parts : ∀ c ∈ word, isWordPart c = true) (after : ∀ c ∈ right.head?, isWordPart c = false) :
    ∃ later, wordsFrom (some first) offset (word ++ right) =
        (first, offset + word.length) :: later ∧
      ∀ found ∈ later, offset + word.length < found.1 := by
  induction word generalizing offset with
  | nil =>
    cases right with
    | nil => exact ⟨[], rfl, by simp⟩
    | cons c rest =>
      have ends : ¬ isWordPart c = true := by simp [after c rfl]
      refine ⟨wordsFrom none (offset + 1) rest, ?_, fun found member => ?_⟩
      · rw [List.nil_append, wordsFrom, if_neg ends]
        rfl
      · rcases start_of_mem_wordsFrom member with same | later
        · cases same
        · rw [List.length_nil]
          omega
  | cons c others ih =>
    obtain ⟨later, scanned, bounds⟩ :=
      @ih (offset + 1) fun other member => parts other (List.mem_cons_of_mem c member)
    refine ⟨later, ?_, fun found member => ?_⟩
    · rw [List.cons_append, wordsFrom, if_pos (parts c (by simp)), scanned, List.length_cons,
        Nat.add_assoc, Nat.add_comm 1]
    · have bound := bounds found member
      rw [List.length_cons]
      omega

/-- The scan finds a word where it stands, between words that do not touch it. -/
theorem WordBetween.wordsFrom_eq {left word right : List Char} (stands : WordBetween left word right)
    :
    ∃ earlier later, wordsFrom none 0 (left ++ word ++ right) =
        earlier ++ (left.length, left.length + word.length) :: later ∧
      (∀ found ∈ earlier, found.2 < left.length) ∧
      ∀ found ∈ later, left.length + word.length < found.1 := by
  obtain ⟨earlier, scanned, bounds⟩ :=
    @wordsFrom_append none 0 left stands.before (word ++ right)
  have parts (c : Char) (member : c ∈ word) := isWordPart_of_mem stands.isWord member
  cases word with
  | nil => cases stands.isWord
  | cons c others =>
    have starts : isWordStart c = true := (Bool.and_eq_true_iff.mp stands.isWord).1
    obtain ⟨later, read, beyond⟩ :=
      wordsFrom_inside left.length (left.length + 1)
        (fun other member => parts other (List.mem_cons_of_mem c member)) stands.after
    rw [Nat.zero_add] at scanned bounds
    refine ⟨earlier, later, ?_, bounds, ?_⟩
    · rw [List.append_assoc, scanned, List.cons_append, wordsFrom, if_pos starts, read, List.length_cons,
        Nat.add_assoc, Nat.add_comm 1]
    · rw [List.length_cons, Nat.add_comm others.length, ← Nat.add_assoc]
      exact beyond

/-- Whatever the scan finds is the word being read at its beginning or one that stands further on. -/
theorem mem_wordsFrom_cases {text : List Char} {found : Nat × Nat}
    (member : found ∈ wordsFrom start offset text) :
    (∃ word right, text = word ++ right ∧ start = some found.1 ∧ word.all isWordPart = true ∧
        (∀ c ∈ right.head?, isWordPart c = false) ∧ found.2 = offset + word.length) ∨
      ∃ left word right, text = left ++ word ++ right ∧ endsInWord start.isSome left = false ∧
        isWord word = true ∧ (∀ c ∈ right.head?, isWordPart c = false) ∧
        found.1 = offset + left.length ∧ found.2 = found.1 + word.length := by
  induction text generalizing start offset with
  | nil =>
    cases start with
    | none => cases member
    | some first =>
      obtain rfl := List.mem_singleton.mp member
      exact Or.inl ⟨[], [], rfl, rfl, rfl, by simp, rfl⟩
  | cons c rest ih =>
    -- A word that stands further on in the rest stands one character further on in the text.
    have further {next : Option Nat} (turn : endsInWord start.isSome [c] = next.isSome) :
        (∃ left word right, rest = left ++ word ++ right ∧ endsInWord next.isSome left = false ∧
          isWord word = true ∧ (∀ c ∈ right.head?, isWordPart c = false) ∧
          found.1 = offset + 1 + left.length ∧ found.2 = found.1 + word.length) →
        ∃ left word right, c :: rest = left ++ word ++ right ∧ endsInWord start.isSome left = false ∧
          isWord word = true ∧ (∀ c ∈ right.head?, isWordPart c = false) ∧
          found.1 = offset + left.length ∧ found.2 = found.1 + word.length := by
      rintro ⟨left, word, right, rfl, outside, isWord, after, first, stop⟩
      refine ⟨c :: left, word, right, rfl, ?_, isWord, after, ?_, stop⟩
      · rw [← List.singleton_append, endsInWord_append, turn]
        exact outside
      · rw [first, List.length_cons, Nat.add_assoc, Nat.add_comm 1]
    cases start with
    | none =>
      rw [wordsFrom] at member
      split at member
      · next starts =>
        rcases ih member with ⟨word, right, rfl, same, parts, after, stop⟩ | later
        · refine Or.inr ⟨[], c :: word, right, rfl, rfl, ?_, after, ?_, ?_⟩
          · rw [isWord, starts, parts]
            rfl
          · simpa using (Option.some.inj same).symm
          · rw [stop, List.length_cons, ← Option.some.inj same, Nat.add_assoc, Nat.add_comm 1]
        · exact Or.inr (further (by simp [endsInWord, starts]) later)
      · next other =>
        rcases ih member with ⟨_, _, _, same, _⟩ | later
        · cases same
        · exact Or.inr (further (by simp [endsInWord, other]) later)
    | some begun =>
      rw [wordsFrom] at member
      split at member
      · next goesOn =>
        rcases ih member with ⟨word, right, rfl, same, parts, after, stop⟩ | later
        · refine Or.inl ⟨c :: word, right, rfl, same, ?_, after, ?_⟩
          · rw [List.all_cons, goesOn, parts]
            rfl
          · rw [stop, List.length_cons, Nat.add_assoc, Nat.add_comm 1]
        · exact Or.inr (further (by simp [endsInWord, goesOn]) later)
      · next ends =>
        rcases List.mem_cons.mp member with rfl | beyond
        · exact Or.inl ⟨[], c :: rest, rfl, rfl, rfl, by simpa using ends, rfl⟩
        · rcases ih beyond with ⟨_, _, _, same, _⟩ | later
          · cases same
          · exact Or.inr (further (by simp [endsInWord, ends]) later)

end Scan

theorem WordBetween.find?_words {left word right : List Char} (stands : WordBetween left word right)
    {column : Int} (low : left.length ≤ column) (high : column ≤ left.length + word.length) :
    (words (left ++ word ++ right)).find? (fun (start, stop) => start ≤ column && column ≤ stop) =
      some (left.length, left.length + word.length) := by
  obtain ⟨earlier, later, scanned, before, after⟩ := stands.wordsFrom_eq
  rw [words, scanned, List.find?_append]
  have none : earlier.find? (fun (start, stop) => (start : Int) ≤ column && column ≤ stop) = none := by
    rw [List.find?_eq_none]
    intro found member
    have bound := before found member
    simp only [Bool.and_eq_true, decide_eq_true_eq, not_and, not_le]
    omega
  rw [none, Option.none_or, List.find?_cons_of_pos]
  simp only [Bool.and_eq_true, decide_eq_true_eq]
  exact ⟨low, by simpa using high⟩

end ModuleScope.Text
