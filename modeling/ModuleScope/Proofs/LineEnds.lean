import Mathlib
import ModuleScope.Proofs.CursorWords
import ModuleScope.Proofs.Positions
import ModuleScope.Text.Basic

/-!
Texts whose line ends all become line feeds. A carriage return before a line feed is dropped and another
one becomes a line feed, so no word changes and the words stay in order. Up to a word the lines are the
same as long as no carriage return stands alone; each one that does moves the words after it down by a
line. If a word after such a return is still found on its line, it stands there once more, which cannot
be so for the last of them.
-/
namespace ModuleScope

open Text

namespace Text

def lineFeedOf (c : Char) (next : Option Char) : List Char :=
  if c = '\r' then if next = some '\n' then [] else ['\n'] else [c]

def loneReturns : List Char → Nat
  | [] => 0
  | c :: rest => (if c = '\r' ∧ rest.head? ≠ some '\n' then 1 else 0) + loneReturns rest

/-- No line end is cut in two between the parts of a text. -/
def LineEndsApart (left right : List Char) : Prop :=
  left.getLast? = some '\r' → right.head? ≠ some '\n'

@[simp] theorem normalizeNewlines_nil : normalizeNewlines [] = [] := rfl

@[simp] theorem normalizeNewlines_cons (c : Char) (rest : List Char) :
    normalizeNewlines (c :: rest) = lineFeedOf c rest.head? ++ normalizeNewlines rest := by
  by_cases returned : c = '\r'
  · subst returned
    cases rest with
    | nil => rfl
    | cons d others =>
      by_cases newline : d = '\n'
      · subst newline
        simp [normalizeNewlines, lineFeedOf]
      · rw [normalizeNewlines]
        · simp [lineFeedOf, newline]
        · simp [newline]
  · rw [normalizeNewlines]
    · simp [lineFeedOf, returned]
    · simp [returned]
    · simp [returned]

theorem normalizeNewlines_append {left right : List Char} (apart : LineEndsApart left right) :
    normalizeNewlines (left ++ right) = normalizeNewlines left ++ normalizeNewlines right := by
  induction left with
  | nil => rfl
  | cons c rest ih =>
    cases rest with
    | nil =>
      have next : lineFeedOf c right.head? = lineFeedOf c none := by
        by_cases returned : c = '\r'
        · have other := apart (by simp [returned])
          simp [lineFeedOf, other]
        · simp [lineFeedOf, returned]
      simp [next]
    | cons d others =>
      have further := ih (by simpa [LineEndsApart] using apart)
      rw [List.cons_append, normalizeNewlines_cons, further, normalizeNewlines_cons c]
      simp

theorem count_normalizeNewlines (text : List Char) :
    (normalizeNewlines text).count '\n' = text.count '\n' + loneReturns text := by
  induction text with
  | nil => rfl
  | cons c rest ih =>
    rw [normalizeNewlines_cons, List.count_append, ih, loneReturns, List.count_cons, lineFeedOf]
    split_ifs <;> simp_all <;> omega

theorem normalizeNewlines_of_not_mem {text : List Char} (unreturned : '\r' ∉ text) :
    normalizeNewlines text = text := by
  induction text with
  | nil => rfl
  | cons c rest ih =>
    rw [List.mem_cons, not_or] at unreturned
    rw [normalizeNewlines_cons, ih unreturned.2, lineFeedOf, if_neg (Ne.symm unreturned.1),
      List.singleton_append]

theorem head?_normalizeNewlines (text : List Char) :
    (normalizeNewlines text).head? = text.head?.map fun c => if c = '\r' then '\n' else c := by
  induction text with
  | nil => rfl
  | cons c rest ih =>
    rw [normalizeNewlines_cons, lineFeedOf]
    split_ifs with returned newline
    · simp [ih, newline, returned]
    · simp [returned]
    · simp [returned]

theorem endsInWord_normalizeNewlines (inside : Bool) (text : List Char) :
    endsInWord inside (normalizeNewlines text) = endsInWord inside text := by
  induction text generalizing inside with
  | nil => rfl
  | cons c rest ih =>
    have step : endsInWord inside (c :: rest) = endsInWord (endsInWord inside [c]) rest := rfl
    rw [normalizeNewlines_cons, endsInWord_append, ih, step, lineFeedOf]
    split_ifs with returned newline
    · -- A line feed ends every word, so it does not matter that the return before it is dropped.
      obtain ⟨others, rfl⟩ := List.head?_eq_some_iff.mp newline
      cases inside <;> subst returned <;> rfl
    · cases inside <;> subst returned <;> rfl
    · rfl

theorem exists_parts_of_normalizeNewlines {text before after : List Char} {c : Char}
    (parts : normalizeNewlines text = before ++ c :: after) (other : c ≠ '\n') :
    ∃ left right, text = left ++ c :: right ∧ normalizeNewlines left = before ∧
      normalizeNewlines right = after := by
  induction text generalizing before with
  | nil => simp at parts
  | cons d rest ih =>
    rw [normalizeNewlines_cons] at parts
    -- Whatever `d` becomes, it becomes that also where the text is cut before `c`.
    have further {between : List Char} (parts : normalizeNewlines rest = between ++ c :: after)
        (same : before = lineFeedOf d rest.head? ++ between) :
        ∃ left right, d :: rest = left ++ c :: right ∧ normalizeNewlines left = before ∧
          normalizeNewlines right = after := by
      obtain ⟨left, right, rfl, rfl, ended⟩ := ih parts
      refine ⟨d :: left, right, rfl, ?_, ended⟩
      rw [normalizeNewlines_cons, same]
      cases left <;> simp [lineFeedOf, other]
    have made : lineFeedOf d rest.head? = [] ∨ lineFeedOf d rest.head? = ['\n'] ∨
        lineFeedOf d rest.head? = [d] := by
      rw [lineFeedOf]
      split_ifs <;> simp
    rcases made with made | made | made
    · rw [made] at parts
      exact further parts (by rw [made, List.nil_append])
    · rw [made, List.singleton_append] at parts
      rcases List.cons_eq_append_iff.mp parts with ⟨_, same⟩ | ⟨between, same, parts⟩
      · exact absurd (List.cons.inj same).1 other
      · exact further parts (by rw [made, same, List.singleton_append])
    · rw [made, List.singleton_append] at parts
      rcases List.cons_eq_append_iff.mp parts with ⟨rfl, same⟩ | ⟨between, same, parts⟩
      · obtain ⟨rfl, rfl⟩ := List.cons.inj same
        exact ⟨[], rest, rfl, rfl, rfl⟩
      · exact further parts (by rw [made, same, List.singleton_append])

theorem exists_start_of_isWord {word : List Char} (isWord : Text.isWord word = true) :
    ∃ c rest, word = c :: rest ∧ isWordStart c = true := by
  cases word with
  | nil => cases isWord
  | cons c rest => exact ⟨c, rest, rfl, (Bool.and_eq_true_iff.mp isWord).1⟩

theorem WordBetween.takeWhile_eq {left word right : List Char} (stands : WordBetween left word right) :
    (word ++ right).takeWhile isWordPart = word := by
  rw [List.takeWhile_append_of_pos fun c => isWordPart_of_mem stands.isWord]
  cases right with
  | nil => simp
  | cons c rest => simp [stands.after c rfl]

theorem wordBetween_takeWhile {left : List Char} {c : Char} (outside : endsInWord false left = false)
    (starts : isWordStart c = true) (rest : List Char) :
    WordBetween left ((c :: rest).takeWhile isWordPart) ((c :: rest).dropWhile isWordPart) := by
  refine ⟨?_, outside, ?_⟩
  · rw [List.takeWhile_cons_of_pos (isWordPart_of_isWordStart starts), isWord, starts, Bool.true_and,
      List.all_eq_true]
    intro d
    exact List.mem_takeWhile_imp
  · intro d next
    have ended := List.head?_dropWhile_not isWordPart (c :: rest)
    rw [Option.mem_def.mp next] at ended
    exact ended

theorem WordBetween.lineEndsApart {left word right : List Char} (stands : WordBetween left word right) :
    LineEndsApart left (word ++ right) := by
  intro _ newline
  rw [List.head?_append_of_ne_nil _ (isWord_iff.mp stands.isWord).1] at newline
  exact newline_not_mem stands.isWord (List.mem_of_mem_head? newline)

theorem WordBetween.normalized {left word right : List Char} (stands : WordBetween left word right) :
    normalizeNewlines (left ++ word ++ right) =
        normalizeNewlines left ++ word ++ normalizeNewlines right ∧
      WordBetween (normalizeNewlines left) word (normalizeNewlines right) := by
  have kept : '\r' ∉ word := by
    intro member
    exact absurd (isWordPart_of_mem stands.isWord member) (by decide)
  have after : LineEndsApart word right := by
    intro returned
    exact absurd (List.mem_of_getLast? returned) kept
  constructor
  · rw [List.append_assoc, normalizeNewlines_append stands.lineEndsApart, normalizeNewlines_append after,
      normalizeNewlines_of_not_mem kept, List.append_assoc]
  · refine ⟨stands.isWord, ?_, ?_⟩
    · rw [endsInWord_normalizeNewlines, stands.before]
    · intro c next
      rw [head?_normalizeNewlines] at next
      obtain ⟨d, first, rfl⟩ := Option.map_eq_some_iff.mp next
      split_ifs
      · decide
      · exact stands.after d first

theorem exists_between_of_normalizeNewlines {text left word right : List Char}
    (parts : normalizeNewlines text = left ++ word ++ right) (stands : WordBetween left word right) :
    ∃ before after, text = before ++ word ++ after ∧ WordBetween before word after ∧
      normalizeNewlines before = left := by
  obtain ⟨c, rest, rfl, starts⟩ := exists_start_of_isWord stands.isWord
  have other : c ≠ '\n' := by
    rintro rfl
    exact absurd starts (by decide)
  rw [List.append_assoc] at parts
  obtain ⟨before, others, rfl, rfl, ended⟩ := exists_parts_of_normalizeNewlines parts other
  have outside := stands.before
  rw [endsInWord_normalizeNewlines] at outside
  -- Both texts have a word here, and a word goes as far as its characters do.
  have found := wordBetween_takeWhile outside starts others
  obtain ⟨whole, found'⟩ := found.normalized
  rw [List.append_assoc, List.takeWhile_append_dropWhile, parts, List.append_assoc,
    List.append_cancel_left_eq] at whole
  have same : (c :: others).takeWhile isWordPart = c :: rest := by
    rw [← found'.takeWhile_eq, ← whole, stands.takeWhile_eq]
  refine ⟨before, (c :: others).dropWhile isWordPart, ?_, same ▸ found, rfl⟩
  rw [← same, List.append_assoc, List.takeWhile_append_dropWhile]

theorem loneReturns_pos {before after : List Char} (alone : after.head? ≠ some '\n') :
    0 < loneReturns (before ++ '\r' :: after) := by
  induction before with
  | nil => simp [loneReturns, alone]
  | cons c rest ih =>
    rw [List.cons_append, loneReturns]
    omega

theorem exists_loneReturn {text : List Char} (returned : 0 < loneReturns text) :
    ∃ before after, text = before ++ '\r' :: after ∧ after.head? ≠ some '\n' := by
  induction text with
  | nil => simp [loneReturns] at returned
  | cons c rest ih =>
    by_cases alone : c = '\r' ∧ rest.head? ≠ some '\n'
    · exact ⟨[], rest, by rw [alone.1, List.nil_append], alone.2⟩
    · rw [loneReturns, if_neg alone, Nat.zero_add] at returned
      obtain ⟨before, after, rfl, last⟩ := ih returned
      exact ⟨c :: before, after, rfl, last⟩

theorem loneReturns_append {left right : List Char} (apart : LineEndsApart left right) :
    loneReturns (left ++ right) = loneReturns left + loneReturns right := by
  have whole := count_normalizeNewlines (left ++ right)
  rw [normalizeNewlines_append apart, List.count_append, List.count_append, count_normalizeNewlines,
    count_normalizeNewlines] at whole
  omega

theorem exists_lines_of_normalizeNewlines (lines : List Char) :
    ∃ others, normalizeNewlines (lines ++ ['\n']) = others ++ ['\n'] := by
  induction lines with
  | nil => exact ⟨[], rfl⟩
  | cons c rest ih =>
    obtain ⟨others, same⟩ := ih
    exact ⟨lineFeedOf c (rest ++ ['\n']).head? ++ others, by simp [same]⟩

theorem columnAfter_normalizeNewlines {text : List Char} (joined : loneReturns text = 0) :
    columnAfter (normalizeNewlines text) = columnAfter text := by
  obtain ⟨above, line, rfl, single, starts⟩ := Document.exists_last_line text
  have unreturned : '\r' ∉ line := by
    intro member
    obtain ⟨inner, outer, rfl⟩ := List.append_of_mem member
    have alone : outer.head? ≠ some '\n' := by
      intro newline
      exact single (by simp [List.mem_of_mem_head? newline])
    have counted : 0 < loneReturns ((above ++ inner) ++ '\r' :: outer) := loneReturns_pos alone
    rw [List.append_assoc] at counted
    omega
  have apart : LineEndsApart above line := by
    intro returned
    rcases starts with rfl | ⟨lines, rfl⟩ <;> simp at returned
  have starts' : normalizeNewlines above = [] ∨ ∃ lines, normalizeNewlines above = lines ++ ['\n'] := by
    rcases starts with rfl | ⟨lines, rfl⟩
    · exact Or.inl rfl
    · exact Or.inr (exists_lines_of_normalizeNewlines lines)
  rw [normalizeNewlines_append apart, normalizeNewlines_of_not_mem unreturned, columnAfter_append single,
    columnAfter_append single, columnAfter_above starts, columnAfter_above starts']

theorem endsInWord_of_no_start {text : List Char} (others : ∀ c ∈ text, isWordStart c = false) :
    endsInWord false text = false := by
  induction text with
  | nil => rfl
  | cons c rest ih =>
    have step : endsInWord false (c :: rest) = endsInWord (isWordStart c) rest := rfl
    rw [step, others c (by simp)]
    exact ih fun d member => others d (List.mem_cons_of_mem c member)

theorem exists_word_after_return {before after : List Char} {c : Char}
    (alone : after.head? ≠ some '\n') (member : c ∈ after) (starts : isWordStart c = true) :
    ∃ left word right, before ++ '\r' :: after = left ++ word ++ right ∧
      WordBetween left word right ∧ 0 < loneReturns left := by
  have skipped : ∀ d ∈ after.takeWhile (!isWordStart ·), isWordStart d = false := by
    intro d member
    simpa using List.mem_takeWhile_imp member
  have passed : endsInWord false (before ++ '\r' :: after.takeWhile (!isWordStart ·)) = false := by
    rw [endsInWord_append]
    have ended : endsInWord (endsInWord false before) ['\r'] = false := by
      cases endsInWord false before <;> rfl
    rw [← List.singleton_append, endsInWord_append, ended]
    exact endsInWord_of_no_start skipped
  have returned : 0 < loneReturns (before ++ '\r' :: after.takeWhile (!isWordStart ·)) := by
    apply loneReturns_pos
    rw [List.head?_takeWhile]
    intro newline
    exact alone (Option.filter_eq_some_iff.mp newline).1
  cases reached : after.dropWhile (!isWordStart ·) with
  | nil =>
    have other := List.dropWhile_eq_nil_iff.mp reached c member
    simp [starts] at other
  | cons d rest =>
    have first : isWordStart d = true := by
      have head := List.head?_dropWhile_not (!isWordStart ·) after
      rw [reached] at head
      simpa using head
    refine ⟨_, _, _, ?_, wordBetween_takeWhile passed first rest, returned⟩
    rw [List.append_assoc, List.takeWhile_append_dropWhile, ← reached]
    simp

theorem loneReturns_eq_zero_of_word {left word right : List Char}
    (last : ∀ before after, left ++ word ++ right = before ++ '\r' :: after →
      after.head? ≠ some '\n' → ∀ c ∈ after, isWordStart c = false)
    (stands : WordBetween left word right) : loneReturns left = 0 := by
  by_contra returned
  obtain ⟨before, after, rfl, alone⟩ := exists_loneReturn (Nat.pos_of_ne_zero returned)
  have alone' : (after ++ (word ++ right)).head? ≠ some '\n' := by
    cases after with
    | nil => exact stands.lineEndsApart (by simp)
    | cons d others => exact alone
  obtain ⟨c, rest, rfl, starts⟩ := exists_start_of_isWord stands.isWord
  have other := last before (after ++ (c :: rest ++ right)) (by simp) alone' c (by simp)
  rw [starts] at other
  cases other

/-- If every word is found on the line that it is on when line ends are line feeds, no carriage return
that stands alone comes before a word. -/
theorem loneReturns_eq_zero_of_found {text : List Char}
    (found : ∀ left word right, text = left ++ word ++ right → WordBetween left word right →
      ∃ left' right', text = left' ++ word ++ right' ∧ WordBetween left' word right' ∧
        left'.count '\n' = (normalizeNewlines left).count '\n')
    {left word right : List Char} (parts : text = left ++ word ++ right)
    (stands : WordBetween left word right) : loneReturns left = 0 := by
  -- The induction is on what follows the word: it is found once more further down, after the same return.
  induction length : right.length using Nat.strong_induction_on generalizing left word right with
  | _ _ ih =>
    by_contra returned
    obtain ⟨left', right', parts', stands', line⟩ := found left word right parts stands
    rw [count_normalizeNewlines] at line
    rw [List.append_assoc] at parts parts'
    rcases List.append_eq_append_iff.mp (parts.symm.trans parts') with
      ⟨between, rfl, rest⟩ | ⟨between, rfl, _⟩
    · have present : between ≠ [] := by
        rintro rfl
        simp at line
        omega
      have long := List.length_pos_iff.mpr present
      have lengths := congrArg List.length rest
      simp only [List.length_append] at lengths
      have apart := stands.lineEndsApart
      rw [rest, LineEndsApart, List.head?_append_of_ne_nil _ present] at apart
      have later := ih right'.length (by omega) (by simpa using parts') stands' rfl
      rw [loneReturns_append apart] at later
      omega
    · rw [List.count_append] at line
      omega

end Text

end ModuleScope
