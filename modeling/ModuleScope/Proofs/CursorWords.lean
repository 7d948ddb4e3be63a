import Mathlib
import ModuleScope.Proofs.IdentifierLookup
import ModuleScope.Proofs.OffsetRoundTrip

/-!
The word under a cursor, told from the characters of its line alone. The scan from the left leaves a
word only where a character stands that no word has, and enters one at the first character that is no
digit; so what it finds are the runs of word characters without the digits they begin with, and a column
touches at most one of them.
-/
namespace ModuleScope

open TypeScript Text Utf8

namespace Text

theorem isWordPart_iff {c : Char} :
    isWordPart c = true ↔ isWordStart c = true ∨ c.isDigit = true := by
  rw [isWordPart, Bool.or_eq_true]
  apply or_congr Iff.rfl
  simp [Char.isDigit, Char.le_def]

theorem isDigit_of_isWordStart {c : Char} (starts : isWordStart c = true) : c.isDigit = false := by
  rw [Bool.eq_false_iff]
  intro digit
  simp only [isWordStart, Char.isAlpha, Char.isUpper, Char.isLower, Char.isDigit, Bool.or_eq_true,
    Bool.and_eq_true, decide_eq_true_eq, beq_iff_eq, UInt32.le_iff_toNat_le, ge_iff_le, Char.reduceVal,
    UInt32.reduceToNat] at starts digit
  rcases starts with ((upper | lower) | rfl) | rfl
  · omega
  · omega
  · revert digit
    decide
  · revert digit
    decide

/-- A text does not end inside a word exactly if the word characters that it ends with are digits. -/
theorem endsInWord_eq_false_iff {text : List Char} :
    endsInWord false text = false ↔ ∀ c ∈ text.rtakeWhile isWordPart, c.isDigit = true := by
  induction text using List.reverseRecOn with
  | nil => simp [endsInWord]
  | append_singleton front c ih =>
    have step : endsInWord false (front ++ [c]) =
        if endsInWord false front then isWordPart c else isWordStart c := endsInWord_append ..
    rw [step, List.rtakeWhile_concat]
    by_cases starts : isWordStart c = true
    · have part := isWordPart_of_isWordStart starts
      simp [starts, part, isDigit_of_isWordStart starts]
    · by_cases digit : c.isDigit = true
      · have part : isWordPart c = true := isWordPart_iff.mpr (Or.inr digit)
        simp [starts, part, ih, or_imp, forall_and, digit]
      · have other : ¬ isWordPart c = true := by simp [isWordPart_iff, starts, digit]
        simp [starts, other]

/-- The characters of a text from `start` up to `stop` are a whole word: letters, digits, `_` and `$` of
which the first is no digit, with none of them following, and only digits of them right before. -/
structure WholeWord (text : List Char) (start stop : Nat) : Prop where
  inhabited : start < stop
  bounded : stop ≤ text.length
  parts : ∀ c ∈ (text.take stop).drop start, isWordPart c = true
  first : ∀ c ∈ text[start]?, c.isDigit = false
  after : ∀ c ∈ text[stop]?, isWordPart c = false
  before : ∀ c ∈ (text.take start).rtakeWhile isWordPart, c.isDigit = true

theorem isWord_iff {word : List Char} :
    isWord word = true ↔ word ≠ [] ∧ (∀ c ∈ word, isWordPart c = true) ∧
      ∀ c ∈ word.head?, c.isDigit = false := by
  cases word with
  | nil => simp [isWord]
  | cons c rest =>
    constructor
    · intro word
      refine ⟨by simp, fun each => isWordPart_of_mem word, ?_⟩
      simpa using isDigit_of_isWordStart (Bool.and_eq_true_iff.mp word).1
    · rintro ⟨_, parts, first⟩
      have digit : c.isDigit = false := by simpa using first
      have starts : isWordStart c = true := by
        simpa [isWordPart_iff, digit] using parts c (by simp)
      rw [isWord, starts, Bool.true_and, List.all_eq_true]
      intro each member
      exact parts each (List.mem_cons_of_mem c member)

theorem WordBetween.wholeWord {left word right : List Char} (stands : WordBetween left word right) :
    WholeWord (left ++ word ++ right) left.length (left ++ word).length := by
  obtain ⟨present, parts, first⟩ := isWord_iff.mp stands.isWord
  have long := List.length_pos_iff.mpr present
  have head : (left ++ word ++ right)[left.length]? = word.head? := by
    rw [List.append_assoc, List.getElem?_append_right le_rfl, Nat.sub_self,
      List.getElem?_append_left long, List.head?_eq_getElem?]
  have next : (left ++ word ++ right)[(left ++ word).length]? = right.head? := by
    rw [List.getElem?_append_right le_rfl, Nat.sub_self, List.head?_eq_getElem?]
  refine ⟨by simpa using long, by simp, ?_, ?_, ?_, ?_⟩
  · rwa [List.take_left, List.drop_left]
  · rwa [head]
  · rw [next]
    exact stands.after
  · rw [List.append_assoc, List.take_left]
    exact endsInWord_eq_false_iff.mp stands.before

theorem WholeWord.exists_between {text : List Char} {start stop : Nat} (whole : WholeWord text start stop) :
    ∃ left word right, text = left ++ word ++ right ∧ WordBetween left word right ∧
      start = left.length ∧ stop = (left ++ word).length ∧ word = (text.take stop).drop start := by
  have order := whole.inhabited
  have bound := whole.bounded
  have front : text.take start ++ (text.take stop).drop start = text.take stop := by
    have shorter : text.take start = (text.take stop).take start := by
      rw [List.take_take, Nat.min_eq_left order.le]
    rw [shorter, List.take_append_drop]
  have long : ((text.take stop).drop start).length = stop - start := by
    rw [List.length_drop, List.length_take, Nat.min_eq_left bound]
  refine ⟨text.take start, (text.take stop).drop start, text.drop stop, ?_, ⟨?_, ?_, ?_⟩, ?_, ?_, rfl⟩
  · rw [front, List.take_append_drop]
  · refine isWord_iff.mpr ⟨?_, whole.parts, ?_⟩
    · rw [← List.length_pos_iff]
      omega
    · rw [List.head?_drop, List.getElem?_take_of_lt order]
      exact whole.first
  · exact endsInWord_eq_false_iff.mpr whole.before
  · rw [List.head?_drop]
    exact whole.after
  · rw [List.length_take]
    omega
  · rw [front, List.length_take]
    omega

theorem find?_words_eq_some_iff {text : List Char} {column : Int} {start stop : Nat} :
    (words text).find? (fun (start, stop) => start ≤ column && column ≤ stop) = some (start, stop) ↔
      WholeWord text start stop ∧ start ≤ column ∧ column ≤ stop := by
  constructor
  · intro found
    have touched : (start : Int) ≤ column ∧ column ≤ stop := by simpa using List.find?_some found
    refine ⟨?_, touched⟩
    rcases mem_wordsFrom_cases (List.mem_of_find?_eq_some found) with ⟨_, _, _, same, _⟩ |
      ⟨left, word, right, rfl, outside, isWord, after, first, last⟩
    · cases same
    · simp only [Nat.zero_add] at first last
      subst first
      subst last
      have whole := WordBetween.wholeWord ⟨isWord, outside, after⟩
      rwa [List.length_append] at whole
  · rintro ⟨whole, low, high⟩
    obtain ⟨left, word, right, rfl, stands, rfl, rfl, _⟩ := whole.exists_between
    rw [List.length_append] at high ⊢
    exact stands.find?_words low (by simpa using high)

end Text

/-- A word of a line is one of the whole text, since no line begins or ends inside a word. -/
theorem Text.WordBetween.inText {above inner word outer below : List Char}
    (stands : WordBetween inner word (trimEnd (· == '\r') outer))
    (starts : above = [] ∨ ∃ lines, above = lines ++ ['\n'])
    (ends : below = [] ∨ ∃ rest, below = '\n' :: rest) :
    WordBetween (above ++ inner) word (outer ++ below) := by
  refine ⟨stands.isWord, ?_, ?_⟩
  · rw [endsInWord_append, endsInWord_above starts]
    exact stands.before
  · intro c next
    cases outer with
    | nil =>
      rcases ends with rfl | ⟨rest, rfl⟩
      · cases next
      · obtain rfl : '\n' = c := by simpa using next
        decide
    | cons d others =>
      obtain rfl : d = c := by simpa using next
      by_cases returned : d = '\r'
      · rw [returned]
        decide
      · have kept : trimEnd (· == '\r') (d :: others) = d :: trimEnd (· == '\r') others :=
          @trimEnd_append (· == '\r') [d] (by simp [returned]) others
        apply stands.after
        rw [kept]
        rfl

namespace Document

variable {document : Document} {position : Position} {text : List Char} {start stop : Nat}

theorem getElem?_lines {number : Nat} :
    (lines document.text.toList)[number]? = some text ↔
      number < document.lineCount ∧ text = document.lineText number := by
  have same (bound : number < document.lineCount) :
      (lines document.text.toList)[number]? = some (document.lineText number) := by
    obtain ⟨above, line, below, stands, rfl⟩ := document.exists_line bound
    rw [stands.lineText_eq, ← stands.getD_lines]
    rw [← document.length_lines] at bound
    rw [List.getD_eq_getElem _ _ bound, List.getElem?_eq_getElem bound]
  constructor
  · intro found
    have bound : number < document.lineCount := by
      rw [← document.length_lines]
      exact (List.getElem?_eq_some_iff.mp found).1
    rw [same bound] at found
    exact ⟨bound, (Option.some.inj found).symm⟩
  · rintro ⟨bound, rfl⟩
    exact same bound

/-- A position is on a line of a document and touches a whole word of that line. -/
structure OnWord (document : Document) (position : Position) (text : List Char) (start stop : Nat) :
    Prop where
  numbered : 0 ≤ position.line
  line : (lines document.text.toList)[position.line.toNat]? = some text
  word : WholeWord text start stop
  low : start ≤ position.character
  high : position.character ≤ stop

theorem OnWord.touches (on : document.OnWord position text start stop) :
    Range.touches ⟨⟨position.line, start⟩, ⟨position.line, stop⟩⟩ position :=
  ⟨Or.inr ⟨rfl, on.low⟩, Or.inr ⟨rfl, on.high⟩⟩

theorem OnWord.exists_between (on : document.OnWord position text start stop) :
    ∃ left right, document.text.toList = left ++ (text.take stop).drop start ++ right ∧
      WordBetween left ((text.take stop).drop start) right ∧
      document.rangeOf (encode left).length
          ((encode left).length + (encode ((text.take stop).drop start)).length : Nat) =
        ⟨⟨position.line, start⟩, ⟨position.line, stop⟩⟩ := by
  obtain ⟨bound, rfl⟩ := getElem?_lines.mp on.line
  obtain ⟨above, line, below, stands, number⟩ := document.exists_line bound
  obtain ⟨inner, word, rest, trimmed, between, rfl, rfl, same⟩ := on.word.exists_between
  rw [← same]
  have numbered : position.line = (above.count '\n' : Nat) := by
    have positive := on.numbered
    omega
  -- The line goes on with the carriage returns at its end, which no word has.
  rw [← number, stands.lineText_eq] at trimmed
  obtain ⟨returns, whole⟩ := isPrefix_trimEnd (· == '\r') line
  rw [trimmed, List.append_assoc] at whole
  subst whole
  rw [trimEnd_word between.isWord, List.append_cancel_left_eq] at trimmed
  rw [← trimmed] at between
  refine ⟨above ++ inner, (rest ++ returns) ++ below, ?_, between.inText stands.starts stands.ends, ?_⟩
  · rw [stands.parts]
    simp
  · rw [encode_append, List.length_append, stands.rangeOf_eq, numbered]

theorem OnWord.exists_wordSpan (on : document.OnWord position text start stop) :
    ∃ first last, document.WordSpan first last ((text.take stop).drop start) ∧
      document.rangeOf first last = ⟨⟨position.line, start⟩, ⟨position.line, stop⟩⟩ := by
  obtain ⟨left, right, parts, between, range⟩ := on.exists_between
  exact ⟨_, _, wordSpan_of_between parts between, range⟩

theorem exists_onWord {range : Range} (touched : document.wordRangeAt position = some range) :
    ∃ text start stop, document.OnWord position text start stop ∧
      range = ⟨⟨position.line, start⟩, ⟨position.line, stop⟩⟩ := by
  rw [wordRangeAt] at touched
  split at touched
  · next existing =>
    obtain ⟨⟨start, stop⟩, scanned, rfl⟩ := Option.map_eq_some_iff.mp touched
    obtain ⟨whole, low, high⟩ := find?_words_eq_some_iff.mp scanned
    rw [hasLine, Bool.and_eq_true, decide_eq_true_eq, decide_eq_true_eq] at existing
    have bound : position.line.toNat < document.lineCount := by omega
    have line := getElem?_lines.mpr ⟨bound, rfl⟩
    exact ⟨_, start, stop, ⟨existing.1, line, whole, low, high⟩, rfl⟩
  · cases touched

theorem OnWord.wordRangeAt_eq (on : document.OnWord position text start stop) :
    document.wordRangeAt position = some ⟨⟨position.line, start⟩, ⟨position.line, stop⟩⟩ := by
  obtain ⟨first, last, spans, range⟩ := on.exists_wordSpan
  have reached := spans.found position
  rw [range] at reached
  exact reached on.touches

/-- The word that a position touches is the whole word at its column: there is a range at a position
exactly if the position is on a line that has such a word, no column touches two of them, and the name of
the word is its characters, whose bytes are those of its span. -/
theorem word_under_cursor (document : Document) (position : Position) :
    (∀ range, document.wordRangeAt position = some range ↔
      ∃ text start stop, document.OnWord position text start stop ∧
        range = ⟨⟨position.line, start⟩, ⟨position.line, stop⟩⟩) ∧
    (∀ text start stop text' start' stop', document.OnWord position text start stop →
      document.OnWord position text' start' stop' → start = start' ∧ stop = stop') ∧
    ∀ text start stop, document.OnWord position text start stop → ∀ tree,
      ∃ word, document.wordAt? tree position = some word ∧ word.name ≠ "" ∧
        word.name.toList = (text.take stop).drop start ∧
        encode word.name.toList = document.slice word.span.start word.span.stop ∧
        document.rangeOf word.span.start word.span.stop =
          ⟨⟨position.line, start⟩, ⟨position.line, stop⟩⟩ := by
  refine ⟨?_, ?_, ?_⟩
  · intro range
    constructor
    · exact exists_onWord
    · rintro ⟨text, start, stop, on, rfl⟩
      exact on.wordRangeAt_eq
  · intro text start stop text' start' stop' on on'
    have same := on.wordRangeAt_eq.symm.trans on'.wordRangeAt_eq
    simp only [Option.some.injEq, Range.mk.injEq, Position.mk.injEq, Nat.cast_inj] at same
    exact ⟨same.1.2, same.2.2⟩
  · intro text start stop on tree
    obtain ⟨first, last, spans, range⟩ := on.exists_wordSpan
    have touches := on.touches
    rw [← range] at touches
    refine ⟨_, spans.wordAt?_eq tree touches, spans.name_ne_empty, ?_, ?_, range⟩
    · exact String.toList_ofList
    · rw [String.toList_ofList, spans.bytes]

/-- Digits stand before the word, more than one byte is taken by a character above it, and the cursor is
right after its last character. -/
theorem word_under_cursor_after_digits :
    let document := Document.ofText "/w/a.ts" "é;\n12ab 名cd\r\n"
    document.OnWord ⟨1, 4⟩ "12ab 名cd".toList 2 4 ∧
      document.wordRangeAt ⟨1, 4⟩ = some ⟨⟨1, 2⟩, ⟨1, 4⟩⟩ ∧
      (∀ text start stop, document.OnWord ⟨1, 4⟩ text start stop → 2 = start ∧ 4 = stop) ∧
      ∃ word, document.wordAt? none ⟨1, 4⟩ = some word ∧ word.name.toList = ['a', 'b'] ∧
        document.slice word.span.start word.span.stop = [97, 98] := by
  intro document
  have whole : WholeWord "12ab 名cd".toList 2 4 :=
    ⟨by decide, by decide, List.all_eq_true.mp (by decide), by simp,
      by simp [isWordPart, isWordStart], List.all_eq_true.mp (by decide)⟩
  have on : document.OnWord ⟨1, 4⟩ "12ab 名cd".toList 2 4 :=
    ⟨by decide, by decide, whole, by decide, by decide⟩
  obtain ⟨ranges, unique, names⟩ := word_under_cursor document ⟨1, 4⟩
  obtain ⟨word, looked, _, name, bytes, _⟩ := names _ _ _ on none
  have spelled : word.name.toList = ['a', 'b'] := name.trans (by decide)
  refine ⟨on, (ranges _).mpr ⟨_, _, _, on, rfl⟩, ?_, word, looked, spelled, ?_⟩
  · intro text start stop
    exact unique _ _ _ _ _ _ on
  · rw [← bytes, spelled]
    decide

end Document

end ModuleScope
