import Mathlib
import ModuleScope.Document
import ModuleScope.Proofs.Utf8
import ModuleScope.Proofs.Words

/-!
Lines and columns of words. A line stands between two parts of a text; where it starts in bytes, what
its text is and which offsets its columns have follows from these parts alone. So a cursor that touches
a word of the text is on exactly the bytes of that word.
-/
namespace ModuleScope

open Text Utf8

section LineStarts

variable (offset : Nat) (bytes : List UInt8)

theorem lineStartsAfter_append (more : List UInt8) :
    lineStartsAfter offset (bytes ++ more) =
      lineStartsAfter offset bytes ++ lineStartsAfter (offset + bytes.length) more := by
  induction bytes generalizing offset with
  | nil => rfl
  | cons byte rest ih =>
    have next : offset + 1 + rest.length = offset + (byte :: rest).length := by
      rw [List.length_cons]
      omega
    rw [List.cons_append, lineStartsAfter, lineStartsAfter, ih, next]
    split <;> rfl

theorem length_lineStartsAfter : (lineStartsAfter offset bytes).length = bytes.count 10 := by
  induction bytes generalizing offset with
  | nil => rfl
  | cons byte rest ih =>
    rw [lineStartsAfter]
    split
    · next newline => rw [newline, List.count_cons_self, List.length_cons, ih]
    · next other => rw [List.count_cons_of_ne other, ih]

variable {offset bytes}

theorem bounds_of_mem_lineStartsAfter {start : Nat} (member : start ∈ lineStartsAfter offset bytes) :
    offset < start ∧ start ≤ offset + bytes.length := by
  induction bytes generalizing offset with
  | nil => cases member
  | cons byte rest ih =>
    have further (inside : start ∈ lineStartsAfter (offset + 1) rest) :
        offset < start ∧ start ≤ offset + (byte :: rest).length := by
      have bounds := ih inside
      rw [List.length_cons]
      omega
    rw [lineStartsAfter] at member
    split at member
    · rcases List.mem_cons.mp member with rfl | inside
      · rw [List.length_cons]
        omega
      · exact further inside
    · exact further member

end LineStarts

theorem trimEnd_append {drop : Char → Bool} {left : List Char}
    (kept : ∀ c ∈ left.getLast?, drop c = false) (right : List Char) :
    trimEnd drop (left ++ right) = left ++ trimEnd drop right := by
  have whole : left.reverse.dropWhile drop = left.reverse := by
    cases backwards : left.reverse with
    | nil => rfl
    | cons c rest =>
      have last : left.getLast? = some c := by rw [← List.head?_reverse, backwards]; rfl
      rw [List.dropWhile_cons_of_neg (by simp [kept c last])]
  rw [trimEnd, trimEnd, List.reverse_append, List.dropWhile_append]
  split
  · next nothing => simp [whole, List.isEmpty_iff.mp nothing]
  · simp

theorem isPrefix_trimEnd (drop : Char → Bool) (text : List Char) : trimEnd drop text <+: text := by
  have suffix := List.dropWhile_suffix (l := text.reverse) drop
  rw [← List.reverse_prefix, List.reverse_reverse] at suffix
  exact suffix

namespace Document

structure LineBetween (document : Document) (above line below : List Char) : Prop where
  parts : document.text.toList = above ++ line ++ below
  starts : above = [] ∨ ∃ lines, above = lines ++ ['\n']
  single : '\n' ∉ line
  ends : below = [] ∨ ∃ rest, below = '\n' :: rest

namespace LineBetween

variable {document : Document} {above line below : List Char}

theorem source_eq (stands : document.LineBetween above line below) :
    document.source = encode above ++ encode line ++ encode below := by
  rw [document.source_eq, stands.parts, encode_append, encode_append]

theorem lineStarts_eq (stands : document.LineBetween above line below) :
    ∃ earlier, document.lineStarts = earlier ++ (encode above).length ::
        lineStartsAfter ((encode above).length + (encode line).length) (encode below) ∧
      earlier.length = above.count '\n' ∧ ∀ start ∈ earlier, start ≤ (encode above).length := by
  have none : lineStartsAfter (encode above).length (encode line) = [] := by
    rw [← List.length_eq_zero_iff, length_lineStartsAfter, count_newline_encode,
      List.count_eq_zero_of_not_mem stands.single]
  rw [document.lineStarts_eq, stands.source_eq, lineStartsAfter_append, lineStartsAfter_append,
    List.length_append, Nat.zero_add, Nat.zero_add, none, List.append_nil]
  rcases stands.starts with rfl | ⟨lines, rfl⟩
  · exact ⟨[], rfl, rfl, by simp⟩
  · have last : lineStartsAfter 0 (encode (lines ++ ['\n'])) =
        lineStartsAfter 0 (encode lines) ++ [(encode (lines ++ ['\n'])).length] := by
      rw [encode_append, lineStartsAfter_append, List.length_append, Nat.zero_add]
      rfl
    refine ⟨0 :: lineStartsAfter 0 (encode lines), ?_, ?_, ?_⟩
    · rw [last]
      simp
    · rw [List.length_cons, length_lineStartsAfter, count_newline_encode, List.count_append]
      rfl
    · intro start member
      rcases List.mem_cons.mp member with rfl | inside
      · omega
      · have bounds := bounds_of_mem_lineStartsAfter inside
        rw [encode_append, List.length_append]
        omega

theorem lineStart (stands : document.LineBetween above line below) :
    document.lineStarts.getD (above.count '\n') 0 = (encode above).length := by
  obtain ⟨earlier, starts, length, _⟩ := stands.lineStarts_eq
  rw [starts, ← length]
  simp

theorem hasLine (stands : document.LineBetween above line below) :
    document.hasLine (above.count '\n') = true := by
  obtain ⟨earlier, starts, length, _⟩ := stands.lineStarts_eq
  have bound : above.count '\n' < document.lineCount := by
    rw [lineCount, starts, List.length_append, List.length_cons]
    omega
  rw [Document.hasLine, Bool.and_eq_true, decide_eq_true_eq, decide_eq_true_eq]
  omega

theorem nextStart (stands : document.LineBetween above line below) :
    document.lineStarts[above.count '\n' + 1]? =
      (lineStartsAfter ((encode above).length + (encode line).length) (encode below)).head? := by
  obtain ⟨earlier, starts, length, _⟩ := stands.lineStarts_eq
  rw [starts, ← length, List.getElem?_append_right (Nat.le_add_right _ 1), Nat.add_sub_cancel_left,
    List.getElem?_cons_succ, List.head?_eq_getElem?]

theorem lineBytes_eq (stands : document.LineBetween above line below) :
    document.lineBytes (above.count '\n') = encode line := by
  have stretch : document.lineBytes (above.count '\n') = document.slice (encode above).length
      ((encode above).length + (encode line).length) := by
    have next := stands.nextStart
    rw [lineBytes, stands.lineStart]
    rcases stands.ends with rfl | ⟨rest, rfl⟩
    · rw [next, stands.source_eq]
      simp [lineStartsAfter]
    · have first : encode ('\n' :: rest) = 10 :: encode rest := rfl
      rw [next, first]
      simp [lineStartsAfter]
  rw [stretch, slice, stands.source_eq, List.append_assoc, List.drop_left, Nat.add_sub_cancel_left,
    List.take_left]

theorem lineText_eq (stands : document.LineBetween above line below) :
    document.lineText (above.count '\n') = trimEnd (· == '\r') line := by
  rw [lineText, stands.lineBytes_eq, decodeLossy_encode]

theorem positionAt_within (stands : document.LineBetween above line below) {count : Nat}
    (bound : count ≤ (encode line).length) :
    document.positionAt ((encode above).length + count : Nat) =
      ⟨above.count '\n', (decodeLossy ((encode line).take count)).length⟩ := by
  obtain ⟨earlier, starts, length, bounds⟩ := stands.lineStarts_eq
  have source := stands.source_eq
  set offset := (encode above).length + count with reached
  have inside : (max 0 (min (offset : Int) document.source.length)).toNat = offset := by
    have length := congrArg List.length source
    simp only [List.length_append] at length
    omega
  have before : document.lineStarts.countP (· ≤ offset) - 1 = above.count '\n' := by
    have all : earlier.countP (· ≤ offset) = earlier.length := by
      rw [List.countP_eq_length]
      intro start member
      have bound := bounds start member
      rw [decide_eq_true_eq]
      omega
    have none : (lineStartsAfter ((encode above).length + (encode line).length)
        (encode below)).countP (· ≤ offset) = 0 := by
      rw [List.countP_eq_zero]
      intro start member
      have bound := bounds_of_mem_lineStartsAfter member
      rw [decide_eq_true_eq]
      omega
    rw [starts, List.countP_append, List.countP_cons_of_pos (by rw [decide_eq_true_eq]; omega), all,
      none, length]
    rfl
  rw [positionAt, inside, before, stands.lineStart, slice, source, List.append_assoc, List.drop_left,
    reached, Nat.add_sub_cancel_left, List.take_append_of_le_length bound]

theorem positionAt_eq {left right : List Char}
    (stands : document.LineBetween above (left ++ right) below) :
    document.positionAt ((encode above).length + (encode left).length : Nat) =
      ⟨above.count '\n', left.length⟩ := by
  rw [stands.positionAt_within (by simp), encode_append, List.take_left, decodeLossy_encode]

theorem offsetAt_eq (stands : document.LineBetween above line below) (column : Nat) :
    document.offsetAt ⟨above.count '\n', column⟩ =
      (encode above).length + (encode ((trimEnd (· == '\r') line).take column)).length := by
  have existing := stands.hasLine
  rw [Document.hasLine, Bool.and_eq_true, decide_eq_true_eq, decide_eq_true_eq] at existing
  have number : (max 0 (min (above.count '\n' : Int) (document.lineCount - 1))).toNat =
      above.count '\n' := by omega
  rw [offsetAt, number, stands.lineText_eq, stands.lineStart]
  have character : (max 0 (min (column : Int) (trimEnd (· == '\r') line).length)).toNat =
      min column (trimEnd (· == '\r') line).length := by
    omega
  rw [character, ← List.take_eq_take_min]

end LineBetween

theorem exists_last_line (text : List Char) :
    ∃ above line, text = above ++ line ∧ '\n' ∉ line ∧
      (above = [] ∨ ∃ lines, above = lines ++ ['\n']) := by
  induction text using List.reverseRecOn with
  | nil => exact ⟨[], [], rfl, by simp, Or.inl rfl⟩
  | append_singleton front c ih =>
    by_cases newline : c = '\n'
    · exact ⟨front ++ ['\n'], [], by simp [newline], by simp, Or.inr ⟨front, rfl⟩⟩
    · obtain ⟨above, line, rfl, single, starts⟩ := ih
      exact ⟨above, line ++ [c], by simp, by simp [single, Ne.symm newline], starts⟩

theorem lineBetween_from {document : Document} {above rest : List Char}
    (parts : document.text.toList = above ++ rest)
    (starts : above = [] ∨ ∃ lines, above = lines ++ ['\n']) :
    document.LineBetween above (rest.takeWhile (· != '\n')) (rest.dropWhile (· != '\n')) := by
  refine ⟨?_, starts, ?_, ?_⟩
  · rw [parts, List.append_assoc, List.takeWhile_append_dropWhile]
  · intro member
    have other := List.mem_takeWhile_imp member
    simp at other
  · cases left : rest.dropWhile (· != '\n') with
    | nil => exact Or.inl rfl
    | cons c others =>
      have newline := List.head?_dropWhile_not (· != '\n') rest
      rw [left] at newline
      simp only [List.head?_cons, bne_eq_false_iff_eq] at newline
      exact Or.inr ⟨others, by rw [newline]⟩

theorem exists_lineBetween {document : Document} {left word right : List Char}
    (parts : document.text.toList = left ++ word ++ right) (single : '\n' ∉ word) :
    ∃ above inner outer below, left = above ++ inner ∧ right = outer ++ below ∧
      document.LineBetween above (inner ++ word ++ outer) below := by
  obtain ⟨above, inner, rfl, singleInner, starts⟩ := exists_last_line left
  have passed : ∀ c ∈ inner ++ word, (c != '\n') = true := by
    intro c member
    rw [bne_iff_ne]
    rintro rfl
    rcases List.mem_append.mp member with inside | inside
    · exact singleInner inside
    · exact single inside
  have whole : document.text.toList = above ++ (inner ++ word ++ right) := by simpa using parts
  have line := lineBetween_from whole starts
  rw [List.takeWhile_append_of_pos passed, List.dropWhile_append_of_pos passed] at line
  exact ⟨above, inner, _, _, rfl, (List.takeWhile_append_dropWhile).symm, line⟩

end Document

/-- A position touches a range that it lies in or that it stands right after. -/
def Range.touches (range : Range) (position : Position) : Prop :=
  range.start ≤ position ∧ position ≤ range.stop

theorem Range.touches_line {line start stop : Int} {position : Position}
    (touches : Range.touches ⟨⟨line, start⟩, ⟨line, stop⟩⟩ position) :
    position.line = line ∧ start ≤ position.character ∧ position.character ≤ stop := by
  obtain ⟨low, high⟩ := touches
  change (_ < _ ∨ _ = _ ∧ _ ≤ _) at low
  change (_ < _ ∨ _ = _ ∧ _ ≤ _) at high
  dsimp only at low high
  omega

theorem newline_not_mem {word : List Char} (isWord : Text.isWord word = true) : '\n' ∉ word := by
  intro member
  have part := isWordPart_of_mem isWord member
  exact absurd part (by decide)

/-- Text without carriage returns keeps its place when those at the end of its line are dropped. -/
theorem trimEnd_around {text : List Char} (present : text ≠ []) (unreturned : '\r' ∉ text)
    (inner outer : List Char) :
    trimEnd (· == '\r') (inner ++ text ++ outer) = inner ++ text ++ trimEnd (· == '\r') outer := by
  refine trimEnd_append (fun c last => ?_) outer
  rw [List.getLast?_append_of_ne_nil _ present] at last
  rw [beq_eq_false_iff_ne]
  rintro rfl
  exact unreturned (List.mem_of_getLast? last)

theorem trimEnd_word {word : List Char} (isWord : Text.isWord word = true) (inner outer : List Char) :
    trimEnd (· == '\r') (inner ++ word ++ outer) = inner ++ word ++ trimEnd (· == '\r') outer := by
  refine trimEnd_around ?_ ?_ inner outer
  · rintro rfl
    cases isWord
  · intro member
    have part := isWordPart_of_mem isWord member
    exact absurd part (by decide)

theorem endsInWord_above {above : List Char} (starts : above = [] ∨ ∃ lines, above = lines ++ ['\n']) :
    endsInWord false above = false := by
  rcases starts with rfl | ⟨lines, rfl⟩
  · rfl
  · rw [endsInWord_append]
    cases endsInWord false lines <;> decide

/-- A word keeps its place when only its line is looked at, without the line's end. -/
theorem Text.WordBetween.inLine {above inner word outer below : List Char}
    (stands : WordBetween (above ++ inner) word (outer ++ below))
    (starts : above = [] ∨ ∃ lines, above = lines ++ ['\n']) :
    WordBetween inner word (trimEnd (· == '\r') outer) := by
  refine ⟨stands.isWord, ?_, fun c first => ?_⟩
  · have before := stands.before
    rwa [endsInWord_append, endsInWord_above starts] at before
  · obtain ⟨rest, whole⟩ := (isPrefix_trimEnd (· == '\r') outer).trans (List.prefix_append outer below)
    refine stands.after c ?_
    rw [← whole, List.head?_append, Option.mem_def.mp first]
    rfl

namespace Document

theorem LineBetween.rangeOf_eq {document : Document} {above inner word outer below : List Char}
    (line : document.LineBetween above (inner ++ word ++ outer) below) :
    document.rangeOf ((encode above).length + (encode inner).length : Nat)
        ((encode above).length + (encode inner).length + (encode word).length : Nat) =
      ⟨⟨above.count '\n', inner.length⟩, ⟨above.count '\n', (inner ++ word).length⟩⟩ := by
  have first : document.positionAt ((encode above).length + (encode inner).length : Nat) =
      ⟨above.count '\n', inner.length⟩ := by
    rw [List.append_assoc] at line
    exact line.positionAt_eq
  have last : document.positionAt
      ((encode above).length + (encode inner).length + (encode word).length : Nat) =
      ⟨above.count '\n', (inner ++ word).length⟩ := by
    rw [← line.positionAt_eq, encode_append, List.length_append, Nat.add_assoc]
  rw [rangeOf, first, last]

theorem LineBetween.offsetAt_rangeOf {document : Document} {above inner word outer below : List Char}
    (line : document.LineBetween above (inner ++ word ++ outer) below)
    (trimmed : trimEnd (· == '\r') (inner ++ word ++ outer) =
      inner ++ word ++ trimEnd (· == '\r') outer) {start stop : Nat}
    (first : start = (encode above).length + (encode inner).length)
    (last : stop = start + (encode word).length) :
    document.offsetAt (document.rangeOf start stop).start = start ∧
      document.offsetAt (document.rangeOf start stop).stop = stop ∧
      document.slice start stop = encode word := by
  subst last
  subst first
  refine ⟨?_, ?_, ?_⟩
  · rw [line.rangeOf_eq, line.offsetAt_eq, trimmed, List.append_assoc, List.take_left]
  · rw [line.rangeOf_eq, line.offsetAt_eq, trimmed, List.take_left, encode_append, List.length_append,
      Nat.add_assoc]
  · have source : document.source =
        (encode above ++ encode inner) ++ (encode word ++ (encode outer ++ encode below)) := by
      rw [line.source_eq]
      simp
    rw [slice, source, ← List.length_append, List.drop_left, Nat.add_sub_cancel_left, List.take_left]

/-- A word takes up the bytes between two offsets: the positions of these lead back to them, and a
cursor that touches their range is on exactly that range. -/
structure WordSpan (document : Document) (start stop : Nat) (word : List Char) : Prop where
  isWord : Text.isWord word = true
  bytes : document.slice start stop = encode word
  first : document.offsetAt (document.rangeOf start stop).start = start
  last : document.offsetAt (document.rangeOf start stop).stop = stop
  begins : (document.rangeOf start stop).touches (document.rangeOf start stop).start
  found : ∀ position, (document.rangeOf start stop).touches position →
    document.wordRangeAt position = some (document.rangeOf start stop)

theorem wordSpan_of_between {document : Document} {left word right : List Char}
    (parts : document.text.toList = left ++ word ++ right) (stands : WordBetween left word right) :
    document.WordSpan (encode left).length ((encode left).length + (encode word).length) word := by
  obtain ⟨above, inner, outer, below, rfl, rfl, line⟩ :=
    exists_lineBetween parts (newline_not_mem stands.isWord)
  have trimmed := trimEnd_word stands.isWord inner outer
  rw [encode_append, List.length_append]
  obtain ⟨first, last, bytes⟩ := line.offsetAt_rangeOf trimmed rfl rfl
  have range := line.rangeOf_eq
  refine ⟨stands.isWord, bytes, first, last, ?_, fun position touches => ?_⟩
  · rw [range]
    exact ⟨Or.inr ⟨rfl, le_rfl⟩, Or.inr ⟨rfl, by simp⟩⟩
  · rw [range] at touches ⊢
    obtain ⟨same, low, high⟩ := Range.touches_line touches
    have found := (stands.inLine line.starts).find?_words low (by simpa using high)
    rw [wordRangeAt, same, line.hasLine, if_pos rfl, Int.toNat_natCast, line.lineText_eq, trimmed,
      found, Option.map_some, List.length_append]

theorem WordSpan.textOf_range {document : Document} {start stop : Nat} {word : List Char}
    (spans : document.WordSpan start stop word) :
    document.textOf (document.rangeOf start stop) = String.ofList word := by
  rw [textOf, spans.first, spans.last, spans.bytes, decodeLossy_encode]

end Document

end ModuleScope
