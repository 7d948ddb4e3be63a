import Mathlib
import ModuleScope.Proofs.Positions

/-!
Offsets and positions lead back to each other. A position is first moved onto a line of the text and
into that line without the carriage returns at its end; the position of its offset is the position so
moved. In the other direction every boundary is reached again, but for those among the carriage
returns at the end of a line, which lead to the first of them.
-/
namespace ModuleScope

open Text Utf8

def Text.lines (text : List Char) : List (List Char) :=
  (text.splitOn '\n').map (trimEnd (· == '\r'))

theorem Text.length_splitOn_newline (text : List Char) :
    (text.splitOn '\n').length = text.count '\n' + 1 := by
  induction text with
  | nil => rfl
  | cons c rest ih =>
    rw [List.splitOn_cons_eq_if_modifyHead, List.count_cons]
    split
    · rw [List.length_cons, ih]
    · rw [List.length_modifyHead, ih]

theorem Text.take_trimEnd_append {drop : Char → Bool} {right : List Char}
    (kept : ∃ c ∈ right, drop c = false) (left : List Char) :
    (trimEnd drop (left ++ right)).take left.length = left := by
  obtain ⟨c, member, other⟩ := kept
  have present : (right.reverse.dropWhile drop).isEmpty = false := by
    rw [List.isEmpty_eq_false_iff, Ne, List.dropWhile_eq_nil_iff]
    intro dropped
    rw [dropped c (List.mem_reverse.mpr member)] at other
    cases other
  rw [trimEnd, List.reverse_append, List.dropWhile_append, present]
  simp

namespace Document

variable {document : Document}

theorem length_lines (document : Document) :
    (lines document.text.toList).length = document.lineCount := by
  rw [lineCount, document.lineStarts_eq, List.length_cons, length_lineStartsAfter, document.source_eq,
    count_newline_encode, lines, List.length_map, length_splitOn_newline]

namespace LineBetween

variable {above line below : List Char} (stands : document.LineBetween above line below)
include stands

theorem splitOn_eq :
    ∃ earlier later, document.text.toList.splitOn '\n' = earlier ++ line :: later ∧
      earlier.length = above.count '\n' := by
  have fromHere : ∃ later, (line ++ below).splitOn '\n' = line :: later := by
    rcases stands.ends with rfl | ⟨rest, rfl⟩
    · exact ⟨[], by rw [List.append_nil, List.splitOn_eq_singleton stands.single]⟩
    · refine ⟨rest.splitOn '\n', ?_⟩
      rw [List.splitOn_append_cons_self, List.splitOn_eq_singleton stands.single,
        List.singleton_append]
  obtain ⟨later, split⟩ := fromHere
  rw [stands.parts, List.append_assoc]
  rcases stands.starts with rfl | ⟨front, rfl⟩
  · exact ⟨[], later, split, rfl⟩
  · refine ⟨front.splitOn '\n', later, ?_, ?_⟩
    · rw [List.append_assoc, List.singleton_append, List.splitOn_append_cons_self, split]
    · rw [length_splitOn_newline, List.count_append]
      rfl

theorem getD_lines :
    (lines document.text.toList).getD (above.count '\n') [] = trimEnd (· == '\r') line := by
  obtain ⟨earlier, later, split, length⟩ := stands.splitOn_eq
  rw [lines, split, ← length]
  simp

end LineBetween

theorem exists_line (document : Document) {number : Nat} (existing : number < document.lineCount) :
    ∃ above line below, document.LineBetween above line below ∧ above.count '\n' = number := by
  induction number with
  | zero => exact ⟨[], _, _, lineBetween_from rfl (Or.inl rfl), rfl⟩
  | succ number ih =>
    obtain ⟨above, line, below, stands, counted⟩ := ih (by omega)
    have newlines : document.text.toList.count '\n' = number + below.count '\n' := by
      rw [stands.parts, List.count_append, List.count_append, counted,
        List.count_eq_zero_of_not_mem stands.single, Nat.add_zero]
    rw [← length_lines, lines, List.length_map, length_splitOn_newline, newlines] at existing
    rcases stands.ends with rfl | ⟨rest, rfl⟩
    · rw [List.count_nil] at existing
      omega
    · have parts : document.text.toList = (above ++ line ++ ['\n']) ++ rest := by
        simpa using stands.parts
      refine ⟨_, _, _, lineBetween_from parts (Or.inr ⟨_, rfl⟩), ?_⟩
      rw [List.count_append, List.count_append, counted,
        List.count_eq_zero_of_not_mem stands.single]
      rfl

/-- A position moved onto a line of the text and into that line. -/
def clamped (document : Document) (position : Position) : Position :=
  let lines := Text.lines document.text.toList
  let line := max 0 (min position.line (lines.length - 1))
  ⟨line, max 0 (min position.character (lines.getD line.toNat []).length)⟩

theorem exists_clamped (document : Document) (position : Position) :
    ∃ above line below, document.LineBetween above line below ∧
      ∃ column ≤ (trimEnd (· == '\r') line).length,
        document.clamped position = ⟨above.count '\n', column⟩ ∧
        document.offsetAt position = document.offsetAt ⟨above.count '\n', column⟩ := by
  have inhabited : 0 < document.lineCount := by
    rw [lineCount, document.lineStarts_eq]
    exact Nat.succ_pos _
  obtain ⟨above, line, below, stands, number⟩ := document.exists_line
    (by omega : (max 0 (min position.line (document.lineCount - 1))).toNat < document.lineCount)
  have level : max 0 (min position.line (document.lineCount - 1)) = (above.count '\n' : Int) := by
    omega
  obtain ⟨column, moved⟩ := Int.eq_ofNat_of_zero_le
    (le_max_left 0 (min position.character (trimEnd (· == '\r') line).length))
  refine ⟨above, line, below, stands, column, by omega, ?_, ?_⟩
  · simp only [clamped, document.length_lines, level, Int.toNat_natCast, stands.getD_lines, moved]
  · rw [stands.offsetAt_eq]
    simp only [offsetAt, level, Int.toNat_natCast, stands.lineText_eq, stands.lineStart, moved]

theorem positionAt_offsetAt (document : Document) (position : Position) :
    document.positionAt (document.offsetAt position) = document.clamped position := by
  obtain ⟨above, line, below, stands, column, bound, moved, same⟩ := document.exists_clamped position
  obtain ⟨returns, whole⟩ := isPrefix_trimEnd (· == '\r') line
  rw [moved, same, stands.offsetAt_eq]
  rw [← whole, ← List.take_append_drop column (trimEnd _ line), List.append_assoc] at stands
  rw [stands.positionAt_eq, List.length_take, Nat.min_eq_left bound]

/-- Carriage returns end a line, and no other one stands before them. -/
structure EndsLine (document : Document) (before returns after : List Char) : Prop where
  parts : document.text.toList = before ++ returns ++ after
  returned : ∀ c ∈ returns, c = '\r'
  first : before.getLast? ≠ some '\r'
  ends : after = [] ∨ ∃ rest, after = '\n' :: rest

namespace EndsLine

variable {before returns after : List Char}

theorem exists_lineBetween (closes : document.EndsLine before returns after) :
    ∃ above inner, before = above ++ inner ∧ document.LineBetween above (inner ++ returns) after ∧
      trimEnd (· == '\r') (inner ++ returns) = inner := by
  have single : '\n' ∉ returns := by
    intro member
    cases closes.returned _ member
  obtain ⟨above, inner, outer, below, rfl, rfl, line⟩ := Document.exists_lineBetween closes.parts single
  obtain rfl : outer = [] := by
    rcases closes.ends with none | ⟨rest, next⟩
    · exact (List.append_eq_nil_iff.mp none).1
    · cases outer with
      | nil => rfl
      | cons c others =>
        obtain rfl := (List.cons.inj next).1
        exact absurd (by simp) line.single
  rw [List.append_nil] at line
  have kept : ∀ c ∈ inner.getLast?, (c == '\r') = false := by
    intro c last
    rw [beq_eq_false_iff_ne]
    rintro rfl
    exact closes.first (by rw [List.getLast?_append, Option.mem_def.mp last]; rfl)
  have dropped : trimEnd (· == '\r') returns = [] := by
    rw [trimEnd, List.reverse_eq_nil_iff, List.dropWhile_eq_nil_iff]
    intro c member
    rw [closes.returned c (List.mem_reverse.mp member)]
    rfl
  refine ⟨above, inner, rfl, line, ?_⟩
  rw [trimEnd_append kept, dropped, List.append_nil]

theorem offsetAt_positionAt (closes : document.EndsLine before returns after) {offset : Nat}
    (boundary : document.Boundary offset) (low : (encode before).length ≤ offset)
    (high : offset ≤ (encode (before ++ returns)).length) :
    document.offsetAt (document.positionAt offset) = (encode before).length := by
  obtain ⟨left, right, parts, rfl⟩ := boundary
  obtain ⟨passed, rfl⟩ := isPrefix_of_length_le (closes.parts.trans (List.append_assoc ..)) parts low
  obtain ⟨coming, whole⟩ := isPrefix_of_length_le parts closes.parts high
  rw [List.append_assoc, List.append_cancel_left_eq] at whole
  obtain ⟨above, inner, rfl, line, trimmed⟩ := closes.exists_lineBetween
  have found := line.offsetAt_eq (inner ++ passed).length
  rw [trimmed, List.take_of_length_le (by simp)] at found
  rw [← whole, ← List.append_assoc] at line
  rw [List.append_assoc, encode_append, List.length_append, line.positionAt_eq, found, encode_append,
    List.length_append]

end EndsLine

theorem exists_endsLine {left outer below : List Char}
    (parts : document.text.toList = left ++ outer ++ below) (returned : ∀ c ∈ outer, c = '\r')
    (ends : below = [] ∨ ∃ rest, below = '\n' :: rest) :
    ∃ before passed, left = before ++ passed ∧ document.EndsLine before (passed ++ outer) below := by
  have split : left.rdropWhile (· == '\r') ++ left.rtakeWhile (· == '\r') = left :=
    List.rdropWhile_append_rtakeWhile ..
  refine ⟨left.rdropWhile (· == '\r'), left.rtakeWhile (· == '\r'), split.symm, ?_, ?_, ?_, ends⟩
  · rw [← List.append_assoc, split, parts]
  · intro c member
    rcases List.mem_append.mp member with passed | coming
    · simpa using List.mem_rtakeWhile_imp passed
    · exact returned c coming
  · intro last
    obtain ⟨present, last⟩ := List.mem_getLast?_eq_getLast last
    have other := List.rdropWhile_last_not (· == '\r') left present
    rw [← last] at other
    exact other rfl

/-- A boundary leads back to itself unless it follows some of the carriage returns at the end of its
line. -/
theorem Boundary.offsetAt_positionAt {offset : Nat} (boundary : document.Boundary offset)
    (elsewhere : ∀ before returns after, document.EndsLine before returns after →
      ¬ ((encode before).length < offset ∧ offset ≤ (encode (before ++ returns)).length)) :
    document.offsetAt (document.positionAt offset) = offset := by
  obtain ⟨left, right, parts, reached⟩ := id boundary
  have whole : document.text.toList = left ++ [] ++ right := by simpa using parts
  obtain ⟨above, inner, outer, below, rfl, rfl, line⟩ := exists_lineBetween whole (by simp)
  rw [List.append_nil] at line
  by_cases returned : ∀ c ∈ outer, c = '\r'
  · rw [← List.append_assoc] at parts
    obtain ⟨before, passed, start, closes⟩ := exists_endsLine parts returned line.ends
    rw [start, encode_append, List.length_append] at reached
    have high : offset ≤ (encode (before ++ (passed ++ outer))).length := by
      rw [encode_append, encode_append, List.length_append, List.length_append]
      omega
    have found := closes.offsetAt_positionAt boundary (by omega) high
    have only := elsewhere _ _ _ closes
    omega
  · push Not at returned
    have kept : ∃ c ∈ outer, (c == '\r') = false := by simpa using returned
    rw [reached, encode_append, List.length_append, line.positionAt_eq, line.offsetAt_eq,
      take_trimEnd_append kept]

/-- The position of the offset of a position is that position, moved onto a line of the text and into
the line without the carriage returns at its end. A boundary is the offset of its position, unless it
lies among the carriage returns that end its line; then the offset is where these begin. -/
theorem offsets_round_trip (document : Document) :
    (∀ position, document.positionAt (document.offsetAt position) = document.clamped position) ∧
    ∀ offset, document.Boundary offset →
      (∀ before returns after, document.EndsLine before returns after →
        (encode before).length ≤ offset → offset ≤ (encode (before ++ returns)).length →
        document.offsetAt (document.positionAt offset) = (encode before).length) ∧
      ((∀ before returns after, document.EndsLine before returns after →
          ¬ ((encode before).length < offset ∧ offset ≤ (encode (before ++ returns)).length)) →
        document.offsetAt (document.positionAt offset) = offset) := by
  refine ⟨document.positionAt_offsetAt, fun offset boundary => ⟨?_, boundary.offsetAt_positionAt⟩⟩
  intro before returns after closes
  exact closes.offsetAt_positionAt boundary

/-- Two carriage returns end the first line: the offset between them leads to the first one and that of
the next line to itself, and a position far outside is moved to the end of the first line. -/
theorem offsets_round_trip_returns :
    let document := Document.ofText "/w/a.ts" "é\r\r\nb"
    document.positionAt (document.offsetAt ⟨-3, 9⟩) = ⟨0, 1⟩ ∧
      document.Boundary 3 ∧ document.EndsLine ['é'] ['\r', '\r'] ['\n', 'b'] ∧
      document.offsetAt (document.positionAt 3) = 2 ∧
      document.Boundary 5 ∧ document.offsetAt (document.positionAt 5) = 5 := by
  intro document
  obtain ⟨moved, reached⟩ := offsets_round_trip document
  have among : document.Boundary 3 := ⟨"é\r".toList, "\r\nb".toList, by decide, by decide⟩
  have next : document.Boundary 5 := ⟨"é\r\r\n".toList, "b".toList, by decide, by decide⟩
  have closes : document.EndsLine ['é'] ['\r', '\r'] ['\n', 'b'] :=
    ⟨by decide, by simp, by decide, Or.inr ⟨['b'], rfl⟩⟩
  refine ⟨?_, among, closes, (reached 3 among).1 _ _ _ closes (by decide) (by decide), next,
    (reached 5 next).2 ?_⟩
  · rw [moved]
    decide
  · -- What lies before 5 and does not end before it holds the line feed.
    rintro before returns after closes ⟨low, high⟩
    have parts : document.text.toList = "é\r\r\n".toList ++ "b".toList := by decide
    obtain ⟨coming, whole⟩ :=
      isPrefix_of_length_le (closes.parts.trans (List.append_assoc ..)) parts low.le
    obtain ⟨further, longer⟩ := isPrefix_of_length_le parts closes.parts high
    rw [← whole, List.append_assoc, List.append_cancel_left_eq] at longer
    have present : coming ≠ [] := by
      rintro rfl
      rw [List.append_nil] at whole
      rw [whole] at low
      exact absurd low (by decide)
    have last := congrArg List.getLast? whole
    rw [List.getLast?_append_of_ne_nil _ present] at last
    have newline : '\n' ∈ returns := by
      rw [← longer]
      exact List.mem_append_left _ (List.mem_of_getLast? (last.trans (by decide)))
    cases closes.returned _ newline

end Document

end ModuleScope
