import Mathlib
import ModuleScope.Proofs.WordPositions

/-!
Positions of offsets at which characters begin. Such an offset has as many lines above it as there are
line feeds before it, and its column counts the characters since the last of them, so later offsets
have later positions. Where the bytes of some text stand, its first character begins.
-/
namespace ModuleScope

open Text Utf8

def Text.columnAfter (text : List Char) : Nat := (text.reverse.takeWhile (· != '\n')).length

theorem Text.columnAfter_append {left right : List Char} (single : '\n' ∉ right) :
    columnAfter (left ++ right) = columnAfter left + right.length := by
  have passed : ∀ c ∈ right.reverse, (c != '\n') = true := by
    intro c member
    rw [bne_iff_ne]
    rintro rfl
    exact single (List.mem_reverse.mp member)
  rw [columnAfter, List.reverse_append, List.takeWhile_append_of_pos passed, List.length_append,
    List.length_reverse, Nat.add_comm, columnAfter]

theorem Text.columnAfter_above {above : List Char}
    (starts : above = [] ∨ ∃ lines, above = lines ++ ['\n']) : columnAfter above = 0 := by
  rcases starts with rfl | ⟨lines, rfl⟩
  · rfl
  · simp [columnAfter]

namespace Document

/-- An offset at which a character begins, or the end of the text. -/
def Boundary (document : Document) (offset : Nat) : Prop :=
  ∃ left right, document.text.toList = left ++ right ∧ offset = (encode left).length

variable {document : Document}

theorem positionAt_encode {left right : List Char} (parts : document.text.toList = left ++ right) :
    document.positionAt (encode left).length = ⟨left.count '\n', columnAfter left⟩ := by
  have whole : document.text.toList = left ++ [] ++ right := by simpa using parts
  obtain ⟨above, inner, outer, below, rfl, rfl, line⟩ := exists_lineBetween whole (by simp)
  have single : '\n' ∉ inner := by
    intro member
    exact line.single (by simp [member])
  rw [List.append_assoc] at line
  rw [encode_append, List.length_append, line.positionAt_eq, columnAfter_append single,
    columnAfter_above line.starts, Nat.zero_add, List.count_append, List.count_eq_zero_of_not_mem single,
    Nat.add_zero]

theorem isPrefix_of_length_le {left right longer rest : List Char}
    (parts : document.text.toList = left ++ right) (parts' : document.text.toList = longer ++ rest)
    (fewer : (encode left).length ≤ (encode longer).length) : left <+: longer := by
  rcases List.append_eq_append_iff.mp (parts.symm.trans parts') with
    ⟨middle, rfl, _⟩ | ⟨middle, rfl, _⟩
  · exact List.prefix_append left middle
  · rw [encode_append, List.length_append] at fewer
    have nothing : encode middle = [] := List.length_eq_zero_iff.mp (by omega)
    rw [encode_eq_nil.mp nothing, List.append_nil]

theorem Boundary.positionAt_lt {first second : Nat} (begins : document.Boundary first)
    (resumes : document.Boundary second) (later : first < second) :
    document.positionAt first < document.positionAt second := by
  obtain ⟨left, right, parts, rfl⟩ := begins
  obtain ⟨longer, rest, parts', rfl⟩ := resumes
  obtain ⟨middle, rfl⟩ := isPrefix_of_length_le parts parts' later.le
  have present : 0 < middle.length := by
    rw [List.length_pos_iff]
    rintro rfl
    simp at later
  rw [positionAt_encode parts, positionAt_encode parts', List.count_append]
  change (_ < _ ∨ _ = _ ∧ _ < _)
  by_cases newline : '\n' ∈ middle
  · have counted := List.count_pos_iff.mpr newline
    left
    push_cast
    omega
  · right
    rw [columnAfter_append newline, List.count_eq_zero_of_not_mem newline]
    push_cast
    omega

theorem boundary_of_slice {start stop : Nat} {text : List Char} (present : text ≠ [])
    (bytes : document.slice start stop = encode text) : document.Boundary start := by
  obtain ⟨c, rest, rfl⟩ := List.exists_cons_of_ne_nil present
  have begins : (encode document.text.toList).drop start = String.utf8EncodeChar c ++
      (encode rest ++ (document.source.drop start).drop (stop - start)) := by
    rw [← List.append_assoc, ← encode_cons, ← bytes, slice, List.take_append_drop,
      document.source_eq]
  exact exists_left_of_drop begins

theorem exists_parts_of_slice {start stop : Nat} {text : List Char} (present : text ≠ [])
    (bounded : stop ≤ document.source.length) (bytes : document.slice start stop = encode text) :
    ∃ left right, document.text.toList = left ++ text ++ right ∧ start = (encode left).length ∧
      stop = (encode left).length + (encode text).length := by
  obtain ⟨left, rest, parts, rfl⟩ := boundary_of_slice present bytes
  have source : document.source = encode left ++ encode rest := by
    rw [document.source_eq, parts, encode_append]
  have long : 0 < (encode text).length := List.length_pos_iff.mpr (mt encode_eq_nil.mp present)
  have length := congrArg List.length bytes
  rw [slice, List.length_take, List.length_drop] at length
  have reached : stop = (encode left).length + (encode text).length := by omega
  rw [slice, source, List.drop_left, reached, Nat.add_sub_cancel_left] at bytes
  have begins : encode rest = encode text ++ (encode rest).drop (encode text).length := by
    nth_rewrite 1 [← List.take_append_drop (encode text).length (encode rest)]
    rw [bytes]
  obtain ⟨right, rfl⟩ := exists_right_of_encode begins
  exact ⟨left, right, by rw [parts, List.append_assoc], rfl, reached⟩

end Document

end ModuleScope
