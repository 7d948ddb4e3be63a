import Mathlib
import ModuleScope.Proofs.Positions

/-!
Positions follow offsets. An offset inside a character has the position of the character's end, since
the bytes before it are read as one character; so every offset has the position of the first boundary
that is not before it, and the order of boundaries gives the order of all offsets.
-/
namespace ModuleScope

open Text Utf8

namespace Position

variable {left right : Position}

theorem le_of_lt (before : left < right) : left ≤ right := by
  change (_ < _ ∨ _ = _ ∧ _ < _) at before
  change (_ < _ ∨ _ = _ ∧ _ ≤ _)
  omega

theorem not_lt_of_le (before : left ≤ right) : ¬ right < left := by
  intro after
  change (_ < _ ∨ _ = _ ∧ _ ≤ _) at before
  change (_ < _ ∨ _ = _ ∧ _ < _) at after
  omega

end Position

namespace Document

variable {document : Document}

theorem LineBetween.positionAt_cut {above inner outer below : List Char} {c : Char}
    (line : document.LineBetween above (inner ++ c :: outer) below) {count : Nat} (present : 0 < count)
    (bound : count ≤ c.utf8Size) :
    document.positionAt ((encode above).length + ((encode inner).length + count) : Nat) =
      ⟨above.count '\n', inner.length + 1⟩ := by
  have inside : count ≤ (String.utf8EncodeChar c).length := by rwa [String.length_utf8EncodeChar]
  have within : (encode inner).length + count ≤ (encode (inner ++ c :: outer)).length := by
    rw [encode_append, encode_cons, List.length_append, List.length_append]
    omega
  rw [line.positionAt_within within, encode_append, encode_cons, List.take_length_add_append,
    List.take_append_of_le_length inside, length_decodeLossy_append,
    length_decodeLossy_cut present bound]
  push_cast
  rfl

/-- An offset inside a character has the position of the character's end. -/
theorem positionAt_inside {left right : List Char} {c : Char}
    (parts : document.text.toList = left ++ c :: right) {offset : Nat}
    (after : (encode left).length < offset) (before : offset < (encode (left ++ [c])).length) :
    document.positionAt offset = document.positionAt (encode (left ++ [c])).length := by
  have whole : (encode (left ++ [c])).length = (encode left).length + c.utf8Size := by
    rw [encode_append, List.length_append, encode_cons, encode_nil, List.append_nil,
      String.length_utf8EncodeChar]
  have single : '\n' ∉ [c] := by
    -- A line feed is one byte, so no offset is inside it.
    rw [List.mem_singleton]
    rintro rfl
    have size : ('\n').utf8Size = 1 := rfl
    omega
  have around : document.text.toList = left ++ [c] ++ right := by simpa using parts
  obtain ⟨above, inner, outer, below, rfl, rfl, line⟩ := exists_lineBetween around single
  rw [List.append_assoc, List.singleton_append] at line
  rw [whole] at before ⊢
  rw [encode_append, List.length_append] at after before ⊢
  obtain ⟨count, reached⟩ := Nat.exists_eq_add_of_le after.le
  rw [reached, Nat.add_assoc, Nat.add_assoc, line.positionAt_cut (by omega) (by omega),
    line.positionAt_cut c.utf8Size_pos le_rfl]

/-- Every offset has the position of the first boundary that is not before it. -/
theorem exists_boundary_from (document : Document) {offset : Nat}
    (inside : offset ≤ document.source.length) :
    ∃ stop, document.Boundary stop ∧ offset ≤ stop ∧
      (∀ other, document.Boundary other → offset ≤ other → stop ≤ other) ∧
      document.positionAt offset = document.positionAt stop := by
  classical
  have last : document.Boundary document.source.length :=
    ⟨document.text.toList, [], by simp, by rw [document.source_eq]⟩
  have exists_from : ∃ stop, document.Boundary stop ∧ offset ≤ stop := ⟨_, last, inside⟩
  have least (other : Nat) (boundary : document.Boundary other) (notBefore : offset ≤ other) :
      Nat.find exists_from ≤ other := Nat.find_min' exists_from ⟨boundary, notBefore⟩
  obtain ⟨boundary, notBefore⟩ := Nat.find_spec exists_from
  refine ⟨Nat.find exists_from, boundary, notBefore, least, ?_⟩
  obtain ⟨left, right, parts, stop⟩ := boundary
  rw [stop] at least notBefore ⊢
  rcases notBefore.eq_or_lt with same | cut
  · rw [same]
  · cases left using List.reverseRecOn with
    | nil => simp at cut
    | append_singleton before c _ =>
      rw [List.append_assoc, List.singleton_append] at parts
      have shorter : (encode before).length < (encode (before ++ [c])).length := by
        simp [c.utf8Size_pos]
      have after : (encode before).length < offset := by
        by_contra reached
        have bound := least _ ⟨before, c :: right, parts, rfl⟩ (Nat.le_of_not_lt reached)
        omega
      exact positionAt_inside parts after cut

theorem Boundary.positionAt_le {first second : Nat} (begins : document.Boundary first)
    (resumes : document.Boundary second) (later : first ≤ second) :
    document.positionAt first ≤ document.positionAt second := by
  rcases later.eq_or_lt with rfl | before
  · exact Or.inr ⟨rfl, le_rfl⟩
  · exact Position.le_of_lt (begins.positionAt_lt resumes before)

theorem positionAt_clamped (document : Document) (offset : Int) :
    document.positionAt offset =
      document.positionAt ((max 0 (min offset document.source.length)).toNat : Nat) := by
  have again : (max 0 (min (((max 0 (min offset document.source.length)).toNat : Nat) : Int)
      document.source.length)).toNat = (max 0 (min offset document.source.length)).toNat := by
    omega
  rw [positionAt, positionAt, again]

theorem positionAt_mono (document : Document) {first second : Int} (later : first ≤ second) :
    document.positionAt first ≤ document.positionAt second := by
  rw [document.positionAt_clamped first, document.positionAt_clamped second]
  obtain ⟨start, begins, _, least, same⟩ :=
    document.exists_boundary_from
      (by omega : (max 0 (min first document.source.length)).toNat ≤ document.source.length)
  obtain ⟨stop, resumes, notBefore, _, same'⟩ :=
    document.exists_boundary_from
      (by omega : (max 0 (min second document.source.length)).toNat ≤ document.source.length)
  rw [same, same']
  exact begins.positionAt_le resumes (least stop resumes (by omega))

/-- A later offset never has an earlier position, and where characters begin it has a later one; an
offset inside a character has the position of the character's end. So no range stops before it starts. -/
theorem positionAt_follows_offsets (document : Document) :
    (∀ first second : Int, first ≤ second →
      document.positionAt first ≤ document.positionAt second) ∧
    (∀ first second : Nat, document.Boundary first → document.Boundary second → first < second →
      document.positionAt first < document.positionAt second) ∧
    (∀ left c right, document.text.toList = left ++ c :: right → ∀ offset : Nat,
      (encode left).length < offset → offset < (encode (left ++ [c])).length →
      document.positionAt offset = document.positionAt (encode (left ++ [c])).length) ∧
    ∀ first second : Int, first ≤ second →
      ¬ (document.rangeOf first second).stop < (document.rangeOf first second).start := by
  refine ⟨fun _ _ => document.positionAt_mono, fun _ _ => Boundary.positionAt_lt, ?_, ?_⟩
  · intro left c right parts offset
    exact positionAt_inside parts
  · intro first second later
    exact Position.not_lt_of_le (document.positionAt_mono later)

/-- A character of four bytes after a line feed: the three offsets inside it have the position of its
end, which comes after that of its start. -/
theorem positionAt_follows_offsets_fourBytes :
    let document := Document.ofText "/w/a.ts" "é\r\n😀a"
    document.Boundary 4 ∧ document.Boundary 8 ∧
      document.positionAt 4 < document.positionAt 8 ∧
      (∀ offset : Nat, 4 < offset → offset < 8 → document.positionAt offset = document.positionAt 8) ∧
      document.positionAt 8 = ⟨1, 1⟩ ∧
      document.positionAt (-3) ≤ document.positionAt 3 ∧
      ¬ (document.rangeOf 1 6).stop < (document.rangeOf 1 6).start := by
  intro document
  obtain ⟨follow, strict, inside, ranges⟩ := positionAt_follows_offsets document
  have begins : document.Boundary 4 := ⟨"é\r\n".toList, "😀a".toList, by decide, by decide⟩
  have resumes : document.Boundary 8 := ⟨"é\r\n😀".toList, "a".toList, by decide, by decide⟩
  refine ⟨begins, resumes, strict 4 8 begins resumes (by decide), ?_, by decide,
    follow (-3) 3 (by decide), ranges 1 6 (by decide)⟩
  intro offset after before
  exact inside "é\r\n".toList '😀' ['a'] (by decide) offset after before

end Document

end ModuleScope
