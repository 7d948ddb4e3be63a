import Mathlib
import ModuleScope.Analyzer.Basic

/-!
Keys of queries. A path may hold colons, but the two numbers at the end of a key hold none, so a key
gives back the whole query it was made from; and it begins with the key of its file.
-/
namespace ModuleScope

private theorem colon_not_mem_natural (number : Nat) : ':' ∉ number.repr.toList := by
  intro member
  rw [Nat.toList_repr] at member
  have digit := Nat.isDigit_of_mem_toDigits (by omega) (by omega) member
  exact absurd digit (by decide)

theorem colon_not_mem_number (number : Int) : ':' ∉ (toString number).toList := by
  change ':' ∉ number.repr.toList
  rw [Int.repr_eq_if]
  split
  · exact colon_not_mem_natural _
  · rw [String.toList_append, List.mem_append]
    rintro (sign | digits)
    · exact absurd sign (by decide)
    · exact colon_not_mem_natural _ digits

theorem split_at_last {α : Type} {separator : α} {before before' after after' : List α}
    (absent : separator ∉ after) (absent' : separator ∉ after')
    (same : before ++ separator :: after = before' ++ separator :: after') :
    before = before' ∧ after = after' := by
  rcases List.append_eq_append_iff.mp same with ⟨gap, longer, rest⟩ | ⟨gap, longer, rest⟩
  · cases gap with
    | nil => exact ⟨by simpa using longer.symm, by simpa using rest⟩
    | cons head gap =>
      obtain ⟨rfl, rfl⟩ := List.cons.inj rest
      exact absurd (by simp) absent
  · cases gap with
    | nil => exact ⟨by simpa using longer, by simpa using rest.symm⟩
    | cons head gap =>
      obtain ⟨rfl, rfl⟩ := List.cons.inj rest
      exact absurd (by simp) absent'

theorem toList_fileKey (kind path : String) :
    (fileKey kind path).toList = kind.toList ++ ':' :: (path.toList ++ [':']) := by
  simp only [fileKey, toString, String.toList_append, List.append_assoc]
  rfl

theorem toList_queryKey (kind path : String) (line character : Int) :
    (queryKey kind path line character).toList =
      ((kind.toList ++ ':' :: path.toList) ++ ':' :: (toString line).toList) ++
        ':' :: (toString character).toList := by
  have colon : ":".toList = [':'] := rfl
  simp only [queryKey, toString, String.toList_append, colon, List.append_assoc, List.nil_append,
    List.cons_append]

/-- A key tells the file and the place of its query, whatever characters the path holds. -/
theorem queryKey_place {kind kind' path path' : String} {line line' character character' : Int}
    (same : queryKey kind path line character = queryKey kind' path' line' character') :
    kind.toList ++ ':' :: path.toList = kind'.toList ++ ':' :: path'.toList ∧
      line = line' ∧ character = character' := by
  have texts := congrArg String.toList same
  rw [toList_queryKey, toList_queryKey] at texts
  obtain ⟨front, characters⟩ :=
    split_at_last (colon_not_mem_number _) (colon_not_mem_number _) texts
  obtain ⟨place, lines⟩ := split_at_last (colon_not_mem_number _) (colon_not_mem_number _) front
  exact ⟨place, Int.repr_inj.mp (String.toList_inj.mp lines),
    Int.repr_inj.mp (String.toList_inj.mp characters)⟩

namespace Query

theorem key_injective : Function.Injective Query.key := by
  rintro ⟨kind, path, line, character⟩ ⟨kind', path', line', character'⟩ same
  obtain ⟨place, rfl, rfl⟩ := queryKey_place same
  have kinds : kind = kind' := by
    cases kind <;> cases kind'
    · rfl
    · simp [QueryKind.label] at place
    · simp [QueryKind.label] at place
    · rfl
  subst kinds
  have paths : path.toList = path'.toList := by simpa using place
  rw [String.toList_inj.mp paths]

theorem key_beginsWith_fileKey (query : Query) :
    Cache.beginsWith query.key (fileKey query.kind.label query.path) = true := by
  rw [Cache.beginsWith, List.isPrefixOf_iff_prefix, toList_fileKey, Query.key, toList_queryKey]
  exact ⟨(toString query.position.line).toList ++ ':' :: (toString query.position.character).toList,
    by simp⟩

end Query

end ModuleScope
