import Mathlib
import ModuleScope.ModuleGraph

/-!
Absolute paths and their texts. If the components are names, as they are in a file system, a path can
be read back from its text, the directory part of the text is the text of the path above, and one
directory lies within another by their texts just if it does by their names.
-/
namespace ModuleScope

theorem splitAt_eq_splitOnP (separator : Char → Bool) (text : List Char) :
    splitAt separator text = text.splitOnP separator := by
  induction text with
  | nil => rfl
  | cons c rest ih =>
    rw [splitAt, ih, List.splitOnP_cons_eq_if_modifyHead]
    cases split : rest.splitOnP separator with
    | nil => exact absurd split (List.splitOnP_ne_nil separator rest)
    | cons part parts => rfl

namespace Path

section Names

variable {part : String} (name : isName part = true)
include name

theorem ne_empty_of_isName : part ≠ "" := by
  simp only [isName, Bool.and_eq_true, bne_iff_ne] at name
  exact name.1.1.1

theorem ne_self_of_isName : part ≠ "." := by
  simp only [isName, Bool.and_eq_true, bne_iff_ne] at name
  exact name.1.1.2

theorem ne_parent_of_isName : part ≠ ".." := by
  simp only [isName, Bool.and_eq_true, bne_iff_ne] at name
  exact name.1.2

theorem slash_not_mem_of_isName : '/' ∉ part.toList := by
  simp only [isName, Bool.and_eq_true, Bool.not_eq_true', List.contains_eq_mem,
    decide_eq_false_iff_not] at name
  exact name.2

theorem toList_ne_nil_of_isName : part.toList ≠ [] := by
  intro empty
  exact ne_empty_of_isName name (String.toList_inj.mp empty)

end Names

theorem toString_absolute (parts : List String) :
    Path.toString ⟨1, parts⟩ = "/" ++ "/".intercalate parts := rfl

theorem toList_toString_concat (front : List String) (last : String) :
    (Path.toString ⟨1, front ++ [last]⟩).toList =
      (if front = [] then [] else (Path.toString ⟨1, front⟩).toList) ++ '/' :: last.toList := by
  by_cases top : front = []
  · rw [if_pos top, top, toString_absolute, List.nil_append, String.intercalate_singleton,
      String.toList_append]
    rfl
  · rw [if_neg top, toString_absolute, String.intercalate_append_of_ne_nil top (by simp),
      String.intercalate_singleton, toString_absolute]
    simp

variable {parts front : List String} {last : String}

theorem components_toString (names : ∀ part ∈ parts, isName part = true) :
    components (Path.toString ⟨1, parts⟩) = parts := by
  have kept : parts.filter (fun part => part != "" && part != ".") = parts := by
    rw [List.filter_eq_self]
    intro part member
    simp [ne_empty_of_isName (names part member), ne_self_of_isName (names part member)]
  have split : splitAt (· == '/') (Path.toString ⟨1, parts⟩).toList =
      [] :: (['/'].intercalate (parts.map String.toList)).splitOn '/' := by
    rw [splitAt_eq_splitOnP, ← List.splitOn_eq_splitOnP, toString_absolute, String.toList_append,
      String.toList_intercalate]
    exact List.splitOn_append_cons_self_of_not_mem List.not_mem_nil _
  rw [components, split]
  cases parts with
  | nil => rfl
  | cons first rest =>
    rw [List.splitOn_intercalate]
    · simpa using kept
    · intro text member
      obtain ⟨part, inside, rfl⟩ := List.mem_map.mp member
      exact slash_not_mem_of_isName (names part inside)
    · simp

private theorem takeWhile_slash (names : ∀ part ∈ parts, isName part = true) :
    (['/'].intercalate (parts.map String.toList)).takeWhile (· == '/') = [] := by
  cases parts with
  | nil => rfl
  | cons first rest =>
    have name := names first (by simp)
    obtain ⟨c, tail, shape⟩ := List.exists_cons_of_ne_nil (toList_ne_nil_of_isName name)
    have other : c ≠ '/' := by
      rintro rfl
      exact slash_not_mem_of_isName name (by simp [shape])
    cases rest <;> simp [shape, other]

theorem ofString_toString (names : ∀ part ∈ parts, isName part = true) :
    ofString (Path.toString ⟨1, parts⟩) = ⟨1, parts⟩ := by
  have slashes : (Path.toString ⟨1, parts⟩).toList.takeWhile (· == '/') = ['/'] := by
    rw [toString_absolute, String.toList_append, String.toList_intercalate]
    have none := takeWhile_slash names
    simpa using none
  rw [ofString, components_toString names, slashes]
  rfl

private theorem foldl_names (kept : List String) (names : ∀ part ∈ parts, isName part = true) :
    parts.foldl (fun kept part => if part == ".." then kept.dropLast else kept ++ [part]) kept =
      kept ++ parts := by
  induction parts generalizing kept with
  | nil => simp
  | cons first rest ih =>
    have other : first ≠ ".." := ne_parent_of_isName (names first (by simp))
    rw [List.foldl_cons, if_neg (by simpa using other), ih _ fun part member =>
      names part (List.mem_cons_of_mem first member)]
    simp

theorem resolve_absolute (working : Path) (names : ∀ part ∈ parts, isName part = true) :
    working.resolve ⟨1, parts⟩ = ⟨1, parts⟩ := by
  change Path.mk 1 (normalize parts) = ⟨1, parts⟩
  rw [normalize, foldl_names [] names, List.nil_append]

theorem reverse_dropWhile_slash (before : List Char) (name : isName last = true) :
    (before ++ '/' :: last.toList).reverse.dropWhile (· == '/') =
      (before ++ '/' :: last.toList).reverse := by
  obtain ⟨c, tail, shape⟩ := List.exists_cons_of_ne_nil
    (show last.toList.reverse ≠ [] by simpa using toList_ne_nil_of_isName name)
  have other : c ≠ '/' := by
    rintro rfl
    exact slash_not_mem_of_isName name (List.mem_reverse.mp (by simp [shape]))
  simp [List.reverse_append, shape, other]

theorem directoryOf_toString (names : ∀ part ∈ front, isName part = true)
    (name : isName last = true) :
    directoryOf (Path.toString ⟨1, front ++ [last]⟩) = Path.toString ⟨1, front⟩ := by
  have head (before : List Char) :
      (before ++ '/' :: last.toList).reverse.dropWhile (· != '/') = '/' :: before.reverse := by
    rw [List.reverse_append, List.reverse_cons, List.append_assoc, List.dropWhile_append_of_pos]
    · simp
    · intro c member
      simp only [bne_iff_ne]
      rintro rfl
      exact slash_not_mem_of_isName name (List.mem_reverse.mp member)
  -- What stands before the last slash ends with a name, so no more slashes are cut off.
  rw [directoryOf, toList_toString_concat, head]
  rcases List.eq_nil_or_concat' front with rfl | ⟨above, inner, rfl⟩
  · rfl
  · have ends := reverse_dropWhile_slash
      (if above = [] then [] else (Path.toString ⟨1, above⟩).toList)
      (names inner (by simp))
    rw [← toList_toString_concat] at ends
    have inhabited : (Path.toString ⟨1, above ++ [inner]⟩).toList ≠ [] := by
      simp [toList_toString_concat]
    have below : above ++ [inner] ≠ [] := by simp
    simp only [if_neg below, List.dropWhile_cons_of_pos, ends, beq_self_eq_true]
    rw [if_neg (by simpa using inhabited), List.reverse_reverse, String.ofList_toList]

theorem components_append_slash {text : String} {left right : List Char}
    (whole : text.toList = left ++ '/' :: right) :
    components text = components (String.ofList left) ++ components (String.ofList right) := by
  simp only [components, whole, splitAt_eq_splitOnP, String.toList_ofList]
  rw [List.splitOnP_append_cons left right (by simp), List.map_append, List.filter_append]

theorem toList_toString_append {base rest : List String} (below : base ≠ []) (further : rest ≠ []) :
    (Path.toString ⟨1, base ++ rest⟩).toList =
      (Path.toString ⟨1, base⟩).toList ++ (Path.toString ⟨1, rest⟩).toList := by
  rw [toString_absolute, String.intercalate_append_of_ne_nil below further, toString_absolute,
    toString_absolute]
  simp

section Within

variable {base : List String} (names : ∀ part ∈ parts, isName part = true)
  (baseNames : ∀ part ∈ base, isName part = true)
include baseNames

/-- The text of a path ends with a name, so no slashes are cut off it. -/
private theorem dropSlashes_toString (below : base ≠ []) :
    ((Path.toString ⟨1, base⟩).toList.reverse.dropWhile (· == '/')).reverse =
      (Path.toString ⟨1, base⟩).toList := by
  obtain ⟨front, last, rfl⟩ := (List.eq_nil_or_concat' base).resolve_left below
  rw [toList_toString_concat, reverse_dropWhile_slash _ (baseNames last (by simp)),
    List.reverse_reverse]

theorem isWithin_of_isPrefix (inside : base <+: parts) :
    isWithin (Path.toString ⟨1, parts⟩) (Path.toString ⟨1, base⟩) = true := by
  obtain ⟨rest, rfl⟩ := inside
  rw [isWithin, Bool.or_eq_true, beq_iff_eq, List.isPrefixOf_iff_prefix]
  by_cases same : rest = []
  · rw [same, List.append_nil]
    exact Or.inl rfl
  · right
    have slash (parts : List String) : ['/'] <+: (Path.toString ⟨1, parts⟩).toList := by
      rw [toString_absolute, String.toList_append]
      exact List.prefix_append _ _
    by_cases top : base = []
    · rw [top]
      exact slash rest
    · rw [dropSlashes_toString baseNames top, toList_toString_append top same,
        List.prefix_append_right_inj]
      exact slash rest

include names

theorem isPrefix_of_isWithin
    (within : isWithin (Path.toString ⟨1, parts⟩) (Path.toString ⟨1, base⟩) = true) :
    base <+: parts := by
  rw [isWithin, Bool.or_eq_true, beq_iff_eq] at within
  rcases within with same | longer
  · have read := congrArg ofString same
    rw [ofString_toString names, ofString_toString baseNames] at read
    exact (Path.mk.inj read).2 ▸ List.prefix_rfl
  · by_cases top : base = []
    · rw [top]
      exact List.nil_prefix
    · rw [dropSlashes_toString baseNames top] at longer
      obtain ⟨rest, whole⟩ := List.isPrefixOf_iff_prefix.mp longer
      rw [List.append_assoc] at whole
      have parted := components_append_slash whole.symm
      rw [String.ofList_toList, components_toString names, components_toString baseNames] at parted
      exact ⟨_, parted.symm⟩

/-- A directory lies within another by the texts of their paths just if it does by their names. -/
theorem isWithin_iff_isPrefix :
    isWithin (Path.toString ⟨1, parts⟩) (Path.toString ⟨1, base⟩) = true ↔ base <+: parts :=
  ⟨isPrefix_of_isWithin names baseNames, isWithin_of_isPrefix baseNames⟩

end Within

end Path

end ModuleScope
