import Mathlib

/-!
Things kept under keys of which no two are equal. What is looked up is then just what is there, and a
thing that takes the place of the one with its key leaves the keys distinct.
-/
namespace ModuleScope

variable {α κ : Type} [BEq κ] [LawfulBEq κ] {key : κ}

theorem find?_key_eq_some_iff {keyOf : α → κ} {items : List α} (distinct : (items.map keyOf).Nodup)
    {item : α} :
    items.find? (fun each => keyOf each == key) = some item ↔ item ∈ items ∧ keyOf item = key := by
  constructor
  · intro found
    exact ⟨List.mem_of_find?_eq_some found, by simpa using List.find?_some found⟩
  · rintro ⟨member, rfl⟩
    cases found : items.find? fun each => keyOf each == keyOf item with
    | none =>
      have differs := List.find?_eq_none.mp found item member
      simp at differs
    | some other =>
      have same : keyOf other = keyOf item := by simpa using List.find?_some found
      rw [List.inj_on_of_nodup_map distinct (List.mem_of_find?_eq_some found) member same]

theorem lookup_eq_some_iff_mem {entries : List (κ × α)} (distinct : (entries.map Prod.fst).Nodup)
    {value : α} : entries.lookup key = some value ↔ (key, value) ∈ entries := by
  rw [List.lookup_eq_some_iff]
  constructor
  · rintro ⟨before, after, rfl, _⟩
    simp
  · intro member
    obtain ⟨before, after, split⟩ := List.append_of_mem member
    refine ⟨before, after, split, fun other earlier => ?_⟩
    rw [split, List.map_append, List.nodup_append] at distinct
    have apart := distinct.2.2 other.1 (List.mem_map_of_mem earlier) key (by simp)
    simpa using apart.symm

theorem nodup_keys_replace {keyOf : α → κ} {items : List α} (distinct : (items.map keyOf).Nodup)
    (item : α) :
    ((items.filter (fun each => keyOf each != keyOf item) ++ [item]).map keyOf).Nodup := by
  have absent : keyOf item ∉ (items.filter fun each => keyOf each != keyOf item).map keyOf := by
    intro member
    obtain ⟨other, kept, same⟩ := List.mem_map.mp member
    simpa [same] using (List.mem_filter.mp kept).2
  rw [List.map_append, List.nodup_append]
  refine ⟨distinct.sublist (List.filter_sublist.map keyOf), by simp, ?_⟩
  intro other member last added same
  rw [List.mem_singleton.mp added] at same
  exact absent (same ▸ member)

end ModuleScope
