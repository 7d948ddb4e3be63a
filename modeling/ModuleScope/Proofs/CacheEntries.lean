import Mathlib
import ModuleScope.Cache

/-!
What the operations of a cache do to its entries: which of them stay and which are new. Eviction only
ever removes entries, so no statement here depends on the capacity.
-/
namespace ModuleScope.Cache

variable {α : Type} {cache : Cache α} {key : String} {value : α} {entry : String × α}

theorem mem_of_mem_others (member : entry ∈ cache.others key) : entry ∈ cache.entries :=
  (List.mem_filter.mp member).1

theorem mem_of_peek? (found : cache.peek? key = some value) : (key, value) ∈ cache.entries := by
  obtain ⟨before, after, split, _⟩ := List.lookup_eq_some_iff.mp found
  rw [split]
  simp

theorem get_miss (missed : cache.peek? key = none) : cache.get key = (none, cache) := by
  rw [get, missed]

theorem get_hit (found : cache.peek? key = some value) :
    cache.get key = (some value, { cache with entries := cache.others key ++ [(key, value)] }) := by
  rw [get, found]

theorem mem_of_mem_get (member : entry ∈ (cache.get key).2.entries) : entry ∈ cache.entries := by
  cases found : cache.peek? key with
  | none => rwa [get_miss found] at member
  | some value =>
    rw [get_hit found] at member
    rcases List.mem_append.mp member with other | same
    · exact mem_of_mem_others other
    · rw [List.mem_singleton.mp same]
      exact mem_of_peek? found

theorem mem_of_mem_insert (member : entry ∈ (cache.insert key value).entries) :
    entry = (key, value) ∨ entry ∈ cache.entries := by
  rcases List.mem_append.mp member with other | same
  · exact Or.inr (mem_of_mem_others (List.mem_of_mem_drop other))
  · exact Or.inl (List.mem_singleton.mp same)

theorem mem_invalidate {beginning : String} :
    entry ∈ (cache.invalidate beginning).2.entries ↔
      entry ∈ cache.entries ∧ beginsWith entry.1 beginning = false := by
  simp [invalidate]

theorem not_mem_clear : entry ∉ cache.clear.entries := by
  simp [clear]

end ModuleScope.Cache
