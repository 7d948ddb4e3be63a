import Mathlib
import ModuleScope.Proofs.CacheRuns

/-!
Two caches of different capacities under the same operations. What the smaller one holds, the larger one
holds in the same order, and the larger one never has less room left: it gives up an entry only when the
smaller one does too.
-/
namespace ModuleScope.Cache

variable {α : Type}

/-- A cache holds all that another holds, in the same order, and has at least as much room left. -/
structure Includes (large small : Cache α) : Prop where
  capacity : small.capacity ≤ large.capacity
  entries : small.entries.Sublist large.entries
  room : large.size + small.capacity ≤ small.size + large.capacity
  distinct : large.keys.Nodup

namespace Includes

variable {large small : Cache α} {key : String} {value : α}

theorem peek? (includes : large.Includes small) (found : small.peek? key = some value) :
    large.peek? key = some value := by
  rw [peek?_eq_some_iff includes.distinct]
  exact includes.entries.subset (mem_of_peek? found)

/-- Dropping the same entries from both leaves as much of the difference as was in the larger one
alone. -/
theorem filter (includes : large.Includes small) (test : String × α → Bool) :
    Includes { large with entries := large.entries.filter test }
      { small with entries := small.entries.filter test } := by
  refine ⟨includes.capacity, includes.entries.filter test, ?_,
    includes.distinct.sublist (List.filter_sublist.map Prod.fst)⟩
  have dropped := (includes.entries.filter fun entry => !test entry).length_le
  have ofLarge := large.entries.length_eq_length_filter_add test
  have ofSmall := small.entries.length_eq_length_filter_add test
  have room := includes.room
  simp only [size] at room ⊢
  omega

theorem get (includes : large.Includes small) (key : String) :
    (large.get key).2.Includes (small.get key).2 := by
  have distinct := perform_nodup includes.distinct (.get key)
  change (large.get key).2.keys.Nodup at distinct
  have others := includes.filter fun entry => entry.1 != key
  cases found : small.peek? key with
  | some value =>
    have also := includes.peek? found
    rw [get_hit also] at distinct ⊢
    rw [get_hit found]
    refine ⟨includes.capacity, others.entries.append_right _, ?_, distinct⟩
    have room := others.room
    simp only [size, Cache.others, List.length_append] at room ⊢
    omega
  | none =>
    rw [get_miss found]
    cases also : large.peek? key with
    | none =>
      rw [get_miss also]
      exact includes
    | some value =>
      -- Only the larger one moves the key; the smaller one has nothing but others.
      rw [get_hit also] at distinct ⊢
      have kept : small.entries.Sublist (large.others key) := by
        rw [← others_of_absent found]
        exact others.entries
      refine ⟨includes.capacity, kept.trans (List.sublist_append_left _ _), ?_, distinct⟩
      have held := length_others includes.distinct also
      have room := includes.room
      simp only [size, List.length_append, List.length_singleton] at held room ⊢
      omega

theorem insert (includes : large.Includes small) (key : String) (value : α) :
    (large.insert key value).Includes (small.insert key value) := by
  have others := includes.filter fun entry => entry.1 != key
  have room := others.room
  simp only [size] at room
  refine ⟨includes.capacity, List.Sublist.append_right ?_ _, ?_,
    perform_nodup includes.distinct (.insert key value)⟩
  · -- The larger one has no more to give up than the smaller one.
    have order : (large.others key).length + 1 - large.capacity ≤
        (small.others key).length + 1 - small.capacity := by
      simp only [Cache.others]
      omega
    exact (List.drop_sublist_drop_left _ order).trans (others.entries.drop _)
  · have capacity := includes.capacity
    simp only [size, Cache.insert, Cache.others, List.length_append, List.length_drop,
      List.length_singleton]
    omega

theorem perform (includes : large.Includes small) (operation : Operation α) :
    (large.perform operation).2.Includes (small.perform operation).2 := by
  cases operation with
  | get key => exact includes.get key
  | insert key value => exact includes.insert key value
  | contains key => exact includes
  | erase key => exact includes.filter _
  | peek key => exact includes
  | invalidate beginning => exact includes.filter _
  | clear =>
    have none := includes.filter fun _ => false
    rwa [List.filter_false, List.filter_false] at none

theorem run (includes : large.Includes small) (operations : List (Operation α)) :
    (large.run operations).2.Includes (small.run operations).2 := by
  induction operations generalizing large small with
  | nil => exact includes
  | cons operation rest ih => exact ih (includes.perform operation)

end Includes

theorem empty_includes {smaller larger : Nat} (order : smaller ≤ larger) :
    (empty larger : Cache α).Includes (empty smaller) := by
  refine ⟨order, List.Sublist.refl _, ?_, List.nodup_nil⟩
  simpa [empty, size] using order

theorem get_fst (cache : Cache α) (key : String) : (cache.get key).1 = cache.peek? key := by
  cases found : cache.peek? key with
  | none => rw [get_miss found]
  | some value => rw [get_hit found]

/-- After any operations made on both, the entries of a smaller cache are among those of a larger one
in the same order, and what is found in the smaller one is found in the larger one. -/
theorem run_smaller_sublist_larger (smaller larger : Int) (positive : 1 ≤ smaller)
    (order : smaller ≤ larger) :
    ∃ small large : Cache α, create smaller = .ok small ∧ create larger = .ok large ∧
      ∀ operations : List (Operation α),
        (small.run operations).2.entries.Sublist (large.run operations).2.entries ∧
        ∀ key value, ((small.run operations).2.get key).1 = some value →
          ((large.run operations).2.get key).1 = some value := by
  refine ⟨empty smaller.toNat, empty larger.toNat, create_of_positive positive,
    create_of_positive (positive.trans order), fun operations => ?_⟩
  have includes := (empty_includes (α := α) (Int.toNat_le_toNat order)).run operations
  refine ⟨includes.entries, fun key value found => ?_⟩
  rw [get_fst] at found ⊢
  exact includes.peek? found

def unevenUses : List (Operation Nat) :=
  [.insert "a" 1, .insert "b" 2, .insert "c" 3, .get "a", .erase "c", .insert "d" 4]

/-- A read that only the larger cache can answer moves `a` between the entries of the smaller one. -/
theorem run_two_sublist_three :
    (1 : Int) ≤ 2 ∧ (2 : Int) ≤ 3 ∧ ∃ small large : Cache Nat,
      create 2 = .ok small ∧ create 3 = .ok large ∧
      (small.run unevenUses).2.entries = [("b", 2), ("d", 4)] ∧
      (large.run unevenUses).2.entries = [("b", 2), ("a", 1), ("d", 4)] ∧
      (small.run unevenUses).2.entries.Sublist (large.run unevenUses).2.entries := by
  obtain ⟨small, large, ofTwo, ofThree, sublist⟩ :=
    run_smaller_sublist_larger (α := Nat) 2 3 (by decide) (by decide)
  refine ⟨by decide, by decide, small, large, ofTwo, ofThree, ?_, ?_, (sublist unevenUses).1⟩
  · cases ofTwo
    decide
  · cases ofThree
    decide

end ModuleScope.Cache
