import Mathlib
import ModuleScope.Proofs.CacheEntries
import ModuleScope.Proofs.Lookup

/-!
Operations on a cache as data, and sequences of them. Every operation leaves each key with one entry
and the capacity as it is.
-/
namespace ModuleScope.Cache

inductive Operation (α : Type) where
  | get (key : String)
  | insert (key : String) (value : α)
  | contains (key : String)
  | erase (key : String)
  | peek (key : String)
  | invalidate (beginning : String)
  | clear

inductive Outcome (α : Type) where
  | done
  | found (value : Option α)
  | verdict (holds : Bool)
  | removed (count : Nat)
deriving DecidableEq

def Operation.run {α σ : Type} (perform : σ → Operation α → Outcome α × σ) :
    σ → List (Operation α) → List (Outcome α) × σ
  | state, [] => ([], state)
  | state, operation :: rest =>
    let (outcome, next) := perform state operation
    let (outcomes, last) := Operation.run perform next rest
    (outcome :: outcomes, last)

variable {α : Type}

def perform (cache : Cache α) : Operation α → Outcome α × Cache α
  | .get key => (.found (cache.get key).1, (cache.get key).2)
  | .insert key value => (.done, cache.insert key value)
  | .contains key => (.verdict (cache.contains key), cache)
  | .erase key => (.verdict (cache.erase key).1, (cache.erase key).2)
  | .peek key => (.found (cache.peek? key), cache)
  | .invalidate beginning =>
    (.removed (cache.invalidate beginning).1, (cache.invalidate beginning).2)
  | .clear => (.done, cache.clear)

def run (cache : Cache α) (operations : List (Operation α)) : List (Outcome α) × Cache α :=
  Operation.run perform cache operations

theorem create_of_positive {capacity : Int} (positive : 1 ≤ capacity) :
    create (α := α) capacity = .ok (empty capacity.toNat) := by
  rw [create, if_neg (by omega)]

variable {cache : Cache α} {key : String} {value : α}

theorem others_of_absent (absent : cache.peek? key = none) : cache.others key = cache.entries := by
  refine List.filter_eq_self.mpr fun entry member => ?_
  have differs := List.lookup_eq_none_iff.mp absent entry member
  simpa [bne_comm] using differs

theorem peek?_eq_some_iff (distinct : cache.keys.Nodup) :
    cache.peek? key = some value ↔ (key, value) ∈ cache.entries :=
  lookup_eq_some_iff_mem distinct

/-- A key that is held has one entry, which is all that sets the others apart. -/
theorem length_others (distinct : cache.keys.Nodup) (found : cache.peek? key = some value) :
    (cache.others key).length + 1 = cache.size := by
  obtain ⟨before, after, split⟩ := List.append_of_mem (mem_of_peek? found)
  have absent : key ∉ before.map Prod.fst ∧ key ∉ after.map Prod.fst := by
    rw [keys, split, List.map_append, List.map_cons, List.nodup_middle, List.nodup_cons,
      List.mem_append, not_or] at distinct
    exact distinct.1
  have kept {part : List (String × α)} (missing : key ∉ part.map Prod.fst) :
      part.filter (fun entry => entry.1 != key) = part := by
    refine List.filter_eq_self.mpr fun entry member => ?_
    have differs : entry.1 ≠ key := fun same => missing (same ▸ List.mem_map_of_mem member)
    simpa using differs
  rw [others, size, split, List.filter_append, List.filter_cons_of_neg (by simp), kept absent.1,
    kept absent.2]
  simp
  omega

theorem perform_nodup (distinct : cache.keys.Nodup) (operation : Operation α) :
    (cache.perform operation).2.keys.Nodup := by
  have fewer {entries : List (String × α)} (less : entries.Sublist cache.entries) :
      (entries.map Prod.fst).Nodup := distinct.sublist (less.map Prod.fst)
  cases operation with
  | get key =>
    cases found : cache.peek? key with
    | none => simpa only [perform, get_miss found] using distinct
    | some value =>
      simp only [perform, get_hit found]
      exact nodup_keys_replace distinct (key, value)
  | insert key value =>
    have replaced := nodup_keys_replace distinct (key, value)
    exact replaced.sublist (((List.drop_sublist _ _).append_right _).map Prod.fst)
  | contains key => exact distinct
  | erase key => exact fewer List.filter_sublist
  | peek key => exact distinct
  | invalidate beginning => exact fewer List.filter_sublist
  | clear => exact List.nodup_nil

theorem perform_capacity (cache : Cache α) (operation : Operation α) :
    (cache.perform operation).2.capacity = cache.capacity := by
  cases operation with
  | get key =>
    cases found : cache.peek? key with
    | none => simp only [perform, get_miss found]
    | some value => simp only [perform, get_hit found]
  | _ => rfl

theorem run_capacity (cache : Cache α) (operations : List (Operation α)) :
    (cache.run operations).2.capacity = cache.capacity := by
  induction operations generalizing cache with
  | nil => rfl
  | cons operation rest ih => exact (ih _).trans (cache.perform_capacity operation)

end ModuleScope.Cache
