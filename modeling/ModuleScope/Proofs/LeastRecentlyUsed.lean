import Mathlib
import ModuleScope.Proofs.CacheRuns

/-!
A cache gives up the entry used least recently. To say so without the order that a cache keeps, a
store notes with each key when it was last set or read, and makes room by looking for the oldest time.
Whatever operations are made, both give the same answers, and the order of the cache is that of the
times.
-/
namespace ModuleScope

/-- A value under its key, and the time at which the key was last set or read. -/
structure Held (α : Type) where
  key : String
  value : α
  time : Nat

def Held.entry {α : Type} (held : Held α) : String × α := (held.key, held.value)

/-- What is held, in no order that matters. The time is the number of operations made so far. -/
structure TimedStore (α : Type) where
  capacity : Nat
  time : Nat := 0
  held : List (Held α) := []

namespace TimedStore

open Cache (Operation Outcome)

variable {α : Type}

def empty (capacity : Nat) : TimedStore α := { capacity }

def find? (store : TimedStore α) (key : String) : Option (Held α) :=
  store.held.find? fun each => each.key == key

def tick (store : TimedStore α) : TimedStore α := { store with time := store.time + 1 }

def keep (store : TimedStore α) (test : Held α → Bool) : TimedStore α :=
  { store with held := store.held.filter test }

def dropOldest (store : TimedStore α) : TimedStore α :=
  store.keep fun each => store.held.any fun other => other.time < each.time

def put (store : TimedStore α) (key : String) (value : α) : TimedStore α :=
  let others := store.keep fun each => each.key != key
  { others with held := ⟨key, value, store.time⟩ :: others.held }

/-- Makes room for a key: only one that is not held needs any. -/
def makeRoom (store : TimedStore α) (key : String) : TimedStore α :=
  if (store.find? key).isSome || store.held.length < store.capacity then store else store.dropOldest

def perform (store : TimedStore α) : Operation α → Outcome α × TimedStore α
  | .get key =>
    match store.find? key with
    | some held => (.found (some held.value), (store.put key held.value).tick)
    | none => (.found none, store.tick)
  | .insert key value => (.done, ((store.makeRoom key).put key value).tick)
  | .contains key => (.verdict (store.find? key).isSome, store.tick)
  | .erase key =>
    (.verdict (store.find? key).isSome, (store.keep fun each => each.key != key).tick)
  | .peek key => (.found ((store.find? key).map Held.value), store.tick)
  | .invalidate beginning =>
    (.removed (store.held.countP fun each => beginning.toList <+: each.key.toList),
      (store.keep fun each => !decide (beginning.toList <+: each.key.toList)).tick)
  | .clear => (.done, (store.keep fun _ => false).tick)

def run (store : TimedStore α) (operations : List (Operation α)) : List (Outcome α) × TimedStore α :=
  Operation.run perform store operations

def byTime (store : TimedStore α) : List (Held α) :=
  store.held.mergeSort fun earlier later => earlier.time ≤ later.time

end TimedStore

namespace Cache

variable {α : Type}

private theorem lookup_map_entry (held : List (Held α)) (key : String) :
    (held.map Held.entry).lookup key = (held.find? fun each => each.key == key).map Held.value := by
  induction held with
  | nil => rfl
  | cons first rest ih =>
    by_cases same : first.key = key
    · simp [Held.entry, same]
    · have other : (key == first.key) = false := by simpa using Ne.symm same
      simpa [Held.entry, List.lookup_cons, other, same] using ih

private theorem filter_older {held : List (Held α)}
    (increasing : held.Pairwise fun earlier later => earlier.time < later.time) :
    held.filter (fun each => held.any fun other => other.time < each.time) = held.tail := by
  cases held with
  | nil => rfl
  | cons first rest =>
    obtain ⟨oldest, _⟩ := List.pairwise_cons.mp increasing
    rw [List.filter_cons_of_neg, List.tail_cons, List.filter_eq_self]
    · intro each member
      simp [oldest each member]
    · simp only [List.any_cons, List.any_eq_true, Bool.or_eq_true, decide_eq_true_eq, not_or,
        not_exists, not_and]
      refine ⟨by omega, fun other member older => ?_⟩
      have := oldest other member
      omega

private theorem insert_of_room {cache : Cache α} {key : String} (value : α)
    (room : (cache.others key).length < cache.capacity) :
    cache.insert key value = { cache with entries := cache.others key ++ [(key, value)] } := by
  have none : (cache.others key).length + 1 - cache.capacity = 0 := by omega
  rw [insert, none, List.drop_zero]

private theorem insert_of_full {cache : Cache α} {key : String} (value : α)
    (absent : cache.peek? key = none) (full : cache.size = cache.capacity) :
    cache.insert key value = { cache with entries := cache.entries.tail ++ [(key, value)] } := by
  have one : cache.entries.length + 1 - cache.capacity = 1 := by
    rw [← full, size]
    omega
  rw [insert, others_of_absent absent, one, List.drop_one]

/-- The entries of a cache, with the times that a store gives to them: the store holds the same, in
whatever order, and the times increase. -/
structure Follows (cache : Cache α) (store : TimedStore α) (timeline : List (Held α)) : Prop where
  capacity : cache.capacity = store.capacity
  positive : 1 ≤ cache.capacity
  entries : cache.entries = timeline.map Held.entry
  same : timeline.Perm store.held
  increasing : timeline.Pairwise fun earlier later => earlier.time < later.time
  past : ∀ each ∈ timeline, each.time < store.time
  distinct : cache.keys.Nodup
  bounded : cache.size ≤ cache.capacity

namespace Follows

variable {cache : Cache α} {store : TimedStore α} {timeline : List (Held α)}

theorem keys_eq (follows : cache.Follows store timeline) :
    cache.keys = timeline.map Held.key := by
  rw [keys, follows.entries, List.map_map]
  rfl

theorem size_eq (follows : cache.Follows store timeline) : cache.size = store.held.length := by
  rw [size, follows.entries, List.length_map, follows.same.length_eq]

theorem peek?_eq (follows : cache.Follows store timeline) (key : String) :
    cache.peek? key = (store.find? key).map Held.value := by
  have distinct : (timeline.map Held.key).Nodup := follows.keys_eq ▸ follows.distinct
  have distinct' : (store.held.map Held.key).Nodup := (follows.same.map Held.key).nodup_iff.mp distinct
  have found : timeline.find? (fun each => each.key == key) = store.find? key := by
    ext each
    rw [TimedStore.find?, find?_key_eq_some_iff distinct, find?_key_eq_some_iff distinct',
      follows.same.mem_iff]
  rw [peek?, follows.entries, lookup_map_entry, found]

theorem contains_eq (follows : cache.Follows store timeline) (key : String) :
    cache.contains key = (store.find? key).isSome := by
  rw [contains, follows.peek?_eq, Option.isSome_map]

theorem tick (follows : cache.Follows store timeline) : cache.Follows store.tick timeline where
  capacity := follows.capacity
  positive := follows.positive
  entries := follows.entries
  same := follows.same
  increasing := follows.increasing
  past each member := Nat.lt_succ_of_lt (follows.past each member)
  distinct := follows.distinct
  bounded := follows.bounded

theorem keep (follows : cache.Follows store timeline) {test : Held α → Bool}
    {entries : List (String × α)} (kept : entries = (timeline.filter test).map Held.entry) :
    Follows { cache with entries } (store.keep test) (timeline.filter test) where
  capacity := follows.capacity
  positive := follows.positive
  entries := kept
  same := follows.same.filter test
  increasing := follows.increasing.filter test
  past each member := follows.past each (List.mem_of_mem_filter member)
  distinct := by
    refine follows.distinct.sublist ?_
    rw [follows.keys_eq, keys, kept, List.map_map]
    exact List.filter_sublist.map Held.key
  bounded := by
    have fewer := List.length_filter_le test timeline
    have bounded := follows.bounded
    simp only [size, kept, follows.entries, List.length_map] at bounded ⊢
    omega

theorem keep_entries (follows : cache.Follows store timeline) (test : Held α → Bool)
    (testEntry : String × α → Bool) (agree : ∀ each : Held α, testEntry each.entry = test each) :
    Follows { cache with entries := cache.entries.filter testEntry } (store.keep test)
      (timeline.filter test) := by
  refine follows.keep ?_
  rw [follows.entries, List.filter_map]
  congr 2
  funext each
  exact agree each

theorem others (follows : cache.Follows store timeline) (key : String) :
    Follows { cache with entries := cache.others key } (store.keep fun each => each.key != key)
      (timeline.filter fun each => each.key != key) :=
  follows.keep_entries _ _ fun _ => rfl

theorem dropOldest (follows : cache.Follows store timeline) :
    ∃ rest, Follows { cache with entries := cache.entries.tail } store.dropOldest rest := by
  have older : (fun each : Held α => timeline.any fun other => other.time < each.time) =
      fun each => store.held.any fun other => other.time < each.time := by
    funext each
    rw [follows.same.any_eq]
  refine ⟨_, follows.keep ?_⟩
  rw [← older, filter_older follows.increasing, follows.entries, List.map_tail]

/-- A key that has just been used comes last, since no time is later. -/
theorem put (follows : cache.Follows store timeline) (key : String) (value : α)
    (room : (cache.others key).length < cache.capacity) :
    ∃ rest, Follows { cache with entries := cache.others key ++ [(key, value)] }
      (store.put key value).tick rest := by
  have others := follows.others key
  refine ⟨timeline.filter (fun each => each.key != key) ++ [⟨key, value, store.time⟩],
    follows.capacity, follows.positive, ?_, ?_, ?_, ?_, ?_, ?_⟩
  · simp only [List.map_append, ← others.entries]
    rfl
  · exact (List.perm_append_singleton _ _).trans (others.same.cons _)
  · rw [List.pairwise_append]
    refine ⟨others.increasing, List.pairwise_singleton _ _, fun each member last added => ?_⟩
    rw [List.mem_singleton.mp added]
    exact others.past each member
  · intro each member
    rcases List.mem_append.mp member with old | new
    · exact Nat.lt_succ_of_lt (others.past each old)
    · rw [List.mem_singleton.mp new]
      exact Nat.lt_succ_self store.time
  · exact nodup_keys_replace follows.distinct (key, value)
  · simp only [size, List.length_append, List.length_singleton]
    omega

theorem get (follows : cache.Follows store timeline) (key : String) :
    (cache.perform (.get key)).1 = (store.perform (.get key)).1 ∧
      ∃ rest, Follows (cache.perform (.get key)).2 (store.perform (.get key)).2 rest := by
  have peek := follows.peek?_eq key
  cases found : store.find? key with
  | none =>
    rw [found, Option.map_none] at peek
    simp only [Cache.perform, TimedStore.perform, get_miss peek, found, true_and]
    exact ⟨timeline, follows.tick⟩
  | some held =>
    rw [found, Option.map_some] at peek
    have length := length_others follows.distinct peek
    have bounded := follows.bounded
    simp only [Cache.perform, TimedStore.perform, get_hit peek, found, true_and]
    exact follows.put key held.value (by omega)

theorem insert (follows : cache.Follows store timeline) (key : String) (value : α) :
    ∃ rest, (cache.insert key value).Follows ((store.makeRoom key).put key value).tick rest := by
  have bounded := follows.bounded
  have held := follows.contains_eq key
  have length := follows.size_eq
  have capacity := follows.capacity
  cases found : cache.peek? key with
  | some old =>
    -- The entry that is replaced leaves the room that the new one takes.
    have others := length_others follows.distinct found
    have room : (cache.others key).length < cache.capacity := by omega
    rw [contains, found, Option.isSome_some] at held
    rw [insert_of_room value room, TimedStore.makeRoom, ← held, Bool.true_or, if_pos rfl]
    exact follows.put key value room
  | none =>
    rw [contains, found, Option.isSome_none] at held
    rw [TimedStore.makeRoom, ← held, Bool.false_or]
    by_cases full : cache.size = cache.capacity
    · obtain ⟨rest, dropped⟩ := follows.dropOldest
      rw [insert_of_full value found full, if_neg (by simp; omega)]
      have others : Cache.others { cache with entries := cache.entries.tail } key =
          cache.entries.tail := by
        refine List.filter_eq_self.mpr fun entry member => ?_
        exact List.filter_eq_self.mp (others_of_absent found) entry (List.mem_of_mem_tail member)
      have room : cache.entries.tail.length < cache.capacity := by
        have positive := follows.positive
        simp only [size] at full
        rw [List.length_tail]
        omega
      have put := dropped.put key value (by rwa [others])
      rwa [others] at put
    · have room : (cache.others key).length < cache.capacity := by
        rw [others_of_absent found]
        simp only [size] at full bounded
        omega
      rw [insert_of_room value room, if_pos (by simp; omega)]
      exact follows.put key value room

theorem perform (follows : cache.Follows store timeline) (operation : Operation α) :
    (cache.perform operation).1 = (store.perform operation).1 ∧
      ∃ rest, Follows (cache.perform operation).2 (store.perform operation).2 rest := by
  cases operation with
  | get key => exact follows.get key
  | insert key value => exact ⟨rfl, follows.insert key value⟩
  | contains key =>
    exact ⟨congrArg Outcome.verdict (follows.contains_eq key), timeline, follows.tick⟩
  | erase key =>
    exact ⟨congrArg Outcome.verdict (follows.contains_eq key), _, (follows.others key).tick⟩
  | peek key => exact ⟨congrArg Outcome.found (follows.peek?_eq key), timeline, follows.tick⟩
  | invalidate beginning =>
    have agree (each : Held α) :
        beginsWith each.entry.1 beginning = decide (beginning.toList <+: each.key.toList) := by
      rw [beginsWith, Bool.eq_iff_iff, List.isPrefixOf_iff_prefix, decide_eq_true_iff]
      rfl
    refine ⟨congrArg Outcome.removed ?_, _, (follows.keep_entries _ _ fun each => ?_).tick⟩
    · rw [Cache.invalidate, follows.entries, ← List.countP_eq_length_filter, List.countP_map,
        follows.same.countP_eq]
      exact List.countP_congr fun each _ => by simp only [Function.comp_apply, agree]
    · rw [agree]
  | clear => exact ⟨rfl, _, (follows.keep (by rw [List.filter_false]; rfl)).tick⟩

theorem run (follows : cache.Follows store timeline) (operations : List (Operation α)) :
    (cache.run operations).1 = (store.run operations).1 ∧
      ∃ rest, Follows (cache.run operations).2 (store.run operations).2 rest := by
  induction operations generalizing cache store timeline with
  | nil => exact ⟨rfl, timeline, follows⟩
  | cons operation others ih =>
    obtain ⟨answer, next, following⟩ := follows.perform operation
    obtain ⟨answers, last⟩ := ih following
    exact ⟨congrArg₂ List.cons answer answers, last⟩

/-- No two times are equal, so only one order of what is held goes by them. -/
theorem byTime_eq (follows : cache.Follows store timeline) : store.byTime = timeline := by
  have sorted : store.byTime.Pairwise fun earlier later => decide (earlier.time ≤ later.time) = true :=
    List.pairwise_mergeSort (by simpa using fun _ _ _ => le_trans)
      (by simpa using fun _ _ => le_total _ _) store.held
  have ordered : timeline.Pairwise fun earlier later => decide (earlier.time ≤ later.time) = true :=
    follows.increasing.imp fun less => decide_eq_true (Nat.le_of_lt less)
  have times : (timeline.map Held.time).Nodup :=
    List.Pairwise.map Held.time (fun _ _ less => Nat.ne_of_lt less) follows.increasing
  have same : store.byTime.Perm timeline :=
    (List.mergeSort_perm store.held _).trans follows.same.symm
  refine same.eq_of_pairwise (fun earlier later member member' before after => ?_) sorted ordered
  have equal : earlier.time = later.time :=
    Nat.le_antisymm (of_decide_eq_true before) (of_decide_eq_true after)
  exact List.inj_on_of_nodup_map times (same.mem_iff.mp member) member' equal

end Follows

theorem empty_follows {capacity : Nat} (positive : 1 ≤ capacity) :
    (empty capacity : Cache α).Follows (.empty capacity) [] where
  capacity := rfl
  positive := positive
  entries := rfl
  same := List.Perm.refl _
  increasing := List.Pairwise.nil
  past := by simp
  distinct := List.nodup_nil
  bounded := Nat.zero_le _

/-- Whatever is done to a cache of a capacity of at least one, it answers as the store that notes
times does, and its entries are those of the store from the oldest time to the latest. -/
theorem run_eq_run_timed (capacity : Int) (positive : 1 ≤ capacity) :
    ∃ cache : Cache α, create capacity = .ok cache ∧ ∀ operations : List (Operation α),
      (cache.run operations).1 = ((TimedStore.empty capacity.toNat).run operations).1 ∧
      (cache.run operations).2.entries =
        ((TimedStore.empty capacity.toNat).run operations).2.byTime.map Held.entry ∧
      ((TimedStore.empty capacity.toNat).run operations).2.byTime.Pairwise
        (fun earlier later : Held α => earlier.time < later.time) ∧
      (cache.run operations).2.keys.Nodup ∧
      ((cache.run operations).2.size : Int) ≤ capacity := by
  refine ⟨empty capacity.toNat, create_of_positive positive, fun operations => ?_⟩
  obtain ⟨answers, timeline, follows⟩ :=
    (empty_follows (α := α) (by omega : 1 ≤ capacity.toNat)).run operations
  have bounded := follows.bounded
  rw [run_capacity] at bounded
  rw [follows.byTime_eq]
  refine ⟨answers, follows.entries, follows.increasing, follows.distinct, ?_⟩
  change _ ≤ capacity.toNat at bounded
  omega

def crowdedUses : List (Operation (Option Nat)) :=
  [.insert "a" none, .insert "b" (some 2), .insert "a" (some 3), .peek "b", .contains "c",
    .get "b", .insert "c" none, .get "a", .get "c"]

/-- The overwrite drops nothing, the read of `b` saves it, and the empty value of `c` is found. -/
theorem run_eq_run_timed_crowded :
    (1 : Int) ≤ 2 ∧ ∃ cache : Cache (Option Nat), create 2 = .ok cache ∧
      (cache.run crowdedUses).1 = ((TimedStore.empty 2).run crowdedUses).1 ∧
      (cache.run crowdedUses).1 = [.done, .done, .done, .found (some (some 2)), .verdict false,
        .found (some (some 2)), .done, .found none, .found (some none)] ∧
      (cache.run crowdedUses).2.keys = ["b", "c"] := by
  obtain ⟨cache, created, agrees⟩ := run_eq_run_timed (α := Option Nat) 2 (by decide)
  refine ⟨by decide, cache, created, (agrees crowdedUses).1, ?_, ?_⟩
  · cases created
    decide
  · cases created
    decide

end Cache

end ModuleScope
