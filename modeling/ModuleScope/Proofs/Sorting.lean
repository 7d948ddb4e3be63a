import Mathlib
import ModuleScope.ModuleGraph
import ModuleScope.Search.Usages

/-!
Sorted lists. Texts that are sorted without repetitions are told by their members alone, and sorting
is stable, so it makes no difference whether a list is sorted before or after it is filtered.
-/
namespace ModuleScope

theorem nodup_eraseDups {α : Type} [BEq α] [LawfulBEq α] (items : List α) : items.eraseDups.Nodup := by
  cases items with
  | nil => simp
  | cons first rest =>
    rw [List.eraseDups_cons, List.nodup_cons]
    exact ⟨by simp [List.mem_eraseDups], nodup_eraseDups _⟩
termination_by items.length
decreasing_by exact Nat.lt_succ_of_le (List.length_filter_le _ _)

theorem eraseDups_of_nodup {names : List String} (distinct : names.Nodup) :
    names.eraseDups = names := by
  induction names with
  | nil => rfl
  | cons first rest ih =>
    obtain ⟨absent, distinct⟩ := List.nodup_cons.mp distinct
    have others : (rest.filter fun name => !name == first) = rest := by
      rw [List.filter_eq_self]
      rintro name member
      have different : name ≠ first := fun same => absent (same ▸ member)
      simpa using different
    rw [List.eraseDups_cons, others, ih distinct]

theorem mem_sorted {text : String} {texts : List String} : text ∈ sorted texts ↔ text ∈ texts :=
  List.mem_mergeSort

theorem mem_sortedDistinct {text : String} {texts : List String} :
    text ∈ sortedDistinct texts ↔ text ∈ texts := by
  rw [sortedDistinct, mem_sorted, List.mem_eraseDups]

theorem nodup_sortedDistinct (texts : List String) : (sortedDistinct texts).Nodup :=
  List.nodup_mergeSort.mpr (nodup_eraseDups texts)

theorem pairwise_sorted (texts : List String) : (sorted texts).Pairwise (· ≤ ·) := by
  have ordered : (sorted texts).Pairwise fun left right => decide (left ≤ right) = true :=
    List.pairwise_mergeSort (by simpa using fun _ _ _ => le_trans) (by simpa using le_total) texts
  simpa using ordered

theorem eq_of_sorted {left right : List String} (leftSorted : left.Pairwise (· ≤ ·))
    (rightSorted : right.Pairwise (· ≤ ·)) (leftNodup : left.Nodup) (rightNodup : right.Nodup)
    (members : ∀ text, text ∈ left ↔ text ∈ right) : left = right :=
  ((List.perm_ext_iff_of_nodup leftNodup rightNodup).mpr members).eq_of_pairwise
    (fun _ _ _ _ => le_antisymm) leftSorted rightSorted

theorem sorted_eq_filter {texts others : List String} {test : String → Bool}
    (ordered : others.Pairwise (· ≤ ·)) (distinct : others.Nodup)
    (members : ∀ text, text ∈ texts ↔ text ∈ others ∧ test text = true) :
    sorted (sortedDistinct texts) = others.filter test := by
  refine eq_of_sorted (pairwise_sorted _) (ordered.filter test)
    (List.nodup_mergeSort.mpr (nodup_sortedDistinct texts)) (distinct.filter test) fun text => ?_
  rw [mem_sorted, mem_sortedDistinct, members, List.mem_filter]

private theorem cut_unique {α : Type} {test : α → Bool} {first second first' second' : List α}
    (same : first ++ second = first' ++ second') (before : ∀ each ∈ first, test each = false)
    (after : ∀ each ∈ second, test each = true) (before' : ∀ each ∈ first', test each = false)
    (after' : ∀ each ∈ second', test each = true) : first = first' ∧ second = second' := by
  have none {items : List α} (fails : ∀ each ∈ items, test each = false) : items.filter test = [] := by
    simpa using fails
  have seconds : second = second' := by
    have kept := congrArg (List.filter test) same
    rwa [List.filter_append, List.filter_append, none before, none before',
      List.filter_eq_self.mpr after, List.filter_eq_self.mpr after'] at kept
  subst seconds
  exact ⟨List.append_cancel_right same, rfl⟩

section Stability

variable {α : Type} {le : α → α → Bool}
  (trans : ∀ a b c, le a b = true → le b c = true → le a c = true)
  (total : ∀ a b, (le a b || le b a) = true)
include trans total

/-- Sorting keeps the elements that satisfy a test in the order it gives to them alone. -/
theorem mergeSort_filter (test : α → Bool) (items : List α) :
    (items.filter test).mergeSort le = (items.mergeSort le).filter test := by
  -- In the sorted list an element stands right before those that it does not exceed.
  have after {item : α} {items first second : List α}
      (whole : (item :: items).mergeSort le = first ++ item :: second) :
      ∀ each ∈ second, le item each = true := by
    have ordered := List.pairwise_mergeSort trans total (item :: items)
    rw [whole, List.pairwise_append, List.pairwise_cons] at ordered
    exact ordered.2.1.1
  induction items with
  | nil => simp
  | cons item items ih =>
    obtain ⟨first, second, whole, rest, before⟩ := List.mergeSort_cons trans total item items
    rw [rest, List.filter_append] at ih
    rw [whole, List.filter_append]
    by_cases kept : test item = true
    · obtain ⟨first', second', whole', rest', before'⟩ :=
        List.mergeSort_cons trans total item (items.filter test)
      obtain ⟨rfl, rfl⟩ := cut_unique (rest'.symm.trans ih) (by simpa using before') (after whole')
        (fun each member => by simpa using before each (List.mem_of_mem_filter member))
        (fun each member => after whole each (List.mem_of_mem_filter member))
      rw [List.filter_cons_of_pos kept, List.filter_cons_of_pos kept, whole']
    · rw [List.filter_cons_of_neg kept, List.filter_cons_of_neg kept, ih]

end Stability

end ModuleScope
