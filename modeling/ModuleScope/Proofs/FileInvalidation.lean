import Mathlib
import ModuleScope.Proofs.CacheEntries
import ModuleScope.Proofs.QueryKey

/-!
Dropping the results of one file. A kind of query holds no colon and neither do the numbers at the end
of a key, but a path may hold any. The keys that begin with the key of a file are therefore those of the
file, those of paths that go on after it with a colon, and those whose path and line together spell it.
-/
namespace ModuleScope

section Separated

variable {α : Type} {separator : α}

theorem prefix_at_first_iff {first first' rest rest' : List α} (absent : separator ∉ first)
    (absent' : separator ∉ first') :
    first ++ separator :: rest <+: first' ++ separator :: rest' ↔ first = first' ∧ rest <+: rest' := by
  induction first generalizing first' with
  | nil =>
    cases first' with
    | nil => simp
    | cons head tail =>
      have other : separator ≠ head := by
        rintro rfl
        exact absent' List.mem_cons_self
      simp [List.cons_prefix_cons, other]
  | cons head tail ih =>
    cases first' with
    | nil =>
      have other : head ≠ separator := by
        rintro rfl
        exact absent List.mem_cons_self
      simp [List.cons_prefix_cons, other]
    | cons head' tail' =>
      rw [List.mem_cons, not_or] at absent absent'
      rw [List.cons_append, List.cons_append, List.cons_prefix_cons, ih absent.2 absent'.2,
        List.cons.injEq, and_assoc]

theorem concat_prefix_at_last_iff {front before after : List α} (absent : separator ∉ after) :
    front ++ [separator] <+: before ++ separator :: after ↔
      front ++ [separator] <+: before ∨ front = before := by
  constructor
  · intro begins
    rcases List.prefix_or_prefix_of_prefix begins (List.prefix_append before _) with inside | ⟨gap, whole⟩
    · exact Or.inl inside
    · -- The front reaches the last separator, and no separator follows at which it could end.
      rw [← whole, List.prefix_append_right_inj] at begins
      rcases List.eq_nil_or_concat gap with rfl | ⟨gap, last, rfl⟩
      · rw [List.append_nil] at whole
        exact Or.inl (whole ▸ List.prefix_rfl)
      · rw [List.concat_eq_append] at begins whole
        rw [← List.append_assoc] at whole
        obtain ⟨rfl, same⟩ := List.append_inj' whole rfl
        obtain rfl := List.singleton_inj.mp same
        cases gap with
        | nil => simp
        | cons head gap =>
          rw [List.cons_append, List.cons_prefix_cons] at begins
          exact absurd (begins.2.subset (by simp)) absent
  · rintro (inside | rfl)
    · exact inside.trans (List.prefix_append before _)
    · exact (List.prefix_append_right_inj front).mpr (by simp [List.cons_prefix_cons])

end Separated

variable {kind kind' path path' : String} {line line' character character' : Int}

theorem queryKey_inj (plain : ':' ∉ kind.toList) (plain' : ':' ∉ kind'.toList)
    (same : queryKey kind path line character = queryKey kind' path' line' character') :
    kind = kind' ∧ path = path' ∧ line = line' ∧ character = character' := by
  obtain ⟨places, lines, characters⟩ := queryKey_place same
  have begins : kind.toList ++ ':' :: path.toList <+: kind'.toList ++ ':' :: path'.toList := by
    rw [places]
  obtain ⟨kinds, _⟩ := (prefix_at_first_iff plain plain').mp begins
  rw [kinds, List.append_cancel_left_eq, List.cons.injEq] at places
  exact ⟨String.toList_inj.mp kinds, String.toList_inj.mp places.2, lines, characters⟩

theorem toList_prefix_iff {text beginning : String} :
    beginning.toList <+: text.toList ↔ ∃ rest, text = beginning ++ rest := by
  constructor
  · rintro ⟨rest, whole⟩
    refine ⟨String.ofList rest, String.toList_inj.mp ?_⟩
    rw [← whole, String.toList_append, String.toList_ofList]
  · rintro ⟨rest, rfl⟩
    exact ⟨rest.toList, String.toList_append.symm⟩

theorem beginsWith_fileKey_iff (plain : ':' ∉ kind.toList) (plain' : ':' ∉ kind'.toList) :
    Cache.beginsWith (queryKey kind' path' line character) (fileKey kind path) = true ↔
      kind' = kind ∧ (path' = path ∨ (∃ rest, path' = path ++ ":" ++ rest) ∨
        path = path' ++ ":" ++ toString line) := by
  have longer : path.toList ++ [':'] <+: path'.toList ↔ ∃ rest, path' = path ++ ":" ++ rest := by
    rw [← toList_prefix_iff, String.toList_append]
    rfl
  have spelled : path.toList = path'.toList ++ ':' :: (toString line).toList ↔
      path = path' ++ ":" ++ toString line := by
    rw [← String.toList_inj, String.toList_append, String.toList_append, List.append_assoc]
    rfl
  -- The colon after the kind is the first one of both, and the path's own colons are none of the last two.
  rw [Cache.beginsWith, List.isPrefixOf_iff_prefix, toList_fileKey, toList_queryKey,
    List.append_assoc, List.append_assoc, List.cons_append, prefix_at_first_iff plain plain',
    ← List.append_assoc, concat_prefix_at_last_iff (colon_not_mem_number character),
    concat_prefix_at_last_iff (colon_not_mem_number line), String.toList_inj, String.toList_inj,
    longer, spelled]
  constructor
  · rintro ⟨rfl, (longer | rfl) | spelled⟩
    · exact ⟨rfl, Or.inr (Or.inl longer)⟩
    · exact ⟨rfl, Or.inl rfl⟩
    · exact ⟨rfl, Or.inr (Or.inr spelled)⟩
  · rintro ⟨rfl, rfl | longer | spelled⟩
    · exact ⟨rfl, Or.inl (Or.inr rfl)⟩
    · exact ⟨rfl, Or.inl (Or.inl longer)⟩
    · exact ⟨rfl, Or.inr spelled⟩

namespace Cache

variable {α : Type} {cache : Cache α} {beginning : String}

theorem not_mem_invalidate_iff {entry : String × α} (held : entry ∈ cache.entries) :
    entry ∉ (cache.invalidate beginning).2.entries ↔ beginsWith entry.1 beginning = true := by
  rw [mem_invalidate]
  simp [held]

theorem invalidate_count (cache : Cache α) (beginning : String) :
    (cache.invalidate beginning).1 + (cache.invalidate beginning).2.size = cache.size := by
  have parted := List.length_eq_length_filter_add (l := cache.entries)
    fun entry => beginsWith entry.1 beginning
  exact parted.symm

/-- Keys of different queries differ. Dropping what belongs to a file drops the results of exactly the
queries of its kind that were made in it, in a path that goes on after it with a colon, or in a path and
a line that together spell it. Everything that does not begin with the file's key stays as it was, in
its order, and the answer is the number of results that are gone. -/
theorem invalidate_fileKey (cache : Cache α) (kind path : String) (plain : ':' ∉ kind.toList) :
    let cleared := cache.invalidate (fileKey kind path)
    (∀ kind' path' line character kind'' path'' line' character',
      ':' ∉ kind'.toList → ':' ∉ kind''.toList →
        (queryKey kind' path' line character = queryKey kind'' path'' line' character' ↔
          kind' = kind'' ∧ path' = path'' ∧ line = line' ∧ character = character')) ∧
      (∀ kind' path' line character value, ':' ∉ kind'.toList →
        (queryKey kind' path' line character, value) ∈ cache.entries →
          ((queryKey kind' path' line character, value) ∉ cleared.2.entries ↔
            kind' = kind ∧ (path' = path ∨ (∃ rest, path' = path ++ ":" ++ rest) ∨
              path = path' ++ ":" ++ toString line))) ∧
      (∀ entry ∈ cache.entries, entry ∉ cleared.2.entries ↔
        ∃ rest, entry.1 = fileKey kind path ++ rest) ∧
      cleared.2.entries.Sublist cache.entries ∧
      cleared.1 + cleared.2.size = cache.size ∧
      cleared.2.capacity = cache.capacity := by
  intro cleared
  refine ⟨?_, ?_, ?_, List.filter_sublist, cache.invalidate_count _, rfl⟩
  · intro kind' path' line character kind'' path'' line' character' plain' plain''
    constructor
    · exact queryKey_inj plain' plain''
    · rintro ⟨rfl, rfl, rfl, rfl⟩
      rfl
  · intro kind' path' line character value plain' held
    rw [not_mem_invalidate_iff held, beginsWith_fileKey_iff plain plain']
  · intro entry held
    rw [not_mem_invalidate_iff held, beginsWith, List.isPrefixOf_iff_prefix, toList_prefix_iff]

/-- Of five results, dropping those of the file `a:1` drops its own, one of `a:1:b`, and one of line 1 of
the file `a`. -/
theorem invalidate_fileKey_colons :
    let cache : Cache Nat := ⟨9, [(queryKey "usages" "a" 1 0, 0), (queryKey "usages" "a:1" 2 3, 1),
      (queryKey "usages" "a:10" 1 1, 2), (queryKey "usages" "a:1:b" 0 0, 3),
      (queryKey "definition" "a:1" 2 3, 4)]⟩
    let cleared := cache.invalidate (fileKey "usages" "a:1")
    ':' ∉ "usages".toList ∧ cleared.1 = 3 ∧ cleared.2.entries.map Prod.snd = [2, 4] ∧
      (queryKey "usages" "a" 1 0, 0) ∉ cleared.2.entries ∧
      (queryKey "usages" "a:10" 1 1, 2) ∈ cleared.2.entries := by
  intro cache cleared
  have plain : ':' ∉ "usages".toList := by decide
  obtain ⟨_, dropped, _⟩ := cache.invalidate_fileKey "usages" "a:1" plain
  refine ⟨plain, by decide, by decide, ?_, ?_⟩
  · exact (dropped "usages" "a" 1 0 0 plain (by simp [cache])).mpr ⟨rfl, Or.inr (Or.inr (by decide))⟩
  · by_contra gone
    obtain ⟨_, same | ⟨rest, longer⟩ | spelled⟩ :=
      (dropped "usages" "a:10" 1 1 2 plain (by simp [cache])).mp gone
    · exact absurd same (by decide)
    · have fourth := congrArg (fun text => text.toList[3]?) longer
      simp at fourth
    · exact absurd spelled (by decide)

end Cache

end ModuleScope
