import Mathlib
import ModuleScope.Proofs.Lookup
import ModuleScope.Settings.Dotenv

/-!
Variables from a file. The last binding of a name counts, and a name that is set already keeps its value.
Loading a file therefore extends an environment by the last bindings of the names that are not set, up to
the first of them that cannot be set.
-/
namespace ModuleScope

theorem lookup_cons_pair {α : Type} (entries : List (String × α)) (name : String) (value : α) (other : String) :
    ((name, value) :: entries).lookup other = if other = name then some value else entries.lookup other := by
  rw [List.lookup_cons]
  by_cases same : other = name
  · simp [same]
  · simp [same, beq_eq_false_iff_ne.mpr same]

theorem lookup_eq_none_of_notMem {α : Type} {entries : List (String × α)} {name : String}
    (absent : name ∉ entries.map Prod.fst) : entries.lookup name = none := by
  rw [List.lookup_eq_none_iff]
  intro entry member
  have differs : name ≠ entry.1 := fun same => absent (same ▸ List.mem_map_of_mem member)
  simpa using differs

namespace Environment

variable (environment : Environment)

theorem get?_erase_of_ne {name other : String} (differs : other ≠ name) :
    (environment.erase name).get? other = environment.get? other := by
  obtain ⟨entries⟩ := environment
  dsimp only [get?, erase]
  induction entries with
  | nil => rfl
  | cons entry rest ih =>
    obtain ⟨bound, value⟩ := entry
    rw [lookup_cons_pair, List.filter_cons]
    by_cases dropped : bound = name
    · rw [if_neg (by simpa using dropped), if_neg (dropped ▸ differs)]
      exact ih
    · rw [if_pos (by simpa using dropped), lookup_cons_pair, ih]

theorem get?_set (name value other : String) :
    (environment.set name value).get? other = if other = name then some value else environment.get? other := by
  rw [get?, set, lookup_cons_pair]
  split
  · rfl
  · next differs => exact get?_erase_of_ne environment differs

theorem contains_eq_true_iff (name : String) :
    environment.contains name = true ↔ environment.get? name ≠ none := by
  rw [contains, Option.isSome_iff_ne_none]

/-- One environment is another with the values of names added that are not set there. -/
def Extends (after environment : Environment) (values : Dotenv.Values) : Prop :=
  ∀ name, after.get? name = (environment.get? name).or (values.lookup name).join

theorem Extends.get?_of_some {after environment : Environment} {values : Dotenv.Values}
    (extended : after.Extends environment values) {name value : String}
    (present : environment.get? name = some value) : after.get? name = some value := by
  rw [extended name, present, Option.some_or]

end Environment

namespace Dotenv

def resolved (environment : Environment) (bindings : List Binding) : Values :=
  bindings.foldl (fun found binding =>
    match binding.key with
    | some name => (name, binding.value.map (resolve environment found)) :: found
    | none => found) []

section Values

variable {values found : Values}

theorem any_name_iff (values : Values) (name : String) :
    (values.any fun entry => entry.1 == name) = true ↔ name ∈ values.map Prod.fst := by
  simp [List.any_eq_true]

theorem map_fst_bind (values : Values) (name : String) (value : Option String) :
    (Values.bind values name value).map Prod.fst =
      if name ∈ values.map Prod.fst then values.map Prod.fst else values.map Prod.fst ++ [name] := by
  unfold Values.bind
  by_cases present : name ∈ values.map Prod.fst
  · rw [if_pos ((any_name_iff values name).mpr present), if_pos present, List.map_map]
    apply List.map_congr_left
    intro entry _
    by_cases same : entry.1 = name
    · simp [same]
    · simp [same]
  · rw [if_neg (mt (any_name_iff values name).mp present), if_neg present, List.map_append, List.map_singleton]

theorem nodup_bind (distinct : (values.map Prod.fst).Nodup) (name : String) (value : Option String) :
    ((Values.bind values name value).map Prod.fst).Nodup := by
  rw [map_fst_bind]
  split
  · exact distinct
  · next absent =>
    rw [List.nodup_append]
    refine ⟨distinct, List.nodup_singleton name, ?_⟩
    intro earlier member last added
    rw [List.mem_singleton.mp added]
    exact fun same => absent (same ▸ member)

theorem lookup_replaced (values : Values) (name : String) (value : Option String) (other : String) :
    (values.map fun entry => if entry.1 == name then (name, value) else entry).lookup other =
      if other = name ∧ name ∈ values.map Prod.fst then some value else values.lookup other := by
  induction values with
  | nil => simp
  | cons entry rest ih =>
    obtain ⟨bound, old⟩ := entry
    rw [List.map_cons, lookup_cons_pair]
    by_cases here : bound = name
    · subst here
      simp only [beq_self_eq_true, if_true, lookup_cons_pair]
      by_cases same : other = bound
      · simp [same]
      · rw [if_neg same, ih, if_neg (fun both => same both.1), if_neg (fun both => same both.1), if_neg same]
    · simp only [beq_eq_false_iff_ne.mpr here, Bool.false_eq_true, if_false, lookup_cons_pair, ih]
      by_cases same : other = bound
      · subst same
        simp [here]
      · simp only [same, if_false, List.map_cons, List.mem_cons, Ne.symm here, false_or]

theorem lookup_bind (values : Values) (name : String) (value : Option String) (other : String) :
    (Values.bind values name value).lookup other = if other = name then some value else values.lookup other := by
  unfold Values.bind
  by_cases present : name ∈ values.map Prod.fst
  · rw [if_pos ((any_name_iff values name).mpr present), lookup_replaced]
    simp only [present, and_true]
  · rw [if_neg (mt (any_name_iff values name).mp present), List.lookup_append, lookup_cons_pair, List.lookup_nil]
    by_cases same : other = name
    · rw [same, if_pos rfl, if_pos rfl, lookup_eq_none_of_notMem present, Option.none_or]
    · rw [if_neg same, if_neg same, Option.or_none]

theorem resolve_congr (same : ∀ name, values.lookup name = found.lookup name) (environment : Environment) :
    resolve environment values = resolve environment found := by
  have parts : Part.resolve environment values = Part.resolve environment found := by
    funext part
    cases part with
    | literal c => rfl
    | reference name otherwise => simp only [Part.resolve, same name]
  funext value
  rw [resolve, resolve, parts]

end Values

theorem nodup_values (environment : Environment) (bindings : List Binding) :
    ((values environment bindings).map Prod.fst).Nodup := by
  unfold values
  apply List.foldlRecOn (motive := fun found : Values => (found.map Prod.fst).Nodup)
  · exact List.nodup_nil
  · intro found distinct binding _
    cases binding.key with
    | none => exact distinct
    | some name => exact nodup_bind distinct name _

theorem lookup_values (environment : Environment) (bindings : List Binding) (name : String) :
    (values environment bindings).lookup name = (resolved environment bindings).lookup name := by
  -- A reference is looked up by name, so it resolves alike in two lists that answer alike.
  unfold values resolved
  apply List.foldl_rel (r := fun values found : Values => ∀ name, values.lookup name = found.lookup name)
    (fun _ => rfl)
  intro binding _ values found same name
  cases binding.key with
  | none => exact same name
  | some bound =>
    simp only [lookup_bind, lookup_cons_pair, resolve_congr same]
    rw [same name]

def CanSet (name value : String) : Prop :=
  '\x00' ∉ name.toList ∧ '\x00' ∉ value.toList ∧ '=' ∉ name.toList

theorem fault?_eq_none_iff {name value : String} : fault? name value = none ↔ CanSet name value := by
  by_cases null : '\x00' ∈ name.toList ∨ '\x00' ∈ value.toList
  · simp [fault?, CanSet, null]
    tauto
  · by_cases equals : '=' ∈ name.toList
    · simp [fault?, CanSet, null, equals]
    · simp [fault?, CanSet, null, equals]
      tauto

/-- A binding of a name that is not set, and that cannot be set to the value. -/
def Refused (environment : Environment) (name value : String) (fault : Fault) : Prop :=
  environment.get? name = none ∧ fault? name value = some fault

theorem refused_set_iff {environment : Environment} {name other value text : String} {fault : Fault}
    (differs : other ≠ name) :
    Refused (environment.set name value) other text fault ↔ Refused environment other text fault := by
  rw [Refused, Refused, environment.get?_set, if_neg differs]

/-- Applying values came to an end: at the last one, or at the first that is refused. -/
@[mk_iff]
inductive Ended (environment : Environment) (settled : Values) : Values → Except Fault Unit → Prop
  | all : Ended environment settled settled (.ok ())
  | refused {name value : String} {fault : Fault} (rest : Values)
      (refusal : Refused environment name value fault) :
      Ended environment settled (settled ++ (name, some value) :: rest) (.error fault)

variable {environment after : Environment} {values settled : Values} {outcome : Except Fault Unit}

theorem Ended.cons (ended : Ended environment settled values outcome) (entry : String × Option String) :
    Ended environment (entry :: settled) (entry :: values) outcome := by
  cases ended with
  | all => exact .all
  | refused rest refusal =>
    rw [← List.cons_append]
    exact .refused rest refusal

theorem Ended.notMem_settled (ended : Ended environment settled values outcome) {name : String}
    (absent : name ∉ values.map Prod.fst) : name ∉ settled.map Prod.fst := by
  cases ended with
  | all => exact absent
  | refused rest _ =>
    rw [List.map_append, List.mem_append, not_or] at absent
    exact absent.1

theorem Ended.of_set {name value : String} (absent : name ∉ values.map Prod.fst)
    (ended : Ended (environment.set name value) settled values outcome) :
    Ended environment settled values outcome := by
  cases ended with
  | all => exact .all
  | @refused other text fault rest refusal =>
    have differs : other ≠ name := by
      rintro rfl
      exact absent (by simp)
    exact .refused rest ((refused_set_iff differs).mp refusal)

/-- What applying values does: it extends the environment by the values up to the end, none of them
refused. -/
def Applied (environment : Environment) (values : Values) (after : Environment) (outcome : Except Fault Unit) :
    Prop :=
  ∃ settled, after.Extends environment settled ∧
    (∀ name value, (name, some value) ∈ settled → ∀ fault, ¬ Refused environment name value fault) ∧
    Ended environment settled values outcome

/-- A value that sets nothing may be left out. -/
theorem Applied.skip {name : String} {value : Option String} (absent : name ∉ values.map Prod.fst)
    (idle : value = none ∨ environment.get? name ≠ none)
    (applied : Applied environment values after outcome) :
    Applied environment ((name, value) :: values) after outcome := by
  obtain ⟨settled, extended, clear, ended⟩ := applied
  refine ⟨(name, value) :: settled, ?_, ?_, ended.cons _⟩
  · intro other
    rw [extended other, lookup_cons_pair]
    split
    · next same =>
      rw [same, lookup_eq_none_of_notMem (ended.notMem_settled absent)]
      obtain rfl | present := idle
      · rfl
      · obtain ⟨old, found⟩ := Option.ne_none_iff_exists'.mp present
        rw [found, Option.some_or, Option.some_or]
    · rfl
  · intro other text member fault refusal
    obtain same | later := List.mem_cons.mp member
    · cases same
      obtain none | present := idle
      · cases none
      · exact present refusal.1
    · exact clear other text later fault refusal

theorem Applied.set {name value : String} (absent : name ∉ values.map Prod.fst)
    (unset : environment.get? name = none) (settable : fault? name value = none)
    (applied : Applied (environment.set name value) values after outcome) :
    Applied environment ((name, some value) :: values) after outcome := by
  obtain ⟨settled, extended, clear, ended⟩ := applied
  have fresh : name ∉ settled.map Prod.fst := ended.notMem_settled absent
  refine ⟨(name, some value) :: settled, ?_, ?_, (ended.of_set absent).cons _⟩
  · intro other
    rw [extended other, environment.get?_set, lookup_cons_pair]
    split
    · next same => rw [same, unset, Option.some_or, Option.none_or, Option.join_some]
    · rfl
  · intro other text member fault refusal
    obtain same | later := List.mem_cons.mp member
    · cases same
      rw [Refused, settable] at refusal
      cases refusal.2
    · have differs : other ≠ name := by
        rintro rfl
        exact fresh (List.mem_map_of_mem later)
      exact clear other text later fault ((refused_set_iff differs).mpr refusal)

theorem applied_apply (environment : Environment) (distinct : (values.map Prod.fst).Nodup) :
    Applied environment values (apply environment values).1 (apply environment values).2 := by
  fun_induction apply environment values with
  | case1 environment =>
    refine ⟨[], ?_, ?_, .all⟩
    · intro name
      rw [List.lookup_nil, Option.join_none, Option.or_none]
    · intro name value member
      cases member
  | case2 environment name rest ih =>
    obtain ⟨absent, distinct⟩ := List.nodup_cons.mp distinct
    exact (ih distinct).skip absent (.inl rfl)
  | case3 environment name rest value present ih =>
    obtain ⟨absent, distinct⟩ := List.nodup_cons.mp distinct
    exact (ih distinct).skip absent (.inr ((environment.contains_eq_true_iff name).mp present))
  | case4 environment name rest value unset fault found =>
    have missing : environment.get? name = none := by
      rwa [environment.contains_eq_true_iff, not_not] at unset
    refine ⟨[], ?_, ?_, @Ended.refused environment [] name value fault rest ⟨missing, found⟩⟩
    · intro other
      rw [List.lookup_nil, Option.join_none, Option.or_none]
    · intro other text member
      cases member
  | case5 environment name rest value unset settable ih =>
    obtain ⟨absent, distinct⟩ := List.nodup_cons.mp distinct
    rw [environment.contains_eq_true_iff, not_not] at unset
    exact (ih distinct).set absent unset settable

section Bindings

variable {bindings : List Binding}

def boundNames (bindings : List Binding) : List String := (bindings.filterMap Binding.key).eraseDups

theorem map_fst_values (environment : Environment) (bindings : List Binding) :
    (Dotenv.values environment bindings).map Prod.fst = boundNames bindings := by
  induction bindings using List.reverseRecOn with
  | nil => rfl
  | append_singleton earlier binding ih =>
    have step : Dotenv.values environment (earlier ++ [binding]) =
        match binding.key with
        | some name => Values.bind (Dotenv.values environment earlier) name
            (binding.value.map (resolve environment (Dotenv.values environment earlier)))
        | none => Dotenv.values environment earlier := by
      rw [Dotenv.values, List.foldl_append]
      rfl
    rw [step, boundNames, List.filterMap_append, List.eraseDups_append]
    cases key : binding.key with
    | none => simp [ih, key, boundNames]
    | some name =>
      have single : [binding].filterMap Binding.key = [name] := by simp [key]
      rw [map_fst_bind, ih, single, boundNames]
      generalize earlier.filterMap Binding.key = names
      by_cases known : name ∈ names
      · simp [known, List.removeAll]
      · simp [known, List.removeAll, List.eraseDups_cons]

theorem lookup_resolved_eq_some_iff {name : String} {value : Option String} :
    (resolved environment bindings).lookup name = some value ↔
      (name, value) ∈ Dotenv.values environment bindings := by
  rw [← lookup_values, lookup_eq_some_iff_mem (nodup_values environment bindings)]

theorem lookup_settled {rest : Values} (split : Dotenv.values environment bindings = settled ++ rest)
    (name : String) :
    settled.lookup name =
      if name ∈ settled.map Prod.fst then (resolved environment bindings).lookup name else none := by
  split
  · next member =>
    rw [← lookup_values, split, List.lookup_append]
    cases found : settled.lookup name with
    | some value => rw [Option.some_or]
    | none =>
      obtain ⟨entry, inside, same⟩ := List.mem_map.mp member
      simpa [same] using List.lookup_eq_none_iff.mp found entry inside
  · next absent => exact lookup_eq_none_of_notMem absent

/-- Each of the names that is not set and has a value can be set to it. -/
def Settable (environment : Environment) (found : Values) (names : List String) : Prop :=
  ∀ name ∈ names, environment.get? name = none → ∀ value, found.lookup name = some (some value) →
    CanSet name value

theorem settable_settled {rest : Values} (split : Dotenv.values environment bindings = settled ++ rest)
    (clear : ∀ name value, (name, some value) ∈ settled → ∀ fault, ¬ Refused environment name value fault) :
    Settable environment (resolved environment bindings) (settled.map Prod.fst) := by
  intro name member unset value found
  have inside := lookup_settled split name
  rw [if_pos member, found] at inside
  obtain ⟨before, after, rfl, _⟩ := List.lookup_eq_some_iff.mp inside
  rw [← fault?_eq_none_iff, Option.eq_none_iff_forall_ne_some]
  exact fun fault refused => clear name value (by simp) fault ⟨unset, refused⟩

theorem apply_values_of_settable
    (settable : Settable environment (resolved environment bindings) (boundNames bindings)) :
    (apply environment (Dotenv.values environment bindings)).1.Extends environment
        (resolved environment bindings) ∧
      (apply environment (Dotenv.values environment bindings)).2 = .ok () := by
  obtain ⟨settled, extended, _, ended⟩ := applied_apply environment (nodup_values environment bindings)
  obtain ⟨all, done⟩ | ⟨name, value, fault, rest, refusal, split, _⟩ := (ended_iff ..).mp ended
  · refine ⟨fun name => ?_, done⟩
    rw [extended name, ← all, lookup_values]
  · have member : (name, some value) ∈ Dotenv.values environment bindings := by simp [split]
    have bound : name ∈ boundNames bindings := by
      rw [← map_fst_values environment]
      exact List.mem_map_of_mem member
    have settled := settable name bound refusal.1 value (lookup_resolved_eq_some_iff.mpr member)
    rw [← fault?_eq_none_iff, refusal.2] at settled
    cases settled

theorem apply_values_of_refused
    (unsettable : ¬ Settable environment (resolved environment bindings) (boundNames bindings)) :
    ∃ before name value fault later, boundNames bindings = before ++ name :: later ∧
      Settable environment (resolved environment bindings) before ∧
      (resolved environment bindings).lookup name = some (some value) ∧ Refused environment name value fault ∧
      (∀ other, (apply environment (Dotenv.values environment bindings)).1.get? other =
        (environment.get? other).or
          (if other ∈ before then ((resolved environment bindings).lookup other).join else none)) ∧
      (apply environment (Dotenv.values environment bindings)).2 = .error fault := by
  obtain ⟨settled, extended, clear, ended⟩ := applied_apply environment (nodup_values environment bindings)
  obtain ⟨all, _⟩ | ⟨name, value, fault, rest, refusal, split, failed⟩ := (ended_iff ..).mp ended
  · apply absurd _ unsettable
    rw [← map_fst_values environment, all]
    exact settable_settled (all.trans (List.append_nil _).symm) clear
  · refine ⟨settled.map Prod.fst, name, value, fault, rest.map Prod.fst, ?_, settable_settled split clear, ?_,
      refusal, ?_, failed⟩
    · rw [← map_fst_values environment, split, List.map_append, List.map_cons]
    · rw [lookup_resolved_eq_some_iff, split]
      simp
    · intro other
      rw [extended other, lookup_settled split, apply_ite Option.join, Option.join_none]

end Bindings

end Dotenv

end ModuleScope
