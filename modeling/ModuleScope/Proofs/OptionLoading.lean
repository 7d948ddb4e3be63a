import Mathlib
import ModuleScope.CommandLine.Run
import ModuleScope.Proofs.CacheRuns
import ModuleScope.Proofs.FileVariables
import ModuleScope.Proofs.Numerals

/-!
Loading options. A requirement says which values of a variable an option accepts; options are loaded
without a fault just when every requirement is met, and otherwise the first one that is not met is named.
-/
namespace ModuleScope

namespace Text

theorem trim_eq_empty_iff (text : String) : trim text = "" ↔ ∀ c ∈ text.toList, isBlank c = true := by
  have trimmed : trim text = "" ↔ trimBoth isBlank text.toList = [] := by
    rw [trim, ← String.toList_inj, String.toList_ofList, String.toList_empty]
  rw [trimmed]
  constructor
  · intro empty
    obtain ⟨left, right, parts, blank⟩ := exists_trimBoth isBlank text.toList
    rw [empty, List.append_nil] at parts
    rwa [parts]
  · intro blank
    rw [trimBoth, List.dropWhile_eq_nil_iff.mpr blank]
    rfl

end Text

namespace OptionFault

def name : OptionFault → String
  | notInteger name _ => name
  | notBoolean name _ => name
  | belowOne name _ => name
  | negative name _ => name

theorem exists_message_eq (fault : OptionFault) :
    ∃ text, fault.message = fault.name ++ " must " ++ text := by
  cases fault with
  | notInteger name raw =>
    refine ⟨"be an integer, got " ++ Text.quoted raw, ?_⟩
    simp [message, OptionFault.name, toString, ← String.toList_inj]
  | notBoolean name raw =>
    refine ⟨"be a boolean, got " ++ Text.quoted raw, ?_⟩
    simp [message, OptionFault.name, toString, ← String.toList_inj]
  | belowOne name value =>
    refine ⟨"be at least 1, got " ++ toString value, ?_⟩
    simp [message, OptionFault.name, toString, ← String.toList_inj]
  | negative name value =>
    refine ⟨"not be negative, got " ++ toString value, ?_⟩
    simp [message, OptionFault.name, toString, ← String.toList_inj]

end OptionFault

namespace Options

structure Requirement where
  name : String
  Accepts : String → Prop

def AtLeast (least : Int) (raw : String) : Prop := ∃ value, Text.IsNumeral raw.toList value ∧ least ≤ value

def truthWords : List String := ["1", "true", "yes", "on", "0", "false", "no", "off"]

def IsTruthWord (raw : String) : Prop :=
  ∃ word ∈ truthWords, (Text.trim raw).toList.map Char.toLower = word.toList

def requirements : List Requirement :=
  [⟨cacheSizeName, AtLeast 1⟩, ⟨inlineUsagesName, AtLeast 0⟩, ⟨debounceName, AtLeast 0⟩,
   ⟨scopingName, IsTruthWord⟩, ⟨verboseName, IsTruthWord⟩]

/-- A variable that is not set or blank is as good as an accepted one. -/
def Requirement.Met (requirement : Requirement) (environment : Environment) : Prop :=
  ∀ raw, environment.get? requirement.name = some raw →
    (∀ c ∈ raw.toList, Text.isBlank c = true) ∨ requirement.Accepts raw

variable {environment : Environment} {requirement : Requirement}

theorem met_of_raw?_eq_none (absent : raw? environment requirement.name = none) :
    requirement.Met environment := by
  intro raw present
  rw [raw?, Option.filter_eq_none_iff] at absent
  left
  rw [← Text.trim_eq_empty_iff]
  simpa using absent raw present

theorem met_iff_of_raw?_eq_some {raw : String} (present : raw? environment requirement.name = some raw) :
    requirement.Met environment ↔ requirement.Accepts raw := by
  rw [raw?, Option.filter_eq_some_iff] at present
  obtain ⟨set, visible⟩ := present
  have unblank : ¬ ∀ c ∈ raw.toList, Text.isBlank c = true := by
    rw [← Text.trim_eq_empty_iff]
    simpa using visible
  constructor
  · intro met
    exact (met raw set).resolve_left unblank
  · intro accepted other present
    obtain rfl : raw = other := Option.some.inj (set.symm.trans present)
    exact .inr accepted

theorem truth?_eq_none_iff (raw : String) : truth? raw = none ↔ ¬ IsTruthWord raw := by
  have word : ∀ word : String, (Text.trim raw).toList.map Char.toLower = word.toList ↔
      String.ofList ((Text.trim raw).toList.map Char.toLower) = word := by
    intro word
    rw [← String.toList_inj, String.toList_ofList]
  simp only [truth?, IsTruthWord, truthWords, word]
  generalize String.ofList ((Text.trim raw).toList.map Char.toLower) = lowered
  split
  · next affirms =>
    simp at affirms
    simp
    tauto
  · next other =>
    split
    · next denies =>
      simp at denies
      simp
      tauto
    · next neither =>
      simp at other neither
      simp
      tauto

/-- A check passes just when a requirement is met, and otherwise faults its variable. -/
structure Decides (environment : Environment) (check : Except OptionFault Unit) (requirement : Requirement) :
    Prop where
  passes : requirement.Met environment → check = .ok ()
  fails : ¬ requirement.Met environment → ∃ fault, check = .error fault ∧ fault.name = requirement.name

def bounded (read : Except OptionFault Int) (least : Int) (fault : Int → OptionFault) :
    Except OptionFault Unit := do
  let value ← read
  if value < least then throw (fault value)

def checks (environment : Environment) : List (Except OptionFault Unit) :=
  [bounded (cacheSize environment) 1 (.belowOne cacheSizeName),
   bounded (inlineUsages environment) 0 (.negative inlineUsagesName),
   bounded (debounce environment) 0 (.negative debounceName),
   discard (scoping environment), discard (verbose environment)]

def allPass : List (Except OptionFault Unit) → Except OptionFault Unit
  | [] => .ok ()
  | check :: rest => check >>= fun _ => allPass rest

theorem allPass_bounded (read : Except OptionFault Int) (least : Int) (fault : Int → OptionFault)
    (rest : List (Except OptionFault Unit)) :
    allPass (bounded read least fault :: rest) =
      read >>= fun value => if value < least then throw (fault value) else allPass rest := by
  cases read with
  | error fault => rfl
  | ok value =>
    change (ite _ _ _ >>= _) = ite _ _ _
    split
    · rfl
    · rfl

theorem validate_eq_allPass (environment : Environment) :
    validate environment = allPass (checks environment) := by
  rw [checks, allPass_bounded, allPass_bounded, allPass_bounded]
  unfold validate allPass allPass allPass
  cases verbose environment with
  | error fault => rfl
  | ok shown => rfl

theorem bounded_eq_ok_iff {read : Except OptionFault Int} {least : Int} {fault : Int → OptionFault} :
    bounded read least fault = .ok () ↔ ∃ value, read = .ok value ∧ least ≤ value := by
  cases read with
  | error fault => simp [bounded, bind, Except.bind]
  | ok value =>
    change ite _ _ _ = _ ↔ _
    split
    · next low => simp [throw, throwThe, MonadExceptOf.throw, low]
    · next enough => simpa [pure, Except.pure] using enough

theorem bounded_eq_error {read : Except OptionFault Int} {least : Int} {fault : Int → OptionFault}
    {value : Int} (found : read = .ok value) (low : value < least) :
    bounded read least fault = .error (fault value) := by
  subst found
  change ite _ _ _ = _
  rw [if_pos low]
  rfl

theorem discard_eq_ok_iff {read : Except OptionFault Bool} :
    discard read = .ok () ↔ ∃ value, read = .ok value := by
  cases read with
  | error fault =>
    constructor
    · intro passed
      cases passed
    · rintro ⟨value, read⟩
      cases read
  | ok value => exact ⟨fun _ => ⟨value, rfl⟩, fun _ => rfl⟩

theorem decides_bounded {name : String} {default least : Int} {fault : Int → OptionFault}
    (environment : Environment) (enough : least ≤ default) (named : ∀ value, (fault value).name = name) :
    Decides environment (bounded (integer environment name default) least fault) ⟨name, AtLeast least⟩ := by
  cases present : raw? environment name with
  | none =>
    have read : integer environment name default = .ok default := by rw [integer, present]
    constructor
    · intro _
      exact bounded_eq_ok_iff.mpr ⟨default, read, enough⟩
    · intro unmet
      exact absurd (met_of_raw?_eq_none present) unmet
  | some raw =>
    have accepted := @met_iff_of_raw?_eq_some environment ⟨name, AtLeast least⟩ raw present
    cases number : Text.integer? raw with
    | none =>
      have read : integer environment name default = .error (.notInteger name raw) := by
        rw [integer, present]
        simp only [number]
      constructor
      · intro met
        obtain ⟨value, numeral, _⟩ := accepted.mp met
        rw [Text.integer?_eq_some_iff.mpr numeral] at number
        cases number
      · intro _
        rw [read]
        exact ⟨_, rfl, rfl⟩
    | some value =>
      have read : integer environment name default = .ok value := by
        rw [integer, present]
        simp only [number]
      constructor
      · intro met
        obtain ⟨written, numeral, enough⟩ := accepted.mp met
        rw [Text.integer?_eq_some_iff.mpr numeral] at number
        cases number
        exact bounded_eq_ok_iff.mpr ⟨value, read, enough⟩
      · intro unmet
        have low : value < least := by
          rw [← Int.not_le]
          intro enough
          exact unmet (accepted.mpr ⟨value, Text.integer?_eq_some_iff.mp number, enough⟩)
        exact ⟨fault value, bounded_eq_error read low, named value⟩

theorem decides_boolean (environment : Environment) (name : String) (default : Bool) :
    Decides environment (discard (boolean environment name default)) ⟨name, IsTruthWord⟩ := by
  cases present : raw? environment name with
  | none =>
    have read : boolean environment name default = .ok default := by rw [boolean, present]
    rw [read]
    exact ⟨fun _ => rfl, fun unmet => absurd (met_of_raw?_eq_none present) unmet⟩
  | some raw =>
    have accepted := @met_iff_of_raw?_eq_some environment ⟨name, IsTruthWord⟩ raw present
    cases word : truth? raw with
    | none =>
      have read : boolean environment name default = .error (.notBoolean name raw) := by
        rw [boolean, present]
        simp only [word]
      rw [read]
      exact ⟨fun met => absurd (accepted.mp met) ((truth?_eq_none_iff raw).mp word), fun _ => ⟨_, rfl, rfl⟩⟩
    | some value =>
      have read : boolean environment name default = .ok value := by
        rw [boolean, present]
        simp only [word]
      rw [read]
      refine ⟨fun _ => rfl, fun unmet => absurd (accepted.mpr ?_) unmet⟩
      by_contra other
      rw [(truth?_eq_none_iff raw).mpr other] at word
      cases word

theorem decides_checks (environment : Environment) :
    List.Forall₂ (Decides environment) (checks environment) requirements := by
  refine .cons ?_ (.cons ?_ (.cons ?_ (.cons ?_ (.cons ?_ .nil))))
  · exact decides_bounded environment (by decide) fun _ => rfl
  · exact decides_bounded environment (by decide) fun _ => rfl
  · exact decides_bounded environment (by decide) fun _ => rfl
  · exact decides_boolean environment scopingName true
  · exact decides_boolean environment verboseName false

section Checks

variable {made : List (Except OptionFault Unit)} {wanted : List Requirement}

theorem allPass_eq_ok_iff : allPass made = .ok () ↔ ∀ check ∈ made, check = .ok () := by
  induction made with
  | nil => simp [allPass]
  | cons check rest ih =>
    rw [List.forall_mem_cons, ← ih, allPass]
    cases check with
    | error fault => simp [bind, Except.bind]
    | ok passed => simp [bind, Except.bind]

theorem forall_met_iff (decided : List.Forall₂ (Decides environment) made wanted) :
    (∀ check ∈ made, check = .ok ()) ↔ ∀ requirement ∈ wanted, requirement.Met environment := by
  induction decided with
  | nil => simp
  | cons decides _ ih =>
    rw [List.forall_mem_cons, List.forall_mem_cons, ih]
    refine and_congr_left fun _ => ⟨fun passed => ?_, decides.passes⟩
    by_contra unmet
    obtain ⟨fault, failed, _⟩ := decides.fails unmet
    rw [passed] at failed
    cases failed

/-- Checks that do not all pass end with the fault of the first requirement that is not met. -/
theorem exists_unmet_of_allPass (decided : List.Forall₂ (Decides environment) made wanted)
    (failed : allPass made ≠ .ok ()) :
    ∃ before requirement later fault, wanted = before ++ requirement :: later ∧
      (∀ earlier ∈ before, earlier.Met environment) ∧ ¬ requirement.Met environment ∧
      allPass made = .error fault ∧ fault.name = requirement.name := by
  induction decided with
  | nil => exact absurd rfl failed
  | @cons check requirement made wanted decides _ ih =>
    by_cases met : requirement.Met environment
    · have passed : allPass (check :: made) = allPass made := by
        rw [allPass, decides.passes met]
        rfl
      rw [passed] at failed ⊢
      obtain ⟨before, first, later, fault, rfl, earlier, unmet, found, named⟩ := ih failed
      exact ⟨requirement :: before, first, later, fault, rfl, List.forall_mem_cons.mpr ⟨met, earlier⟩, unmet,
        found, named⟩
    · obtain ⟨fault, found, named⟩ := decides.fails met
      refine ⟨[], requirement, wanted, fault, rfl, by simp, met, ?_, named⟩
      rw [allPass, found]
      rfl

end Checks

theorem validate_eq_ok_iff :
    validate environment = .ok () ↔ ∀ requirement ∈ requirements, requirement.Met environment := by
  rw [validate_eq_allPass, allPass_eq_ok_iff, forall_met_iff (decides_checks environment)]

def FirstUnmet (environment : Environment) (requirement : Requirement) : Prop :=
  ∃ before later, requirements = before ++ requirement :: later ∧
    (∀ earlier ∈ before, earlier.Met environment) ∧ ¬ requirement.Met environment

theorem validate_eq_error_of_ne_ok (invalid : validate environment ≠ .ok ()) :
    ∃ requirement fault text, FirstUnmet environment requirement ∧ validate environment = .error fault ∧
      fault.message = requirement.name ++ " must " ++ text := by
  rw [validate_eq_allPass] at invalid ⊢
  obtain ⟨before, requirement, later, fault, split, met, unmet, failed, named⟩ :=
    exists_unmet_of_allPass (decides_checks environment) invalid
  obtain ⟨text, message⟩ := fault.exists_message_eq
  exact ⟨requirement, fault, text, ⟨before, later, split, met, unmet⟩, failed, named ▸ message⟩

/-- Options that pass can all be read, and the cache can hold at least one answer. -/
theorem exists_options_of_validate (valid : validate environment = .ok ()) :
    (∃ size, cacheSize environment = .ok size ∧ 1 ≤ size) ∧ (∃ limit, inlineUsages environment = .ok limit) ∧
      (∃ quiet, debounce environment = .ok quiet) ∧ (∃ narrow, scoping environment = .ok narrow) ∧
      ∃ shown, verbose environment = .ok shown := by
  rw [validate_eq_allPass, allPass_eq_ok_iff] at valid
  simp only [checks, List.forall_mem_cons, bounded_eq_ok_iff] at valid
  obtain ⟨size, ⟨limit, listed, _⟩, ⟨quiet, waited, _⟩, narrow, shown, _⟩ := valid
  exact ⟨size, ⟨limit, listed⟩, ⟨quiet, waited⟩, discard_eq_ok_iff.mp narrow, discard_eq_ok_iff.mp shown⟩

theorem analyzerFor_of_validate (valid : validate environment = .ok ()) (working : Path) :
    ∃ analyzer, CommandLine.analyzerFor environment working = .ok analyzer ∧
      cacheSize environment = .ok (analyzer.cache.capacity : Int) ∧
      scoping environment = .ok analyzer.scoping := by
  obtain ⟨⟨size, sized, positive⟩, _, _, ⟨narrow, read⟩, _⟩ := exists_options_of_validate valid
  refine ⟨Analyzer.create working (Cache.empty size.toNat) narrow, ?_, ?_, read⟩
  · rw [CommandLine.analyzerFor, sized, read]
    change ((Cache.create size).mapError CommandLine.Fault.cache >>= fun cache =>
      .ok (Analyzer.create working cache narrow)) = _
    rw [Cache.create_of_positive positive]
    rfl
  · rw [sized]
    congr 1
    change size = (size.toNat : Int)
    omega

section Loading

variable {files : FileSystem} {root : Path} {bindings : List Dotenv.Binding}

theorem fst_settle (environment : Environment) (bindings : List Dotenv.Binding) :
    (settle environment bindings).1 = (Dotenv.apply environment (Dotenv.values environment bindings)).1 := by
  unfold settle
  split
  · next applied => rw [applied]
  · next applied => rw [applied]

theorem snd_settle_of_ok
    (applied : (Dotenv.apply environment (Dotenv.values environment bindings)).2 = .ok ()) :
    (settle environment bindings).2 = (validate (settle environment bindings).1).mapError .option := by
  unfold settle
  split
  · next failed =>
    rw [failed] at applied
    cases applied
  · rfl

theorem snd_settle_of_error {fault : Dotenv.Fault}
    (applied : (Dotenv.apply environment (Dotenv.values environment bindings)).2 = .error fault) :
    (settle environment bindings).2 = .error (.unsettable fault) := by
  unfold settle
  split
  · next failed =>
    rw [failed] at applied
    cases applied
    rfl
  · next passed =>
    rw [passed] at applied
    cases applied

theorem get?_settle {name value : String} (present : environment.get? name = some value) :
    (settle environment bindings).1.get? name = some value := by
  obtain ⟨settled, extended, _⟩ :=
    Dotenv.applied_apply environment (Dotenv.nodup_values environment bindings)
  rw [fst_settle]
  exact extended.get?_of_some present

theorem mapError_option_eq_ok_iff {outcome : Except OptionFault Unit} :
    outcome.mapError LoadFault.option = .ok () ↔ outcome = .ok () := by
  cases outcome with
  | error fault => simp [Except.mapError]
  | ok passed => simp [Except.mapError]

theorem validate_of_settle (done : (settle environment bindings).2 = .ok ()) :
    validate (settle environment bindings).1 = .ok () := by
  cases applied : (Dotenv.apply environment (Dotenv.values environment bindings)).2 with
  | error fault =>
    rw [snd_settle_of_error applied] at done
    cases done
  | ok passed =>
    rwa [snd_settle_of_ok applied, mapError_option_eq_ok_iff] at done

theorem get?_load {name value : String} (present : environment.get? name = some value) :
    (load environment files root).1.get? name = some value := by
  unfold load
  split
  · exact present
  · exact get?_settle present

def loadAll (environment : Environment) (directories : List (FileSystem × Path)) : Environment :=
  directories.foldl (fun environment (files, root) => (load environment files root).1) environment

theorem get?_loadAll {name value : String} (present : environment.get? name = some value)
    (directories : List (FileSystem × Path)) :
    (loadAll environment directories).get? name = some value := by
  induction directories generalizing environment with
  | nil => exact present
  | cons first rest ih => exact ih (get?_load present)

/-- What loading a file of variables does. Where every variable can be set, the environment is extended by
the last bindings of the names that are not set, and loading succeeds if the options' requirements are met
then; otherwise it names the first that is not. Where one cannot be set, loading stops at it. -/
theorem load_extends (environment : Environment) (read : bindingsIn files root = .ok bindings) :
    let found := Dotenv.resolved environment bindings
    let names := Dotenv.boundNames bindings
    let after := (load environment files root).1
    let outcome := (load environment files root).2
    (Dotenv.Settable environment found names →
      after.Extends environment found ∧
      (outcome = .ok () ↔ ∀ requirement ∈ requirements, requirement.Met after) ∧
      (outcome ≠ .ok () → ∃ requirement fault text, FirstUnmet after requirement ∧
        outcome = .error (.option fault) ∧ fault.message = requirement.name ++ " must " ++ text)) ∧
    (¬ Dotenv.Settable environment found names →
      ∃ before name value fault later, names = before ++ name :: later ∧
        Dotenv.Settable environment found before ∧ found.lookup name = some (some value) ∧
        Dotenv.Refused environment name value fault ∧
        (∀ other, after.get? other = (environment.get? other).or
          (if other ∈ before then (found.lookup other).join else none)) ∧
        outcome = .error (.unsettable fault)) ∧
    (∀ directories name value, after.get? name = some value →
      (loadAll after directories).get? name = some value) ∧
    (outcome = .ok () →
      (∃ limit, inlineUsages after = .ok limit) ∧ (∃ quiet, debounce after = .ok quiet) ∧
      (∃ shown, verbose after = .ok shown) ∧
      ∀ (host : FileSystem) (directory : String), host.isDirectory (host.resolve directory) = true →
        Workspace.at? host directory = .ok ⟨host, host.resolve directory⟩ ∧
        ∃ analyzer, CommandLine.analyzerFor after host.working = .ok analyzer ∧
          cacheSize after = .ok (analyzer.cache.capacity : Int) ∧ scoping after = .ok analyzer.scoping) := by
  have loaded : load environment files root = settle environment bindings := by
    unfold load
    rw [read]
  intro found names after outcome
  simp only [after, outcome, loaded]
  refine ⟨fun settable => ?_, fun unsettable => ?_, fun directories name value present => ?_, fun done => ?_⟩
  · obtain ⟨extended, applied⟩ := Dotenv.apply_values_of_settable settable
    rw [← fst_settle] at extended
    rw [snd_settle_of_ok applied]
    refine ⟨extended, by rw [mapError_option_eq_ok_iff, validate_eq_ok_iff], fun failed => ?_⟩
    rw [Ne, mapError_option_eq_ok_iff] at failed
    obtain ⟨requirement, fault, text, first, found, message⟩ := validate_eq_error_of_ne_ok failed
    exact ⟨requirement, fault, text, first, by rw [found]; rfl, message⟩
  · obtain ⟨before, name, value, fault, later, split, settable, given, refusal, extended, failed⟩ :=
      Dotenv.apply_values_of_refused unsettable
    rw [← fst_settle] at extended
    exact ⟨before, name, value, fault, later, split, settable, given, refusal, extended,
      snd_settle_of_error failed⟩
  · exact get?_loadAll present directories
  · have valid := validate_of_settle done
    obtain ⟨_, limit, quiet, _, shown⟩ := exists_options_of_validate valid
    refine ⟨limit, quiet, shown, fun host directory present => ⟨?_, analyzerFor_of_validate valid host.working⟩⟩
    rw [Workspace.at?, if_pos present]

theorem load_extends_cache_size :
    let text := "NEST_SCOPE_CACHE_SIZE=2"
    let files := (FileSystem.empty ⟨1, ["w"]⟩).insert ⟨1, ["w", ".env"]⟩
      (.file (Text.Utf8.encode text.toList))
    let bindings : List Dotenv.Binding := [⟨some cacheSizeName, some "2"⟩, ⟨none, none⟩]
    let after := (load {} files ⟨1, ["w"]⟩).1
    bindingsIn files ⟨1, ["w"]⟩ = .ok bindings ∧ (load {} files ⟨1, ["w"]⟩).2 = .ok () ∧
      Dotenv.Settable {} (Dotenv.resolved {} bindings) (Dotenv.boundNames bindings) ∧
      after.Extends {} (Dotenv.resolved {} bindings) ∧
      ∃ analyzer, CommandLine.analyzerFor after files.working = .ok analyzer ∧
        cacheSize after = .ok (analyzer.cache.capacity : Int) ∧ scoping after = .ok analyzer.scoping := by
  intro text files bindings after
  have read : bindingsIn files ⟨1, ["w"]⟩ = .ok bindings := by cbv
  have done : (load {} files ⟨1, ["w"]⟩).2 = .ok () := by
    have settled : (settle {} bindings).2 = .ok () := by decide
    rw [load, read]
    exact settled
  have found : Dotenv.resolved {} bindings = [(cacheSizeName, some "2")] := by cbv
  have settable : Dotenv.Settable {} (Dotenv.resolved {} bindings) (Dotenv.boundNames bindings) := by
    intro name member _ value given
    obtain rfl : name = cacheSizeName := by simpa [Dotenv.boundNames, bindings, List.eraseDups_cons] using member
    rw [found, lookup_cons_pair, if_pos rfl] at given
    cases given
    unfold Dotenv.CanSet
    decide
  obtain ⟨extended, _, _, works⟩ := load_extends {} read
  exact ⟨read, done, settable, (extended settable).1, ((works done).2.2.2 files "/w" (by cbv)).2⟩

theorem load_stops_at_illegal_name :
    let files := (FileSystem.empty ⟨1, ["w"]⟩).insert ⟨1, ["w", ".env"]⟩
      (.file (Text.Utf8.encode "'a=b'=1".toList))
    bindingsIn files ⟨1, ["w"]⟩ = .ok [⟨some "a=b", some "1"⟩, ⟨none, none⟩] ∧
      load {} files ⟨1, ["w"]⟩ = ({}, .error (.unsettable .illegalName)) ∧
      ¬ (load {} files ⟨1, ["w"]⟩).1.Extends {} (Dotenv.resolved {} [⟨some "a=b", some "1"⟩, ⟨none, none⟩]) ∧
      ∀ requirement : Requirement, requirement.Met {} := by
  intro files
  have stopped : load {} files ⟨1, ["w"]⟩ = ({}, .error (.unsettable .illegalName)) := by cbv
  refine ⟨by cbv, stopped, ?_, ?_⟩
  · intro extended
    have value := extended "a=b"
    have found : Dotenv.resolved {} [⟨some "a=b", some "1"⟩, ⟨none, none⟩] = [("a=b", some "1")] := by cbv
    rw [stopped, found, lookup_cons_pair, if_pos rfl] at value
    cases value
  · intro requirement raw present
    cases present

end Loading

end Options

end ModuleScope
