import Mathlib
import ModuleScope.Proofs.SourceOrder

/-!
What an identifier is to the searches for its text. It introduces a name, or the search without a
container reports it, or the search for exactly one container does, or it is the property of an access
to a receiver whose type is not known; and a search reports nothing but such identifiers.
-/
namespace ModuleScope

open TypeScript Text Utf8

def Document.Reports (document : Document) (symbol : String) (container moduleName : Option String)
    (range : Range) : Prop :=
  ∃ usage ∈ document.usages symbol container moduleName, usage.range = range

inductive OccurrenceClass where
  | declaration
  | reference
  | member (container : String)
  | untyped
deriving DecidableEq, Repr

/-- The class that a search looks for. An empty container counts as none. -/
def OccurrenceClass.searched (container : Option String) : OccurrenceClass :=
  match container.filter (· != "") with
  | none => reference
  | some wanted => member wanted

namespace Code

/-- An identifier falls in a class: by what it is, or by the searches that report it. -/
def FallsIn (code : Code) (symbol : String) (moduleName : Option String) (site : Site) :
    OccurrenceClass → Prop
  | .declaration => isDeclaration site = true
  | .reference => code.document.Reports symbol none moduleName (code.rangeOf site.node)
  | .member container => container ≠ "" ∧
      code.document.Reports symbol (some container) moduleName (code.rangeOf site.node)
  | .untyped => ∃ receiver, memberReceiver? site = some receiver ∧
      code.receiverType? code.annotations receiver = none

theorem isDeclaration_of_access {site receiver : Site} (access : memberReceiver? site = some receiver) :
    isDeclaration site = false := by
  obtain ⟨parent, _, property, parental, member, _⟩ := memberReceiver?_eq_some access
  rw [isDeclaration, property, above_of_parent? parental]
  rw [Site.kind] at member
  simp [member, Kind.namesDeclaration, Kind.isTypeDeclaration, Kind.isClass, Kind.isFunction, Kind.isMethod,
    Kind.isField, Kind.isParameter]

def occurrenceClass (code : Code) (annotations : List (String × String)) (site : Site) :
    OccurrenceClass :=
  if isDeclaration site then .declaration
  else match memberReceiver? site with
    | none => .reference
    | some receiver =>
      match code.receiverType? annotations receiver with
      | some container => .member container
      | none => .untyped

namespace Spells

variable {code : Code} {symbol : String} {site : Site} (spells : code.Spells symbol site)
  (parsed : code.document.code? = some code) (sound : code.tree.Sound)
include spells sound

theorem mentions_iff {container : Option String} :
    code.Mentions symbol container site ↔
      isDeclaration site = false ∧ code.refersTo code.annotations container site = true := by
  constructor
  · intro mentions
    exact ⟨mentions.reference, mentions.refers⟩
  · rintro ⟨reference, refers⟩
    exact ⟨spells.mem_walk sound, spells.identifier, spells.bytes, reference, refers⟩

include parsed

theorem reports_iff (container moduleName : Option String) :
    code.document.Reports symbol container moduleName (code.rangeOf site.node) ↔
      code.Mentions symbol (container.filter (· != "")) site := by
  constructor
  · rintro ⟨usage, reported, range⟩
    obtain ⟨code', other, parsed', mentions, rfl⟩ := Document.mem_usages_iff.mp reported
    obtain rfl := Option.some.inj (parsed.symm.trans parsed')
    have same : (code.rangeOf site.node).start = (code.rangeOf other.node).start :=
      congrArg Range.start range.symm
    rw [spells.eq_of_start mentions.spells parsed sound same]
    exact mentions
  · intro mentions
    exact ⟨_, Document.mem_usages_iff.mpr ⟨code, site, parsed, mentions, rfl⟩, rfl⟩

theorem fallsIn_searched_iff (container moduleName : Option String) :
    code.FallsIn symbol moduleName site (.searched container) ↔
      code.Mentions symbol (container.filter (· != "")) site := by
  unfold OccurrenceClass.searched
  cases wanted : container.filter (· != "") with
  | none => exact spells.reports_iff parsed sound none moduleName
  | some name =>
    have present : name ≠ "" := by simpa using (Option.filter_eq_some_iff.mp wanted).2
    have reports := spells.reports_iff parsed sound (some name) moduleName
    rw [Option.filter_some, if_pos (by simpa using present)] at reports
    simp only [FallsIn, ne_eq, present, not_false_eq_true, true_and, reports]

theorem fallsIn_reference_iff (moduleName : Option String) :
    code.FallsIn symbol moduleName site .reference ↔
      isDeclaration site = false ∧ memberReceiver? site = none := by
  have searched := spells.fallsIn_searched_iff parsed sound none moduleName
  rw [Option.filter_none, spells.mentions_iff sound, refersTo_none] at searched
  exact searched

/-- The one container for which an access is reported is the declared type of its receiver. -/
theorem fallsIn_member_iff (moduleName : Option String) (container : String) :
    code.FallsIn symbol moduleName site (.member container) ↔ ∃ receiver,
      memberReceiver? site = some receiver ∧
        code.receiverType? code.annotations receiver = some container := by
  have reports := spells.reports_iff parsed sound (some container) moduleName
  constructor
  · rintro ⟨present, reported⟩
    have mentions := reports.mp reported
    rw [Option.filter_some, if_pos (by simpa using present)] at mentions
    exact refersTo_some.mp mentions.refers
  · rintro ⟨receiver, access, resolved⟩
    have present := receiverType?_ne_empty parsed sound (spells.mem_walk sound) access resolved
    refine ⟨present, reports.mpr ?_⟩
    rw [Option.filter_some, if_pos (by simpa using present), spells.mentions_iff sound]
    exact ⟨isDeclaration_of_access access, refersTo_some.mpr ⟨receiver, access, resolved⟩⟩

/-- The class told from the tree is the one class that an identifier falls in. -/
theorem fallsIn_iff (moduleName : Option String) (each : OccurrenceClass) :
    code.FallsIn symbol moduleName site each ↔ code.occurrenceClass code.annotations site = each := by
  have declaration : code.FallsIn symbol moduleName site .declaration ↔ isDeclaration site = true :=
    Iff.rfl
  have reference := spells.fallsIn_reference_iff parsed sound moduleName
  have member := spells.fallsIn_member_iff parsed sound moduleName
  have untyped : code.FallsIn symbol moduleName site .untyped ↔ ∃ receiver,
      memberReceiver? site = some receiver ∧ code.receiverType? code.annotations receiver = none :=
    Iff.rfl
  unfold occurrenceClass
  cases access : memberReceiver? site with
  | none =>
    cases declared : isDeclaration site <;> cases each <;>
      simp [declaration, reference, member, untyped, access, declared]
  | some receiver =>
    -- The property of an access is never a declaration.
    have declared := isDeclaration_of_access access
    cases resolved : code.receiverType? code.annotations receiver <;> cases each <;>
      simp [declaration, reference, member, untyped, access, declared, resolved]

end Spells

end Code

/-- Every identifier of a sound tree falls in exactly one class of occurrences of its text; it is in the
class of the accesses to a container exactly if that is the declared type of its receiver. The search for
a symbol reports identifiers of the class that it looks for and nothing else, in increasing positions, and
looks at the tree as if the document's bytes were not looked at before. -/
theorem Code.occurrences_partitioned (code : Code) (parsed : code.document.code? = some code)
    (sound : code.tree.Sound) (symbol : String) (moduleName : Option String) :
    (∀ site, code.Spells symbol site → ∃! each, code.FallsIn symbol moduleName site each) ∧
      (∀ site, code.Spells symbol site → ∀ container,
        code.FallsIn symbol moduleName site (.member container) ↔ ∃ receiver,
          memberReceiver? site = some receiver ∧
            code.receiverType? code.annotations receiver = some container) ∧
      ∀ container,
        (∀ usage ∈ code.document.usages symbol container moduleName, ∃ site,
          code.Spells symbol site ∧ code.FallsIn symbol moduleName site (.searched container) ∧
            usage = code.usage moduleName site.node) ∧
        (code.document.usages symbol container moduleName).Pairwise
          (fun first second => first.range.start < second.range.start) ∧
        code.document.usages symbol container moduleName =
          code.occurrences symbol (container.filter (· != "")) moduleName := by
  refine ⟨?_, ?_, ?_⟩
  · intro site spells
    have own := (spells.fallsIn_iff parsed sound moduleName _).mpr rfl
    refine ⟨code.occurrenceClass code.annotations site, own, ?_⟩
    intro each falls
    exact ((spells.fallsIn_iff parsed sound moduleName each).mp falls).symm
  · intro site spells container
    exact spells.fallsIn_member_iff parsed sound moduleName container
  · intro container
    have read : ∀ other, code.document.code? = some other → other.tree.Sound := by
      intro other again
      obtain rfl := Option.some.inj (parsed.symm.trans again)
      exact sound
    refine ⟨?_, Document.usages_ordered read symbol container moduleName,
      Document.usages_eq_occurrences parsed symbol container moduleName⟩
    intro usage reported
    obtain ⟨code', site, parsed', mentions, rfl⟩ := Document.mem_usages_iff.mp reported
    obtain rfl := Option.some.inj (parsed.symm.trans parsed')
    have falls := (mentions.spells.fallsIn_searched_iff parsed sound container moduleName).mpr mentions
    exact ⟨site, mentions.spells, falls, rfl⟩

def Code.namedInBody : Code :=
  ⟨.ofText "/w/a.ts" text, parse .typescript text.toList⟩
where
  text : String := "class A\x7bm()\x7bthis.m;m;x.m\x7d\x7d"

theorem Code.namedInBody_parsed : namedInBody.document.code? = some namedInBody :=
  Document.code?_ofText (by decide) namedInBody.text

/-- The name of the method and its occurrences in the body are one of each class. -/
theorem Code.occurrences_partitioned_namedInBody :
    let code := Code.namedInBody
    let spelled := (code.tree.sites []).filter fun site =>
      site.kind.isIdentifier && code.bytesOf site.node == encode "m".toList
    code.document.code? = some code ∧ code.tree.Sound ∧
      spelled.map (code.occurrenceClass code.annotations) =
        [.declaration, .member "A", .reference, .untyped] ∧
      ∀ site ∈ spelled, ∃! each, code.FallsIn "m" none site each := by
  intro code spelled
  have parsed : code.document.code? = some code := Code.namedInBody_parsed
  obtain ⟨sound, classes⟩ : code.tree.Sound ∧
      spelled.map (code.occurrenceClass ((code.tree.sites []).filterMap code.annotated?)) =
        [.declaration, .member "A", .reference, .untyped] := by
    decide +kernel
  refine ⟨parsed, sound, ?_, ?_⟩
  · rw [code.annotations_eq]
    exact classes
  · intro site member
    obtain ⟨inside, properties⟩ := List.mem_filter.mp member
    simp only [Bool.and_eq_true, beq_iff_eq] at properties
    rw [← code.walk_eq] at inside
    have spells : code.Spells "m" site := ⟨code.leads_of_mem_walk inside, properties.1, properties.2⟩
    exact (Code.occurrences_partitioned code parsed sound "m" none).1 site spells

end ModuleScope
