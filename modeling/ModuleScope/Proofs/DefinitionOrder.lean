import Mathlib
import ModuleScope.Proofs.BatchedSearch
import ModuleScope.Proofs.DefinitionSearch
import ModuleScope.Proofs.ErasedFiles

/-!
Where a definition is found first. The document itself comes before all files; then the least file that
can be read and holds a definition decides, and in it the first node. A file that cannot be read is
passed over as if it were not there.
-/
namespace ModuleScope

open TypeScript

theorem findSome?_eq_some_iff_least {α : Type} {files : List String}
    (ordered : files.Pairwise (· < ·)) {find : String → Option α} {found : α} :
    files.findSome? find = some found ↔ ∃ file ∈ files, find file = some found ∧
      ∀ earlier ∈ files, earlier < file → find earlier = none := by
  rw [List.findSome?_eq_some_iff]
  constructor
  · rintro ⟨before, file, after, rfl, here, skipped⟩
    rw [List.pairwise_append, List.pairwise_cons] at ordered
    refine ⟨file, by simp, here, fun earlier member less => skipped earlier ?_⟩
    rcases List.mem_append.mp member with inside | later
    · exact inside
    · rcases List.mem_cons.mp later with rfl | beyond
      · exact absurd less (lt_irrefl _)
      · exact absurd less (ordered.2.1.1 earlier beyond).asymm
  · rintro ⟨file, member, here, skipped⟩
    obtain ⟨before, after, rfl⟩ := List.append_of_mem member
    rw [List.pairwise_append] at ordered
    refine ⟨before, file, after, rfl, here, fun earlier inside => skipped earlier (by simp [inside]) ?_⟩
    exact ordered.2.2 earlier inside file (by simp)

def Document.declarations (document : Document) (name : String) (container : Option String) :
    List Definition :=
  document.code?.elim [] fun code => code.declarations name container

theorem Document.firstDeclaration?_eq_head? (document : Document) (name : String)
    (container : Option String) :
    document.firstDeclaration? name container = (document.declarations name container).head? := by
  unfold Document.firstDeclaration? Document.declarations
  cases document.code? with
  | none => rfl
  | some code =>
    rw [Option.bind_some, Option.elim_some, Code.declarations, List.head?_filterMap]
    rfl

namespace Host

/-- A file other than a document can be read, and this is the first definition that it holds. -/
def Offers (host : Host) (document : Document) (name : String) (container : Option String)
    (file : String) (definition : Definition) : Prop :=
  file ≠ document.path ∧ ∃ other, host.openDocument file = .ok other ∧
    (other.declarations name container).head? = some definition

def offer? (host : Host) (document : Document) (name : String) (container : Option String)
    (file : String) : Option Definition :=
  if file = document.path then none
  else (host.openDocument file).toOption.bind fun other => (other.declarations name container).head?

variable {host : Host} {document : Document} {name : String} {container : Option String}

theorem offer?_eq_some_iff {file : String} {definition : Definition} :
    host.offer? document name container file = some definition ↔
      host.Offers document name container file definition := by
  unfold offer? Offers
  split
  · next same => simp [same]
  · next different => cases host.openDocument file <;> simp [different, Except.toOption]

theorem offer?_eq_none_iff {file : String} :
    host.offer? document name container file = none ↔
      ∀ definition, ¬ host.Offers document name container file definition := by
  simp only [← offer?_eq_some_iff, Option.eq_none_iff_forall_ne_some, ne_eq]

theorem definitionSites_findSome? (files : List String) :
    (host.definitionSites files document).findSome? (fun each =>
        each.1.matching? name container each.2) =
      (document.declarations name container).head?.or
        (files.findSome? (host.offer? document name container)) := by
  rw [definitionSites, List.findSome?_append, ← document.firstDeclaration?_eq, findSome?_flatMap,
    document.firstDeclaration?_eq_head?]
  congr 1
  simp only [← Document.firstDeclaration?_eq, Document.firstDeclaration?_eq_head?]
  induction files with
  | nil => rfl
  | cons file rest ih =>
    rw [List.findSome?_cons, offer?]
    by_cases own : file = document.path
    · rw [List.filter_cons_of_neg (by simpa using own), ih, if_pos own]
    · rw [List.filter_cons_of_pos (by simpa using own), if_neg own]
      cases opened : host.openDocument file with
      | error failure =>
        rw [readable_of_error opened, ih]
        rfl
      | ok other =>
        rw [readable_of_ok opened, List.findSome?_cons, ih]
        simp only [Except.toOption, Option.bind_some]

end Host

namespace Workspace

variable {workspace : Workspace} {refusal : String → Option Failure}

def unopened (workspace : Workspace) (refusal : String → Option Failure) : List String :=
  (workspace.findFiles sourcePatterns none).filter fun file =>
    ((workspace.host.refusing refusal).openDocument file).toOption.isNone

theorem findSome?_offer_erasing (document : Document) (name : String) (container : Option String) :
    let without := workspace.erasing (workspace.unopened refusal)
    (without.findFiles sourcePatterns none).findSome?
        ((without.host.refusing refusal).offer? document name container) =
      (workspace.findFiles sourcePatterns none).findSome?
        ((workspace.host.refusing refusal).offer? document name container) := by
  intro without
  have listing := workspace.findFiles_erasing sourcePatterns fun file =>
    ((workspace.host.refusing refusal).openDocument file).toOption.isNone
  change without.findFiles sourcePatterns none = _ at listing
  rw [← List.head?_filterMap, ← List.head?_filterMap, listing, List.filterMap_filter]
  congr 1
  apply List.filterMap_congr
  intro file listed
  cases opened : (workspace.host.refusing refusal).openDocument file with
  | error failure => simp [Host.offer?, opened, Except.toOption]
  | ok other =>
    obtain ⟨allowed, before⟩ := Host.openDocument_refusing.mp opened
    have still : file ∈ without.findFiles sourcePatterns none := by
      rw [listing, List.mem_filter]
      exact ⟨listed, by simp [opened, Except.toOption]⟩
    have after : (without.host.refusing refusal).openDocument file = .ok other :=
      Host.openDocument_refusing.mpr ⟨allowed, openDocument_erasing still before⟩
    simp only [Host.offer?, opened, after, Except.toOption, Option.isNone_some, Bool.not_false, if_true]

end Workspace

/-- From a cursor that is not on the name of a declaration, the first definition in the document itself
is found; if it holds none, the first one in the least source file, other than the document, that can be
read and holds one; and none exactly if there is no such file. Without the source files that cannot be
read the answer is the same. -/
theorem findDefinition_in_order (workspace : Workspace) (refusal : String → Option Failure)
    (document : Document) (position : Position) (word : CursorWord)
    (touched : document.wordAt? (document.code?.map Code.tree) position = some word)
    (reference : (document.code?.bind fun code => code.declarationAtWord? word) = none) :
    let host := workspace.host.refusing refusal
    let files := workspace.findFiles sourcePatterns none
    let container := document.code?.bind fun code => code.receiverTypeOf? word
    let offers := host.Offers document word.name container
    let without := (workspace.erasing (workspace.unopened refusal)).host.refusing refusal
    ∃ answer, (findDefinition document position).result host = .ok answer ∧
      (∀ first rest, document.declarations word.name container = first :: rest →
        answer = some first) ∧
      (document.declarations word.name container = [] →
        (∀ definition, answer = some definition ↔ ∃ file ∈ files, offers file definition ∧
          ∀ earlier ∈ files, earlier < file → ∀ other, ¬ offers earlier other) ∧
        (answer = none ↔ ∀ file ∈ files, ∀ definition, ¬ offers file definition)) ∧
      (findDefinition document position).result without = .ok answer := by
  intro host files container offers without
  have sorted : files.Pairwise (· ≤ ·) ∧ files.Nodup := FileSystem.filesBelow_sorted _ _
  have ordered := strictly_sorted sorted.1 sorted.2
  refine ⟨_, findDefinition_in_sites rfl touched reference, ?_, ?_, ?_⟩
  · intro first rest own
    rw [Host.definitionSites_findSome?, own]
    rfl
  · intro none
    rw [Host.definitionSites_findSome?, none, List.head?_nil, Option.none_or]
    constructor
    · intro definition
      rw [findSome?_eq_some_iff_least ordered]
      simp only [Host.offer?_eq_some_iff, Host.offer?_eq_none_iff]
      rfl
    · rw [List.findSome?_eq_none_iff]
      simp only [Host.offer?_eq_none_iff]
      rfl
  · rw [findDefinition_in_sites rfl touched reference, Host.definitionSites_findSome?,
      Host.definitionSites_findSome?, Workspace.findSome?_offer_erasing]

namespace Workspace

def sameClass : Workspace where
  root := ⟨1, ["w"]⟩
  files :=
    let top := FileSystem.empty ⟨1, ["w"]⟩
    ((top.insert ⟨1, ["w", "a.ts"]⟩ (.file [0xFF])).insert
      ⟨1, ["w", "b.ts"]⟩ (.file (Text.Utf8.encode text.toList))).insert
      ⟨1, ["w", "c.ts"]⟩ (.file (Text.Utf8.encode text.toList))
where
  text : String := "class m\x7b\x7d"

end Workspace

/-- Of three files the first is no text and the second is refused; the class is found in the third, as
it is when the other two are erased. -/
theorem findDefinition_in_order_sameClass :
    let refusal (file : String) : Option Failure :=
      if file = "/w/b.ts" then some (.crashed "lost") else none
    let workspace := Workspace.sameClass
    let document := Document.ofText "/w/q.ts" "m"
    let found : Definition := ⟨"m", "/w/c.ts", ⟨⟨0, 0⟩, ⟨0, 9⟩⟩, .classType, none⟩
    workspace.unopened refusal = ["/w/a.ts", "/w/b.ts"] ∧
      (findDefinition document ⟨0, 1⟩).result (workspace.host.refusing refusal) = .ok (some found) ∧
      (findDefinition document ⟨0, 1⟩).result
        ((workspace.erasing ["/w/a.ts", "/w/b.ts"]).host.refusing refusal) = .ok (some found) := by
  intro refusal workspace document found
  have files : workspace.findFiles sourcePatterns none = ["/w/a.ts", "/w/b.ts", "/w/c.ts"] := by cbv
  have unopened : workspace.unopened refusal = ["/w/a.ts", "/w/b.ts"] := by
    rw [Workspace.unopened, files]
    decide
  let code : Code := ⟨document, parse .typescript "m".toList⟩
  have parsed : document.code? = some code := Document.code?_ofText (by decide) "m"
  have computed : (code.wordAt? ⟨0, 1⟩).any (fun word => word.name == "m" &&
      (code.declarationAtWord? word).isNone && (code.receiverTypeOf? word).isNone) = true := by
    decide
  simp only [Option.any_eq_true, Bool.and_eq_true, beq_iff_eq, Option.isNone_iff_eq_none] at computed
  obtain ⟨word, touched, ⟨named, reference⟩, plain⟩ := computed
  have touching : document.wordAt? (document.code?.map Code.tree) ⟨0, 1⟩ = some word := by
    rw [parsed]
    exact touched
  have unnamed : (document.code?.bind fun code => code.declarationAtWord? word) = none := by
    rw [parsed]
    exact reference
  obtain ⟨answer, result, _, elsewhere, without⟩ := findDefinition_in_order workspace refusal
    document ⟨0, 1⟩ word touching unnamed
  rw [unopened] at without
  rw [files, parsed, Option.bind_some, plain, named] at elsewhere
  let third := Document.ofText "/w/c.ts" Workspace.sameClass.text
  have read : third.code? = some ⟨third, parse .typescript Workspace.sameClass.text.toList⟩ :=
    Document.code?_ofText (by decide) Workspace.sameClass.text
  have own : document.declarations "m" none = [] := by
    rw [Document.declarations, parsed, Option.elim_some, Code.declarations, Code.walk_eq]
    decide +kernel
  have first : (third.declarations "m" none).head? = some found := by
    rw [Document.declarations, read, Option.elim_some, Code.declarations, Code.walk_eq]
    decide +kernel
  obtain rfl : answer = some found := by
    refine ((elsewhere own).1 found).mpr ⟨"/w/c.ts", by decide, ⟨by decide, third, rfl, first⟩, ?_⟩
    rintro earlier member less definition ⟨_, other, opened, _⟩
    have lost : earlier ∈ workspace.unopened refusal := by
      rw [unopened]
      simp only [List.mem_cons, List.not_mem_nil, or_false] at member ⊢
      rcases member with rfl | rfl | rfl
      · exact Or.inl rfl
      · exact Or.inr rfl
      · exact absurd less (lt_irrefl _)
    have refused := (List.mem_filter.mp lost).2
    rw [opened] at refused
    cases refused
  exact ⟨unopened, result, without⟩

end ModuleScope
