import Mathlib
import ModuleScope.Proofs.DefinitionSearch
import ModuleScope.Proofs.MemberQueries
import ModuleScope.Proofs.SourceOrder

/-!
Usages of plain identifiers, which are neither declarations nor properties of an access. The search for
them goes by the first definition of their name. If that is a member of a class, only accesses to the
member are looked for, and the identifier itself is not found; else it is, with scoping or without.
-/
namespace ModuleScope

open TypeScript Text Utf8

namespace Code

variable {code : Code} {site : Site}

theorem namesDeclaration_of_declarationOf? {declaration : Site} {name : String} {found : Definition}
    (given : code.declarationOf? declaration name = some found) :
    declaration.kind.namesDeclaration = true := by
  rw [← Bool.not_eq_false, Kind.namesDeclaration]
  intro none
  simp only [Bool.or_eq_false_iff] at none
  obtain ⟨⟨⟨⟨type, function⟩, method⟩, field⟩, declarator⟩ := none
  simp [declarationOf?, type, function, method, field, declarator] at given

theorem declarationAt?_of_reference (reference : isDeclaration site = false) (name : String) :
    code.declarationAt? site name = none := by
  rw [Option.eq_none_iff_forall_ne_some]
  intro found declared
  simp only [declarationAt?, bind, Option.bind_eq_some_iff, Option.guard_eq_some'] at declared
  obtain ⟨parent, parental, _, held, given⟩ := declared
  have names : parent.node.kind.namesDeclaration = true := namesDeclaration_of_declarationOf? given
  simp [isDeclaration, above_of_parent? parental, names, held] at reference

theorem container_ne_empty_of_matching? (parsed : code.document.code? = some code)
    (sound : code.tree.Sound) (member : site ∈ code.walk) {name : String} {wanted : Option String}
    {definition : Definition}
    (matched : code.matching? name wanted site = some definition) : definition.container ≠ some "" := by
  intro empty
  rcases matching?_cases matched with ⟨_, _, _, owned⟩ | free
  · have fits := fits_of_leads parsed sound (code.leads_of_mem_walk member)
    refine ownerName?_ne_empty (fun each above => fits each ?_) (owned.symm.trans empty) rfl
    exact List.mem_cons_of_mem _ above
  · obtain ⟨kind, given⟩ := matching?_of_free free wanted
    obtain rfl := Option.some.inj (given.symm.trans matched)
    cases empty

end Code

theorem Document.of_mem_sites {document : Document} {each : Code × Site}
    (member : each ∈ document.sites) : document.code? = some each.1 ∧ each.2 ∈ each.1.walk := by
  rw [Document.sites] at member
  cases parsed : document.code? with
  | none =>
    rw [parsed] at member
    cases member
  | some code =>
    rw [parsed, Option.elim_some] at member
    obtain ⟨site, inside, rfl⟩ := List.mem_map.mp member
    exact ⟨rfl, inside⟩

theorem Host.container_ne_empty_of_definitionSites {host : Host} (sound : host.Gives (·.tree.Sound))
    {path : String} {document : Document} (opened : host.openDocument path = .ok document)
    {files : List String} {name : String} {wanted : Option String} {definition : Definition}
    (found : (host.definitionSites files document).findSome? (fun each =>
      each.1.matching? name wanted each.2) = some definition) : definition.container ≠ some "" := by
  obtain ⟨each, member, matched⟩ := List.exists_of_findSome?_eq_some found
  obtain ⟨file, other, reopened, inside⟩ : ∃ file other,
      host.openDocument file = .ok other ∧ each ∈ other.sites := by
    rcases List.mem_append.mp member with here | there
    · exact ⟨path, document, opened, here⟩
    · obtain ⟨other, readable, inside⟩ := List.mem_flatMap.mp there
      obtain ⟨file, _, given⟩ := exists_of_mem_readable readable
      exact ⟨file, other, given, inside⟩
  obtain ⟨parsed, walked⟩ := Document.of_mem_sites inside
  have read := sound file other each.1 reopened parsed
  obtain ⟨rfl, _⟩ := other.code?_eq parsed
  exact Code.container_ne_empty_of_matching? parsed read walked matched

namespace Workspace

variable {workspace : Workspace} {graph : ModuleGraph} {symbol : String} {container : Option String}

/-- With scoping or without, a search from a source file finds what there is to be found in it. -/
theorem search_own (built : graph.Built workspace.host) {document : Document}
    (listed : document.path ∈ workspace.findFiles sourcePatterns none)
    (symbol : String) (container : Option String) (scoping : Bool) :
    ∃ usages, ((scopeOf (some graph) scoping document).result workspace.host).bind (fun scope =>
        (searchUsages symbol scope container (some graph)).result workspace.host) = .ok usages ∧
      ∀ usage, usage.file = document.path →
        (usage ∈ usages ↔ usage ∈ workspace.usagesOf graph symbol container) := by
  cases scoping with
  | false => exact ⟨_, workspace.search_unscoped graph document symbol container, fun _ _ => Iff.rfl⟩
  | true =>
    refine ⟨_, search_scoped built document, fun usage own => ?_⟩
    cases found : graph.moduleForFile? document.path with
    | none => exact Iff.rfl
    | some home =>
      -- A file lies in the scope of its own module.
      have reached := ModuleGraph.reaches_home built listed found
      simp [List.mem_filter, own, reached]

/-- A plain identifier is among the usages of its text exactly if these are the usages of no member. -/
theorem exists_own_usage_iff {path : String} (listed : path ∈ workspace.findFiles sourcePatterns none)
    {code : Code} (opened : workspace.host.openDocument path = .ok code.document)
    (parsed : code.document.code? = some code) (sound : code.tree.Sound) {site : Site}
    (mentions : code.Mentions symbol none site) (present : container ≠ some "") :
    (∃ usage ∈ workspace.usagesOf graph symbol container,
      usage.file = path ∧ usage.range = code.rangeOf site.node) ↔ container = none := by
  have named : code.document.path = path := (FileSystem.openDocument_ok opened).1
  cases container with
  | none =>
    let own := code.usage ((graph.moduleForFile? path).map Module.name) site.node
    have reported : own ∈ workspace.usagesOf graph symbol none :=
      mem_usagesOf_iff.mpr ⟨path, listed, code, site, opened, parsed, mentions, rfl⟩
    exact iff_of_true ⟨own, reported, named, rfl⟩ rfl
  | some container =>
    refine iff_of_false ?_ (by simp)
    intro reported
    have nonempty : container ≠ "" := fun empty => present (congrArg some empty)
    obtain ⟨_, again, other, reopened, reparsed, accesses, range⟩ :=
      (exists_usage_iff nonempty).mp reported
    have same := Except.ok.inj (opened.symm.trans reopened)
    rw [← same] at reparsed
    obtain rfl := Option.some.inj (parsed.symm.trans reparsed)
    -- At one place stands one identifier, which is an access or is none.
    obtain rfl := mentions.spells.eq_of_start accesses.spells parsed sound (congrArg Range.start range)
    obtain ⟨receiver, access, _⟩ := Code.refersTo_some.mp accesses.refers
    rw [Code.refersTo_none.mp mentions.refers] at access
    cases access

end Workspace

namespace Code.Mentions

variable {code : Code} {symbol : String} {site : Site} (mentions : code.Mentions symbol none site)
  (parsed : code.document.code? = some code) (sound : code.tree.Sound)
  (word : isWord symbol.toList = true) (apart : code.document.Apart site.span)
  {position : Position} (touches : (code.rangeOf site.node).touches position)
include mentions parsed sound word apart touches

theorem findDefinition_result {host : Host} {files : List String}
    (listing : host.findFiles sourcePatterns none = .ok files) :
    (findDefinition code.document position).result host =
      .ok ((host.definitionSites files code.document).findSome? fun each =>
        each.1.matching? symbol none each.2) := by
  have touched := mentions.wordAt?_eq parsed sound word apart touches
  have elsewhere : code.declarationAtWord? ⟨symbol, site.span, some site⟩ = none :=
    declarationAt?_of_reference mentions.reference symbol
  have untyped : code.receiverTypeOf? ⟨symbol, site.span, some site⟩ = none := by
    simp [receiverTypeOf?, CursorWord.receiver?, refersTo_none.mp mentions.refers]
  have found := ModuleScope.findDefinition_result listing parsed touched elsewhere
  rwa [untyped] at found

theorem usages_outcome {host : Host} {path : String}
    (opened : host.openDocument path = .ok code.document) {definition : Option Definition}
    (found : (findDefinition code.document position).result host = .ok definition)
    {graph : ModuleGraph} (built : buildGraph.result host = .ok graph) {scoping : Bool}
    {usages : List Usage}
    (searched : ((scopeOf (some graph) scoping code.document).result host).bind (fun scope =>
      (searchUsages symbol scope (definition.bind Definition.container) (some graph)).result host) =
        .ok usages) :
    (Query.mk .usages path position).outcome host scoping = .ok (.usages usages) := by
  have touched : code.document.wordAt? (code.document.code?.map tree) position =
      some ⟨symbol, site.span, some site⟩ := by
    rw [parsed]
    exact mentions.wordAt?_eq parsed sound word apart touches
  have plain : CursorWord.isPropertyAccess ⟨symbol, site.span, some site⟩ = false := by
    simp [CursorWord.isPropertyAccess, CursorWord.receiver?, refersTo_none.mp mentions.refers]
  have located := Query.locate_of_plain opened touched plain found
  have wanted : containerFor? code.document.code? ⟨symbol, site.span, some site⟩
      (definition.bind Definition.container) = some (definition.bind Definition.container) := by
    cases definition.bind Definition.container with
    | none => simp [containerFor?, plain]
    | some container => rfl
  have answered : ((Located.symbol code.document (definition.bind Definition.container)).answer
      position (some graph) scoping).result host = .ok (.usages usages) := by
    rw [Located.answer, Work.result_bind, findUsages_of_container touched wanted, searched]
    rfl
  rw [Query.outcome, built]
  simp only [bind, Except.bind, located, answered]

end Code.Mentions

theorem Query.definition_outcome {host : Host} {path : String} {document : Document}
    (opened : host.openDocument path = .ok document) {position : Position}
    {definition : Option Definition}
    (found : (findDefinition document position).result host = .ok definition)
    {graph : ModuleGraph} (built : buildGraph.result host = .ok graph) (scoping : Bool) :
    (Query.mk .definition path position).outcome host scoping = .ok (.definition definition) := by
  have located : (Query.mk .definition path position).locate.result host =
      .ok (.definition definition) := by
    rw [locate, Work.result_bind, Work.result_document, opened]
    simp only [Except.bind, Work.result_bind, found, Work.result_pure]
  rw [Query.outcome, built]
  simp only [bind, Except.bind, located, Located.answer, Work.result_pure]

/-- The definition of a plain identifier and its usages, among which it is itself if the definition has
no container. -/
theorem Workspace.outcome_plain {workspace : Workspace} (sound : workspace.host.Gives (·.tree.Sound))
    (scoping : Bool) {path : String} (listed : path ∈ workspace.findFiles sourcePatterns none)
    {code : Code} (opened : workspace.host.openDocument path = .ok code.document)
    (parsed : code.document.code? = some code) {symbol : String} {site : Site}
    (mentions : code.Mentions symbol none site) (word : isWord symbol.toList = true)
    (apart : code.document.Apart site.span) {position : Position}
    (touches : (code.rangeOf site.node).touches position) :
    let definition := (workspace.host.definitionSites (workspace.findFiles sourcePatterns none)
      code.document).findSome? fun each => each.1.matching? symbol none each.2
    (Query.mk .definition path position).outcome workspace.host scoping =
        .ok (.definition definition) ∧
      ∃ usages,
        (Query.mk .usages path position).outcome workspace.host scoping = .ok (.usages usages) ∧
        ((∃ usage ∈ usages, usage.file = path ∧ usage.range = code.rangeOf site.node) ↔
          definition.bind Definition.container = none) := by
  intro definition
  obtain ⟨graph, built⟩ := workspace.exists_buildGraph
  have named : code.document.path = path := (FileSystem.openDocument_ok opened).1
  have read := sound path code.document code opened parsed
  have found : (findDefinition code.document position).result workspace.host = .ok definition :=
    mentions.findDefinition_result parsed read word apart touches rfl
  have present : definition.bind Definition.container ≠ some "" := by
    intro empty
    obtain ⟨declared, first, contained⟩ := Option.bind_eq_some_iff.mp empty
    exact Host.container_ne_empty_of_definitionSites sound opened first contained
  obtain ⟨usages, searched, own⟩ := search_own (ModuleGraph.built_of_buildGraph built)
    (named.symm ▸ listed) symbol (definition.bind Definition.container) scoping
  refine ⟨Query.definition_outcome opened found built scoping, usages,
    mentions.usages_outcome parsed read word apart touches opened found built searched, ?_⟩
  have whole : (∃ usage ∈ workspace.usagesOf graph symbol (definition.bind Definition.container),
      usage.file = path ∧ usage.range = code.rangeOf site.node) ↔
      definition.bind Definition.container = none :=
    exists_own_usage_iff listed opened parsed read mentions present
  rw [← whole]
  constructor
  · rintro ⟨usage, reported, place, range⟩
    exact ⟨usage, (own usage (place.trans named.symm)).mp reported, place, range⟩
  · rintro ⟨usage, reported, place, range⟩
    exact ⟨usage, (own usage (place.trans named.symm)).mpr reported, place, range⟩

/-- From a plain identifier in a source file, with scoping or without, the usages that are found hold the
identifier itself exactly if its definition, as asked for from the same place, has no container. Trees are
taken to be sound, and the identifier to touch no other character of a word. -/
theorem Session.plain_usages_iff (workspace : Workspace)
    (sound : workspace.host.Gives (·.tree.Sound)) (working : Path) (capacity : Nat) (scoping : Bool)
    (file path : String)
    (resolved : (working.resolve (.ofString file)).toString = path)
    (listed : path ∈ workspace.findFiles sourcePatterns none) (code : Code)
    (opened : workspace.host.openDocument path = .ok code.document)
    (parsed : code.document.code? = some code) (site : Site) (member : site ∈ code.walk)
    (identifier : site.kind.isIdentifier = true) (reference : Code.isDeclaration site = false)
    (plain : Code.memberReceiver? site = none)
    (word : isWord (code.textOf site.node).toList = true) (apart : code.document.Apart site.span)
    (position : Position) (touches : (code.rangeOf site.node).touches position) :
    let asked (kind : QueryKind) (calls : List Call) : Except Failure Answer :=
      (((fresh working capacity scoping).after workspace.host calls).perform
        (ask workspace.host kind file position)).1
    ∃ usages definition,
      (∀ calls, asked .usages calls = .ok (.usages usages)) ∧
      (∀ calls, asked .definition calls = .ok (.definition definition)) ∧
      ((∃ usage ∈ usages, usage.file = path ∧ usage.range = code.rangeOf site.node) ↔
        definition.bind Definition.container = none) := by
  intro asked
  have mentions := Code.mentions_of_refers member identifier word reference
    (Code.refersTo_none.mpr plain)
  obtain ⟨defined, usages, found, own⟩ :=
    Workspace.outcome_plain sound scoping listed opened parsed mentions word apart touches
  have outcomes (kind : QueryKind) (calls : List Call) : asked kind calls =
      (Query.mk kind path position).outcome workspace.host scoping := by
    rw [← resolved]
    exact ask_after_calls workspace.host working capacity scoping calls kind file position
  refine ⟨usages, _, ?_, ?_, own⟩
  · intro calls
    rw [outcomes, found]
  · intro calls
    rw [outcomes, defined]

namespace Workspace

def oneFile (text : String) : Workspace where
  root := ⟨1, ["w"]⟩
  files := (FileSystem.empty ⟨1, ["w"]⟩).insert ⟨1, ["w", "a.ts"]⟩ (.file (encode text.toList))

theorem oneFile_listing (text : String) :
    (oneFile text).findFiles sourcePatterns none = ["/w/a.ts"] := by
  unfold oneFile
  generalize encode text.toList = bytes
  cbv

theorem oneFile_listed (text : String) : "/w/a.ts" ∈ (oneFile text).findFiles sourcePatterns none := by
  rw [oneFile_listing]
  exact List.mem_singleton_self _

theorem oneFile_definition (text symbol : String) :
    ((oneFile text).host.definitionSites ((oneFile text).findFiles sourcePatterns none)
      (Code.ofText text).document).findSome? (fun each => each.1.matching? symbol none each.2) =
      ((Code.ofText text).tree.sites []).findSome? ((Code.ofText text).matching? symbol none) := by
  have alone : ((oneFile text).findFiles sourcePatterns none).filter
      (· != (Code.ofText text).document.path) = [] := by
    rw [oneFile_listing]
    exact List.filter_cons_of_neg (by simp [Code.ofText, Document.ofText])
  rw [Code.definitionSites_alone (Code.ofText_parsed text) _ alone, List.findSome?_map]
  simp only [Function.comp_def]

end Workspace

theorem Code.exists_plain {code : Code} {name : String} {range : Range}
    (computed : ((code.tree.sites []).any fun site => site.kind.isIdentifier && !isDeclaration site &&
      (memberReceiver? site).isNone && code.textOf site.node == name &&
      code.rangeOf site.node == range) = true) :
    ∃ site ∈ code.walk, site.kind.isIdentifier = true ∧ isDeclaration site = false ∧
      memberReceiver? site = none ∧ code.textOf site.node = name ∧ code.rangeOf site.node = range := by
  obtain ⟨site, inside, properties⟩ := List.any_eq_true.mp computed
  simp only [Bool.and_eq_true, Bool.not_eq_true', Option.isNone_iff_eq_none, beq_iff_eq] at properties
  obtain ⟨⟨⟨⟨identifier, reference⟩, plain⟩, text⟩, place⟩ := properties
  rw [← code.walk_eq] at inside
  exact ⟨site, inside, identifier, reference, plain, text, place⟩

/-- The name of a class is found from where it stands after the class. -/
theorem Session.plain_usages_iff_className :
    let workspace := Workspace.oneFile "class A\x7b\x7dA"
    ∃ usages,
      (∀ calls, (((fresh ⟨1, ["w"]⟩ 8 true).after workspace.host calls).perform
        (ask workspace.host .usages "a.ts" ⟨0, 9⟩)).1 = .ok (.usages usages)) ∧
      ∃ usage ∈ usages, usage.file = "/w/a.ts" ∧ usage.range = ⟨⟨0, 9⟩, ⟨0, 10⟩⟩ := by
  intro workspace
  let code := Code.ofText "class A\x7b\x7dA"
  obtain ⟨site, member, identifier, reference, plain, text, place⟩ :
      ∃ site ∈ code.walk, site.kind.isIdentifier = true ∧ Code.isDeclaration site = false ∧
        Code.memberReceiver? site = none ∧ code.textOf site.node = "A" ∧
        code.rangeOf site.node = ⟨⟨0, 9⟩, ⟨0, 10⟩⟩ :=
    Code.exists_plain (by decide +kernel)
  have parsed : code.document.code? = some code := Code.ofText_parsed _
  have listed : "/w/a.ts" ∈ workspace.findFiles sourcePatterns none := Workspace.oneFile_listed _
  have word : isWord (code.textOf site.node).toList = true := by
    rw [text]
    decide
  obtain ⟨sound, words⟩ : workspace.host.Gives (·.tree.Sound) ∧ workspace.host.Gives Code.WordsApart :=
    Workspace.sound_and_wordsApart_of_texts (by decide +kernel)
  have apart := (words "/w/a.ts" code.document code rfl parsed).of_mem_walk member identifier word
  have touches : (code.rangeOf site.node).touches ⟨0, 9⟩ := by
    rw [place]
    exact ⟨by decide, by decide⟩
  obtain ⟨usages, definition, found, defined, own⟩ :=
    plain_usages_iff workspace sound ⟨1, ["w"]⟩ 8 true "a.ts" "/w/a.ts" (by decide) listed code rfl parsed
      site member identifier reference plain word apart ⟨0, 9⟩ touches
  refine ⟨usages, found, ?_⟩
  rw [place] at own
  apply own.mpr
  have mentions := Code.mentions_of_refers member identifier word reference
    (Code.refersTo_none.mpr plain)
  have answer := (Workspace.outcome_plain sound true listed rfl parsed mentions word apart touches).1
  rw [Workspace.oneFile_definition, text] at answer
  have asked := (ask_after_calls workspace.host ⟨1, ["w"]⟩ 8 true [] .definition "a.ts" ⟨0, 9⟩).symm.trans
    (defined [])
  have same : (Path.resolve ⟨1, ["w"]⟩ (.ofString "a.ts")).toString = "/w/a.ts" := by decide
  rw [same, answer] at asked
  obtain rfl := Answer.definition.inj (Except.ok.inj asked)
  decide +kernel

/-- The name of a method is not found from where it stands outside the class. -/
theorem Session.plain_usages_methodName :
    let workspace := Workspace.oneFile "class A\x7bm()\x7b\x7d\x7dm"
    let code := Code.ofText "class A\x7bm()\x7b\x7d\x7dm"
    workspace.host.Gives (·.tree.Sound) ∧ code.WordsApart ∧
      "/w/a.ts" ∈ workspace.findFiles sourcePatterns none ∧
      workspace.host.openDocument "/w/a.ts" = .ok code.document ∧
      ∃ site ∈ code.walk, site.kind.isIdentifier = true ∧ Code.isDeclaration site = false ∧
        Code.memberReceiver? site = none ∧ code.textOf site.node = "m" ∧
        code.rangeOf site.node = ⟨⟨0, 14⟩, ⟨0, 15⟩⟩ ∧
        ∀ scoping, ∃ usages,
          (∀ calls, (((fresh ⟨1, ["w"]⟩ 8 scoping).after workspace.host calls).perform
            (ask workspace.host .usages "a.ts" ⟨0, 14⟩)).1 = .ok (.usages usages)) ∧
          ¬ ∃ usage ∈ usages, usage.file = "/w/a.ts" ∧ usage.range = code.rangeOf site.node := by
  intro workspace code
  obtain ⟨site, member, identifier, reference, plain, text, place⟩ :
      ∃ site ∈ code.walk, site.kind.isIdentifier = true ∧ Code.isDeclaration site = false ∧
        Code.memberReceiver? site = none ∧ code.textOf site.node = "m" ∧
        code.rangeOf site.node = ⟨⟨0, 14⟩, ⟨0, 15⟩⟩ :=
    Code.exists_plain (by decide +kernel)
  have parsed : code.document.code? = some code := Code.ofText_parsed _
  have listed : "/w/a.ts" ∈ workspace.findFiles sourcePatterns none := Workspace.oneFile_listed _
  have word : isWord (code.textOf site.node).toList = true := by
    rw [text]
    decide
  obtain ⟨sound, words⟩ : workspace.host.Gives (·.tree.Sound) ∧ workspace.host.Gives Code.WordsApart :=
    Workspace.sound_and_wordsApart_of_texts (by decide +kernel)
  have apart := (words "/w/a.ts" code.document code rfl parsed).of_mem_walk member identifier word
  have touches : (code.rangeOf site.node).touches ⟨0, 14⟩ := by
    rw [place]
    exact ⟨by decide, by decide⟩
  refine ⟨sound, words "/w/a.ts" code.document code rfl parsed, listed, rfl, site, member, identifier,
    reference, plain, text, place, ?_⟩
  intro scoping
  have mentions := Code.mentions_of_refers member identifier word reference
    (Code.refersTo_none.mpr plain)
  obtain ⟨_, usages, found, own⟩ := Workspace.outcome_plain sound scoping listed rfl parsed
    mentions word apart touches
  refine ⟨usages, ?_, ?_⟩
  · intro calls
    exact (ask_after_calls workspace.host ⟨1, ["w"]⟩ 8 scoping calls .usages "a.ts" ⟨0, 14⟩).trans found
  · rw [own, Workspace.oneFile_definition, text]
    decide +kernel

end ModuleScope
