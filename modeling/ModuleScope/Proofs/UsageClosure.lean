import Mathlib
import ModuleScope.Proofs.Occurrences

/-!
A search finds what it is made from. An identifier that refers to something is among the usages that
are found from it, with scoping or without, since a file lies in the scope of its own module; and from
every usage that is found, the search without scoping finds the same usages again.
-/
namespace ModuleScope

open TypeScript Text Utf8

theorem Workspace.ModuleFileAt.liesIn_of_isWithin {workspace : Workspace} {source : String}
    {inner : List String} {last : String} (place : workspace.ModuleFileAt source inner last)
    {file : String}
    (listed : file ∈ workspace.findFiles sourcePatterns none)
    (within : isWithin (directoryOf file) (directoryOf source) = true) :
    liesIn file (directoryOf source) = true := by
  rw [Workspace.findFiles_root] at listed
  obtain ⟨rooted, relative, bytes, entry, _, _, rfl⟩ := FileSystem.mem_filesBelow.mp listed
  have names := workspace.files.named _ entry
  have inside := FileSystem.relative_ne_nil rooted entry
  obtain ⟨front, name, rfl⟩ := (List.eq_nil_or_concat' relative).resolve_left inside
  rw [← List.append_assoc] at names within ⊢
  have frontNames : ∀ part ∈ workspace.root.parts ++ front, Path.isName part = true :=
    fun part member => names part (List.mem_append_left _ member)
  rw [place.directoryOf_eq] at within ⊢
  rw [Path.directoryOf_toString frontNames (names name (by simp))] at within
  rw [liesIn_toString names place.directory_names]
  exact (Path.isPrefix_of_isWithin frontNames place.directory_names within).trans
    (List.prefix_append _ _)

namespace ModuleGraph

variable {graph : ModuleGraph} {workspace : Workspace}

theorem reaches_home (built : graph.Built workspace.host)
    {file : String} (listed : file ∈ workspace.findFiles sourcePatterns none) {home : Module}
    (found : graph.moduleForFile? file = some home) : graph.reaches home file = true := by
  have declared := mem_of_moduleForFile? built.distinct found
  obtain ⟨files, source, listing, member, document, opened, declares⟩ := built.origin home declared
  obtain rfl := Except.ok.inj listing
  have named : home.directory = directoryOf source :=
    congrArg directoryOf ((Document.module?_file declares).trans (FileSystem.openDocument_ok opened).1)
  obtain ⟨inner, last, place⟩ := Workspace.moduleFileAt_of_mem member
  have around (near : home ∈ graph.byDepth.filter fun each =>
      isWithin (directoryOf file) each.directory) : liesIn file home.directory = true := by
    have within := (List.mem_filter.mp near).2
    rw [named] at within ⊢
    exact place.liesIn_of_isWithin listed within
  have lies : liesIn file home.directory = true := by
    rw [moduleForFile?, Option.or_eq_some_iff, Option.or_eq_some_iff] at found
    rcases found with (own | ⟨_, owner⟩) | ⟨_, nearest⟩
    · have same : home.file = file := by simpa using List.find?_some own
      have source : file = source := same.symm.trans
        ((Document.module?_file declares).trans (FileSystem.openDocument_ok opened).1)
      rw [named, source]
      exact place.listed.2
    · exact around (List.mem_of_find?_eq_some owner)
    · exact around (List.mem_of_mem_head? nearest)
  rw [reaches, List.any_eq_true]
  exact ⟨home, (mem_modules_iff built.distinct).mpr declared, by simp [lies]⟩

end ModuleGraph

namespace Workspace

def usagesOf (workspace : Workspace) (graph : ModuleGraph) (symbol : String)
    (container : Option String) : List Usage :=
  ((workspace.findFiles sourcePatterns none).flatMap
    (workspace.host.usagesIn symbol container (some graph))).mergeSort Usage.comesFirst

variable {workspace : Workspace} {graph : ModuleGraph} {symbol : String} {container : Option String}

theorem mem_usagesIn_iff {file : String} {usage : Usage} :
    usage ∈ workspace.host.usagesIn symbol container (some graph) file ↔
      ∃ (code : Code) (site : Site), workspace.host.openDocument file = .ok code.document ∧
        code.document.code? = some code ∧ code.Mentions symbol (container.filter (· != "")) site ∧
        usage = code.usage ((graph.moduleForFile? file).map Module.name) site.node := by
  unfold Host.usagesIn Opened.usages
  dsimp only
  cases opened : workspace.host.openDocument file with
  | error failure => simp
  | ok document =>
    simp only [Option.bind_some, Document.mem_usages_iff]
    constructor
    · rintro ⟨code, site, parsed, mentions, rfl⟩
      obtain ⟨rfl, _⟩ := Document.code?_eq parsed
      exact ⟨code, site, rfl, parsed, mentions, rfl⟩
    · rintro ⟨code, site, same, parsed, mentions, rfl⟩
      obtain rfl := Except.ok.inj same
      exact ⟨code, site, parsed, mentions, rfl⟩

theorem mem_usagesOf_iff {usage : Usage} :
    usage ∈ workspace.usagesOf graph symbol container ↔
      ∃ file ∈ workspace.findFiles sourcePatterns none, ∃ (code : Code) (site : Site),
        workspace.host.openDocument file = .ok code.document ∧
        code.document.code? = some code ∧ code.Mentions symbol (container.filter (· != "")) site ∧
        usage = code.usage ((graph.moduleForFile? file).map Module.name) site.node := by
  rw [usagesOf, List.mem_mergeSort, List.mem_flatMap]
  simp only [mem_usagesIn_iff]

theorem search_unscoped (workspace : Workspace) (graph : ModuleGraph) (document : Document)
    (symbol : String) (container : Option String) :
    ((scopeOf (some graph) false document).result workspace.host).bind (fun scope =>
        (searchUsages symbol scope container (some graph)).result workspace.host) =
      .ok (workspace.usagesOf graph symbol container) :=
  workspace.searchUsages_result symbol none container (some graph)

/-- With scoping, the usages in files that the document's module reaches are kept. -/
theorem search_scoped (built : graph.Built workspace.host)
    (document : Document) :
    ((scopeOf (some graph) true document).result workspace.host).bind (fun scope =>
        (searchUsages symbol scope container (some graph)).result workspace.host) =
      .ok (match graph.moduleForFile? document.path with
        | none => workspace.usagesOf graph symbol container
        | some home => (workspace.usagesOf graph symbol container).filter fun usage =>
          graph.reaches home usage.file) := by
  cases found : graph.moduleForFile? document.path with
  | none =>
    have unrestricted : scopeOf (some graph) true document = pure none := by
      simp only [scopeOf, Option.filter_some, if_true, found]
    rw [unrestricted]
    exact workspace.searchUsages_result symbol none container (some graph)
  | some home =>
    have declared := ModuleGraph.mem_of_moduleForFile? built.distinct found
    obtain ⟨files, result, same⟩ := ModuleGraph.scopeFiles_result built declared
    have restricted : (scopeOf (some graph) true document).result workspace.host =
        .ok (some files) := by
      simp only [scopeOf, Option.filter_some, if_true, found, Work.result_bind, result, Except.bind,
        Work.result_pure]
    rw [restricted]
    refine (workspace.searchUsages_result symbol (some files) container (some graph)).trans ?_
    simp only [same, searched_filter, usagesOf]

theorem findUsages_from_usage (sound : workspace.host.Gives (·.tree.Sound))
    (apart : workspace.host.Gives Code.WordsApart) (word : isWord symbol.toList = true) {usage : Usage}
    (present : container.filter (· != "") = container)
    (reported : usage ∈ workspace.usagesOf graph symbol container) :
    ∃ document, workspace.host.openDocument usage.file = .ok document ∧
      (findUsages document usage.range.start (some graph) false none).result workspace.host =
        .ok (workspace.usagesOf graph symbol container) := by
  obtain ⟨file, _, code, site, opened, parsed, mentions, rfl⟩ := mem_usagesOf_iff.mp reported
  rw [present] at mentions
  have named : code.document.path = file := (FileSystem.openDocument_ok opened).1
  refine ⟨code.document, ?_, ?_⟩
  · rw [Code.usage, named]
    exact opened
  · have read := sound file code.document code opened parsed
    have alone := mentions.apart (apart file code.document code opened parsed) word
    have found := mentions.findUsages_result parsed read word alone
      (mentions.touches_start parsed read word alone) workspace.host (some graph) false
    exact found.trans (workspace.search_unscoped graph code.document symbol container)

end Workspace

theorem Code.exists_mentions {code : Code} {site : Site} (member : site ∈ code.walk)
    (identifier : site.kind.isIdentifier = true) (word : isWord (code.textOf site.node).toList = true)
    (reference : Code.isDeclaration site = false)
    (resolves : ∀ receiver, Code.memberReceiver? site = some receiver →
      ∃ type, code.receiverType? code.annotations receiver = some type) :
    ∃ container, code.Mentions (code.textOf site.node) container site := by
  have mentions {container : Option String} :=
    @Code.mentions_of_refers code site member identifier word reference container
  cases access : Code.memberReceiver? site with
  | none => exact ⟨none, mentions (Code.refersTo_none.mpr access)⟩
  | some receiver =>
    obtain ⟨type, resolved⟩ := resolves receiver access
    exact ⟨some type, mentions (Code.refersTo_some.mpr ⟨receiver, access, resolved⟩)⟩

/-- From an identifier that is no declaration and, if it is a member, has a receiver whose type is
declared, the search for usages finds that very identifier, with scoping or without; and from every
usage found, the search without scoping finds the same usages. Trees are taken to be sound, and no
identifier in them to touch another character of a word. -/
theorem findUsages_from_occurrence (workspace : Workspace)
    (sound : workspace.host.Gives (·.tree.Sound)) (apart : workspace.host.Gives Code.WordsApart)
    (graph : ModuleGraph) (built : buildGraph.result workspace.host = .ok graph) (file : String)
    (listed : file ∈ workspace.findFiles sourcePatterns none) (document : Document)
    (opened : workspace.host.openDocument file = .ok document) (code : Code)
    (parsed : document.code? = some code) (site : Site) (member : site ∈ code.walk)
    (identifier : site.kind.isIdentifier = true) (reference : Code.isDeclaration site = false)
    (word : isWord (code.textOf site.node).toList = true)
    (resolves : ∀ receiver, Code.memberReceiver? site = some receiver →
      ∃ type, code.receiverType? code.annotations receiver = some type)
    (position : Position) (touches : (code.rangeOf site.node).touches position) :
    let occurrence := code.usage ((graph.moduleForFile? file).map Module.name) site.node
    ∃ usages near,
      (findUsages document position (some graph) false none).result workspace.host = .ok usages ∧
      (findUsages document position (some graph) true none).result workspace.host = .ok near ∧
      occurrence ∈ usages ∧ occurrence ∈ near ∧
      ∀ usage ∈ usages, ∃ other, workspace.host.openDocument usage.file = .ok other ∧
        (findUsages other usage.range.start (some graph) false none).result workspace.host =
          .ok usages := by
  intro occurrence
  obtain ⟨rfl, _⟩ := Document.code?_eq parsed
  have graphBuilt := ModuleGraph.built_of_buildGraph built
  have named : code.document.path = file := (FileSystem.openDocument_ok opened).1
  obtain ⟨container, mentions⟩ := code.exists_mentions member identifier word reference resolves
  have read := sound file code.document code opened parsed
  have alone := mentions.apart (apart file code.document code opened parsed) word
  have present := mentions.container_ne_empty parsed read
  have search := mentions.findUsages_result parsed read word alone touches workspace.host (some graph)
  have found : occurrence ∈ workspace.usagesOf graph (code.textOf site.node) container := by
    refine Workspace.mem_usagesOf_iff.mpr ⟨file, listed, code, site, opened, parsed, ?_, rfl⟩
    rwa [present]
  refine ⟨_, _, (search false).trans (workspace.search_unscoped graph code.document _ container),
    (search true).trans (Workspace.search_scoped graphBuilt code.document), found, ?_,
    fun usage reported => Workspace.findUsages_from_usage sound apart word present reported⟩
  rw [named]
  cases home : graph.moduleForFile? file with
  | none => exact found
  | some module =>
    have reached := ModuleGraph.reaches_home graphBuilt listed home
    refine List.mem_filter.mpr ⟨found, ?_⟩
    rw [← named] at reached
    exact reached

namespace Workspace

def selfUse : Workspace where
  root := ⟨1, ["w"]⟩
  files := (FileSystem.empty ⟨1, ["w"]⟩).insert ⟨1, ["w", "a.module.ts"]⟩ (.file (encode text.toList))
where
  text : String := "@Module(\x7b\x7d)class A\x7bm()\x7bthis.m\x7d\x7d"

def selfUseDocument : Document := .ofText "/w/a.module.ts" selfUse.text

def selfUseCode : Code := ⟨selfUseDocument, parse .typescript selfUse.text.toList⟩

theorem selfUse_computed :
    (∀ text ∈ selfUse.files.texts, ∀ dialect ∈ [Dialect.typescript, .tsx],
      (parse dialect text).Sound ∧
        Code.WordsApart ⟨.ofText "" (String.ofList text), parse dialect text⟩) ∧
    (selfUseCode.tree.sites []).findSome? selfUseCode.moduleOf? =
      some ⟨"A", "/w/a.module.ts", [], [], [], []⟩ ∧
    ((selfUseCode.tree.sites []).any fun site => site.kind.isIdentifier &&
      !Code.isDeclaration site && isWord (selfUseCode.textOf site.node).toList &&
      site.span == ⟨28, 29⟩ && (Code.memberReceiver? site).any fun receiver =>
        selfUseCode.receiverType? ((selfUseCode.tree.sites []).filterMap selfUseCode.annotated?)
          receiver == some "A") = true := by
  decide +kernel

theorem selfUse_parsed : selfUseDocument.code? = some selfUseCode :=
  Document.code?_ofText (by decide) selfUse.text

theorem selfUse_buildGraph :
    buildGraph.result selfUse.host = .ok ⟨[⟨"A", "/w/a.module.ts", [], [], [], []⟩]⟩ := by
  have listed : selfUse.findFiles modulePatterns none = ["/w/a.module.ts"] := by cbv
  have declares : Declares selfUse.host "/w/a.module.ts" ⟨"A", "/w/a.module.ts", [], [], [], []⟩ := by
    refine ⟨selfUseDocument, rfl, ?_⟩
    rw [Document.module?_eq, selfUse_parsed, Option.bind_some]
    exact selfUse_computed.2.1
  refine buildGraph_of_listed (congrArg Except.ok listed) ?_
  rw [readModules_cons _ (readModule_of_declares declares _)]
  rfl

end Workspace

/-- The use of the method in its own body is found from the end of its name. -/
theorem findUsages_from_occurrence_selfUse :
    let graph : ModuleGraph := ⟨[⟨"A", "/w/a.module.ts", [], [], [], []⟩]⟩
    let code := Workspace.selfUseCode
    let host := Workspace.selfUse.host
    ∃ site ∈ code.walk, site.span = ⟨28, 29⟩ ∧ (Code.memberReceiver? site).isSome = true ∧
      (code.rangeOf site.node).touches ⟨0, 29⟩ ∧
      ∃ usages near,
        (findUsages code.document ⟨0, 29⟩ (some graph) false none).result host = .ok usages ∧
        (findUsages code.document ⟨0, 29⟩ (some graph) true none).result host = .ok near ∧
        code.usage (some "A") site.node ∈ usages ∧ code.usage (some "A") site.node ∈ near ∧
        ∀ usage ∈ usages, ∃ other, host.openDocument usage.file = .ok other ∧
          (findUsages other usage.range.start (some graph) false none).result host = .ok usages := by
  intro graph code host
  obtain ⟨texts, _, present⟩ := Workspace.selfUse_computed
  obtain ⟨site, inside, properties⟩ := List.any_eq_true.mp present
  simp only [Bool.and_eq_true, Bool.not_eq_true', beq_iff_eq, Option.any_eq_true] at properties
  obtain ⟨⟨⟨⟨identifier, reference⟩, word⟩, spans⟩, receiver, access, resolved⟩ := properties
  rw [← Code.annotations_eq] at resolved
  have member : site ∈ code.walk := by
    rwa [code.walk_eq]
  have listed : "/w/a.module.ts" ∈ Workspace.selfUse.findFiles sourcePatterns none := by
    have files : Workspace.selfUse.findFiles sourcePatterns none = ["/w/a.module.ts"] := by cbv
    simp [files]
  have range : code.rangeOf site.node = ⟨⟨0, 28⟩, ⟨0, 29⟩⟩ := by
    change code.document.rangeOf site.span.start site.span.stop = _
    rw [spans]
    decide
  have touches : (code.rangeOf site.node).touches ⟨0, 29⟩ := by
    rw [range]
    exact ⟨by decide, by decide⟩
  have home : graph.moduleForFile? "/w/a.module.ts" = some ⟨"A", "/w/a.module.ts", [], [], [], []⟩ := by
    decide
  have resolves (other : Site) (same : Code.memberReceiver? site = some other) :
      ∃ type, code.receiverType? code.annotations other = some type := by
    obtain rfl := Option.some.inj (access.symm.trans same)
    exact ⟨"A", resolved⟩
  obtain ⟨sound, words⟩ := Workspace.sound_and_wordsApart_of_texts texts
  have found := findUsages_from_occurrence Workspace.selfUse sound words graph
    Workspace.selfUse_buildGraph "/w/a.module.ts" listed Workspace.selfUseDocument rfl code
    Workspace.selfUse_parsed site member identifier reference word resolves ⟨0, 29⟩ touches
  rw [home] at found
  exact ⟨site, member, spans, by simp [access], touches, found⟩

end ModuleScope
