import Mathlib
import ModuleScope.Proofs.FileListing
import ModuleScope.Proofs.GraphBuilding

/-!
Scoping only filters. With the graph of a workspace, the files of a scope are those source files of the
workspace that lie in the directories of the modules concerned, so a search in the scope finds what
the search in the whole workspace finds there, in the same order.
-/
namespace ModuleScope

def Host.usagesIn (host : Host) (symbol : String) (container : Option String)
    (graph : Option ModuleGraph) (file : String) : List Usage :=
  (Opened.mk file (host.openDocument file)).usages symbol container graph

section Searching

variable (host : Host) (symbol : String) (container : Option String) (graph : Option ModuleGraph)

theorem reportUnreadable_result (immediate : Bool) (opened : List Opened) :
    (reportUnreadable immediate opened).result host = .ok () := by
  induction opened with
  | nil => rfl
  | cons first rest ih =>
    rcases first with ⟨file, outcome⟩
    cases outcome with
    | ok document => exact ih
    | error failure =>
      rw [reportUnreadable]
      dsimp only
      split <;> simpa [Except.bind] using ih

theorem openAll_result (files : List String) :
    (openAll files).result host = .ok (files.map fun file => ⟨file, host.openDocument file⟩) := by
  induction files with
  | nil => rfl
  | cons file rest ih =>
    rw [openAll, Work.result_bind, Work.result_attempt]
    simp only [Except.bind, Work.result_bind, reportUnreadable_result, ih, Work.result_pure,
      List.map_cons]

theorem searchBatch_result (batch : List String) :
    (searchBatch symbol container graph batch).result host =
      .ok (batch.flatMap (host.usagesIn symbol container graph)) := by
  rw [searchBatch, Work.result_bind, openAll_result]
  simp only [Except.bind, Work.result_bind, reportUnreadable_result, Work.result_pure,
    List.flatMap_map]
  rfl

theorem searchBatches_result (groups : List (List String)) :
    (searchBatches symbol container graph groups).result host =
      .ok (groups.flatten.flatMap (host.usagesIn symbol container graph)) := by
  induction groups with
  | nil => rfl
  | cons batch rest ih =>
    rw [searchBatches, Work.result_bind, searchBatch_result]
    simp only [Except.bind, Work.result_bind, ih, Work.result_pure, List.flatten_cons,
      List.flatMap_append]

theorem batches_flatten {α : Type} (size : Nat) (items : List α) :
    (batches size items).flatten = items := by
  fun_induction batches size items with
  | case1 => rfl
  | case2 first rest ih => rw [List.flatten_cons, ih, List.cons_append, List.take_append_drop]

theorem searchFiles_result (size : Nat) (files : List String) :
    (searchFiles size symbol container graph files).result host =
      .ok ((files.flatMap (host.usagesIn symbol container graph)).mergeSort Usage.comesFirst) := by
  rw [searchFiles, Work.result_bind, searchBatches_result, batches_flatten]
  rfl

end Searching

theorem comesFirst_iff {left right : Usage} :
    left.comesFirst right = true ↔
      left.file < right.file ∨ left.file = right.file ∧ left.line ≤ right.line := by
  simp [Usage.comesFirst]

theorem comesFirst_trans (first second third : Usage) (left : first.comesFirst second = true)
    (right : second.comesFirst third = true) : first.comesFirst third = true := by
  rw [comesFirst_iff] at left right ⊢
  rcases left with earlier | ⟨same, line⟩
  · rcases right with later | ⟨same', _⟩
    · exact Or.inl (earlier.trans later)
    · exact Or.inl (same' ▸ earlier)
  · rcases right with later | ⟨same', line'⟩
    · exact Or.inl (same ▸ later)
    · exact Or.inr ⟨same.trans same', line.trans line'⟩

theorem comesFirst_total (left right : Usage) :
    (left.comesFirst right || right.comesFirst left) = true := by
  rw [Bool.or_eq_true, comesFirst_iff, comesFirst_iff]
  rcases lt_trichotomy left.file right.file with earlier | same | later
  · exact Or.inl (Or.inl earlier)
  · rcases le_total left.line right.line with line | line
    · exact Or.inl (Or.inr ⟨same, line⟩)
    · exact Or.inr (Or.inr ⟨same.symm, line⟩)
  · exact Or.inr (Or.inl later)

theorem file_of_mem_usages {document : Document} {symbol : String}
    {container moduleName : Option String} {usage : Usage}
    (member : usage ∈ document.usages symbol container moduleName) : usage.file = document.path := by
  unfold Document.usages at member
  split at member
  · split at member
    · next code parsed =>
      obtain ⟨dialect, _, rfl⟩ := Option.map_eq_some_iff.mp parsed
      obtain ⟨site, _, rfl⟩ := List.mem_map.mp member
      rfl
    · cases member
  · cases member

def Host.NamesDocuments (host : Host) : Prop :=
  ∀ path document, host.openDocument path = .ok document → document.path = path

theorem Host.NamesDocuments.file_of_mem_usagesIn {host : Host} (named : host.NamesDocuments)
    {symbol : String} {container : Option String} {graph : Option ModuleGraph} {file : String}
    {usage : Usage} (member : usage ∈ host.usagesIn symbol container graph file) :
    usage.file = file := by
  unfold Host.usagesIn Opened.usages at member
  split at member
  · next document opened => exact (file_of_mem_usages member).trans (named file document opened)
  · cases member

namespace Workspace

variable {workspace : Workspace}

theorem host_namesDocuments (workspace : Workspace) : workspace.host.NamesDocuments := by
  intro path document opened
  exact (FileSystem.openDocument_ok opened).1

theorem searchUsages_result (workspace : Workspace) (symbol : String) (scope : Option (List String))
    (container : Option String) (graph : Option ModuleGraph) :
    (searchUsages symbol scope container graph).result workspace.host =
      .ok (((match scope with
          | some files => sorted files
          | none => workspace.findFiles sourcePatterns none).flatMap
        (workspace.host.usagesIn symbol container graph)).mergeSort Usage.comesFirst) := by
  rw [searchUsages, Work.result_bind]
  cases scope with
  | none => exact searchFiles_result workspace.host symbol container graph _ _
  | some files => exact searchFiles_result workspace.host symbol container graph _ _

/-- Searching fewer files finds fewer usages, in the same order. -/
theorem searched_filter (symbol : String) (container : Option String) (graph : Option ModuleGraph)
    (test : String → Bool) (files : List String) :
    ((files.filter test).flatMap (workspace.host.usagesIn symbol container graph)).mergeSort
        Usage.comesFirst =
      ((files.flatMap (workspace.host.usagesIn symbol container graph)).mergeSort
        Usage.comesFirst).filter fun usage => test usage.file := by
  rw [← mergeSort_filter comesFirst_trans comesFirst_total]
  congr 1
  induction files with
  | nil => rfl
  | cons file rest ih =>
    -- Usages name their file, so a file is searched for all of its usages or for none.
    have here : (workspace.host.usagesIn symbol container graph file).filter
        (fun usage => test usage.file) =
        if test file then workspace.host.usagesIn symbol container graph file else [] := by
      split
      · next kept =>
        exact List.filter_eq_self.mpr fun usage member => by
          rwa [workspace.host_namesDocuments.file_of_mem_usagesIn member]
      · next dropped =>
        exact List.filter_eq_nil_iff.mpr fun usage member => by
          rwa [workspace.host_namesDocuments.file_of_mem_usagesIn member]
    rw [List.flatMap_cons, List.filter_append, here, ← ih]
    by_cases kept : test file = true
    · rw [List.filter_cons_of_pos kept, if_pos kept, List.flatMap_cons]
    · rw [List.filter_cons_of_neg kept, if_neg kept, List.nil_append]

theorem filesOfModules_result (workspace : Workspace) (graph : ModuleGraph) (names : List String) :
    ∃ files, (filesOfModules graph names).result workspace.host = .ok files ∧
      ∀ file, file ∈ files ↔ ∃ name ∈ names, ∃ found, graph.module? name = some found ∧
        (file = found.file ∨
          file ∈ workspace.findFiles sourcePatterns (some found.directory)) := by
  induction names with
  | nil => exact ⟨[], rfl, by simp⟩
  | cons name rest ih =>
    obtain ⟨others, result, members⟩ := ih
    rw [filesOfModules]
    cases looked : graph.module? name with
    | none => exact ⟨others, result, by simp [looked, members]⟩
    | some found =>
      refine ⟨found.file :: workspace.findFiles sourcePatterns (some found.directory) ++ others, ?_, ?_⟩
      · have listing : workspace.host.findFiles sourcePatterns (some found.directory) =
            .ok (workspace.findFiles sourcePatterns (some found.directory)) := rfl
        simp only [Work.result_bind, Work.result_files, listing, Except.bind, result, Work.result_pure]
      · simp [looked, members, or_assoc]

end Workspace

namespace ModuleGraph

/-- Whether a file lies in the directory of a module or of one that imports it. -/
def reaches (graph : ModuleGraph) (home : Module) (file : String) : Bool :=
  graph.modules.any fun each =>
    (each.name == home.name || each.imports.contains home.name) && liesIn file each.directory

variable {graph : ModuleGraph} {workspace : Workspace}

theorem reaches_iff (built : graph.Built workspace.host) {home : Module}
    (declared : home ∈ graph.declared) {file : String} :
    graph.reaches home file = true ↔ ∃ name ∈ graph.accessibleModules home.name, ∃ found,
      graph.module? name = some found ∧ liesIn file found.directory = true := by
  simp only [reaches, List.any_eq_true, Bool.and_eq_true, Bool.or_eq_true, beq_iff_eq,
    List.contains_iff_mem, mem_modules_iff built.distinct, mem_accessibleModules_iff declared]
  constructor
  · rintro ⟨each, member, near, lies⟩
    exact ⟨each.name, near.imp_right fun imports => ⟨each, member, rfl, imports⟩, each,
      module?_of_mem built.distinct member, lies⟩
  · rintro ⟨name, near, found, looked, lies⟩
    obtain ⟨member, rfl⟩ := mem_of_module? looked
    refine ⟨found, member, near.imp_right ?_, lies⟩
    rintro ⟨each, other, same, imports⟩
    rwa [← List.inj_on_of_nodup_map built.distinct other member same]

/-- A module's file is a source file in its directory, and the source files of its directory are
those of the workspace that lie in it. -/
theorem files_of_module (built : graph.Built workspace.host)
    {found : Module} (declared : found ∈ graph.declared) (file : String) :
    (file = found.file ∨ file ∈ workspace.findFiles sourcePatterns (some found.directory)) ↔
      file ∈ workspace.findFiles sourcePatterns none ∧ liesIn file found.directory = true := by
  obtain ⟨files, source, listing, listed, document, opened, declares⟩ := built.origin found declared
  obtain rfl := Except.ok.inj listing
  have named : found.file = source :=
    (Document.module?_file declares).trans (FileSystem.openDocument_ok opened).1
  obtain ⟨inner, last, place⟩ := Workspace.moduleFileAt_of_mem listed
  rw [Module.directory, named, place.mem_findFiles_iff opened]
  constructor
  · rintro (rfl | inside)
    · exact place.listed
    · exact inside
  · exact Or.inr

theorem scopeFiles_result
    (built : graph.Built workspace.host) {home : Module} (declared : home ∈ graph.declared) :
    ∃ files, (scopeFiles graph home.name).result workspace.host = .ok files ∧
      sorted files = (workspace.findFiles sourcePatterns none).filter (graph.reaches home) := by
  obtain ⟨files, result, members⟩ :=
    Workspace.filesOfModules_result workspace graph (sorted (graph.accessibleModules home.name))
  have ordered : (workspace.findFiles sourcePatterns none).Pairwise (· ≤ ·) ∧
      (workspace.findFiles sourcePatterns none).Nodup := FileSystem.filesBelow_sorted _ _
  refine ⟨sortedDistinct files, ?_, sorted_eq_filter ordered.1 ordered.2 fun file => ?_⟩
  · rw [scopeFiles, Work.result_bind, result]
    rfl
  · rw [members, reaches_iff built declared]
    simp only [mem_sorted]
    constructor
    · rintro ⟨name, near, found, looked, inside⟩
      obtain ⟨listed, lies⟩ :=
        (files_of_module built (mem_of_module? looked).1 file).mp inside
      exact ⟨listed, name, near, found, looked, lies⟩
    · rintro ⟨listed, name, near, found, looked, lies⟩
      exact ⟨name, near, found, looked,
        (files_of_module built (mem_of_module? looked).1 file).mpr ⟨listed, lies⟩⟩

end ModuleGraph

theorem findUsages_of_container {document : Document} {position : Position}
    {given container : Option String} {word : CursorWord}
    (touched : document.wordAt? (document.code?.map Code.tree) position = some word)
    (wanted : containerFor? document.code? word given = some container)
    (host : Host) (graph : Option ModuleGraph) (scoping : Bool) :
    (findUsages document position graph scoping given).result host =
      ((scopeOf graph scoping document).result host).bind fun scope =>
        (searchUsages word.name scope container graph).result host := by
  simp only [findUsages, touched, wanted, Work.result_bind, Work.result_note, Work.result_pure]
  refine congrArg (Except.bind _) (funext fun scope => ?_)
  cases (searchUsages word.name scope container graph).result host <;> rfl

/-- A search for usages finds nothing whatever the files are, or it looks for one symbol in the files of
its scope. -/
theorem findUsages_cases (document : Document) (position : Position) (given : Option String) :
    (∀ host graph scoping,
        (findUsages document position graph scoping given).result host = .ok []) ∨
      ∃ symbol container, ∀ host graph scoping,
        (findUsages document position graph scoping given).result host =
          ((scopeOf graph scoping document).result host).bind fun scope =>
            (searchUsages symbol scope container graph).result host := by
  cases touched : document.wordAt? (document.code?.map Code.tree) position with
  | none =>
    refine Or.inl fun host graph scoping => ?_
    simp only [findUsages, touched, Work.result_pure]
  | some word =>
    cases wanted : containerFor? document.code? word given with
    | none =>
      refine Or.inl fun host graph scoping => ?_
      simp only [findUsages, touched, wanted, Work.result_bind, Work.result_note, Except.bind,
        Work.result_pure]
    | some container => exact Or.inr ⟨word.name, container, findUsages_of_container touched wanted⟩

/-- With the graph of a workspace, the search for usages with scoping gives those usages that it gives
without, in the same order, which lie in the directory of the document's module or of one that
imports it; if the document has no module, it gives all of them. -/
theorem findUsages_scoped (workspace : Workspace)
    (graph : ModuleGraph) (built : buildGraph.result workspace.host = .ok graph)
    (document : Document) (position : Position) (given : Option String) :
    ∃ usages,
      (findUsages document position (some graph) false given).result workspace.host = .ok usages ∧
      (findUsages document position (some graph) true given).result workspace.host =
        .ok (match graph.moduleForFile? document.path with
          | none => usages
          | some home => usages.filter fun usage => graph.reaches home usage.file) := by
  rcases findUsages_cases document position given with nothing | ⟨symbol, container, searches⟩
  · refine ⟨[], nothing _ _ _, ?_⟩
    rw [nothing]
    cases graph.moduleForFile? document.path <;> rfl
  · have all := workspace.searchUsages_result symbol none container (some graph)
    refine ⟨_, (searches _ _ _).trans all, ?_⟩
    rw [searches]
    cases found : graph.moduleForFile? document.path with
    | none =>
      -- Without a module of its own, a document is searched from as without scoping.
      have unrestricted : scopeOf (some graph) true document = pure none := by
        simp only [scopeOf, Option.filter_some, if_true, found]
      rw [unrestricted]
      exact all
    | some home =>
      have graphBuilt := ModuleGraph.built_of_buildGraph built
      have declared := ModuleGraph.mem_of_moduleForFile? graphBuilt.distinct found
      obtain ⟨files, result, same⟩ := ModuleGraph.scopeFiles_result graphBuilt declared
      have restricted : (scopeOf (some graph) true document).result workspace.host =
          .ok (some files) := by
        simp only [scopeOf, Option.filter_some, if_true, found, Work.result_bind, result, Except.bind,
          Work.result_pure]
      rw [restricted]
      refine (workspace.searchUsages_result symbol (some files) container (some graph)).trans ?_
      simp only [same, Workspace.searched_filter]

namespace Workspace

def twoModules : Workspace where
  root := ⟨1, ["w"]⟩
  files :=
    let top := FileSystem.empty ⟨1, ["w"]⟩
    ((top.insert ⟨1, ["w", "a", "a.module.ts"]⟩ (text "@Module(\x7b\x7d)class A\x7b\x7d")).insert
      ⟨1, ["w", "b", "b.module.ts"]⟩ (text "@Module(\x7bimports:[A]\x7d)class B\x7b\x7d")).insert
      ⟨1, ["w", "c.ts"]⟩ (text "A")
where
  text (content : String) : Entry := .file (Text.Utf8.encode content.toList)

def firstModule : Module := ⟨"A", "/w/a/a.module.ts", [], [], [], []⟩

def secondModule : Module := ⟨"B", "/w/b/b.module.ts", ["A"], [], [], []⟩

theorem twoModules_buildGraph :
    buildGraph.result twoModules.host = .ok ⟨[firstModule, secondModule]⟩ := by
  have listed : twoModules.findFiles modulePatterns none =
      ["/w/a/a.module.ts", "/w/b/b.module.ts"] := by cbv
  have first : Declares twoModules.host "/w/a/a.module.ts" firstModule := by
    refine ⟨.ofText "/w/a/a.module.ts" "@Module(\x7b\x7d)class A\x7b\x7d", rfl, ?_⟩
    rw [Document.module?_eq]
    decide +kernel
  have second : Declares twoModules.host "/w/b/b.module.ts" secondModule := by
    refine ⟨.ofText "/w/b/b.module.ts" "@Module(\x7bimports:[A]\x7d)class B\x7b\x7d", rfl, ?_⟩
    rw [Document.module?_eq]
    decide +kernel
  refine buildGraph_of_listed (congrArg Except.ok listed) ?_
  rw [readModules_cons _ (readModule_of_declares first _),
    readModules_cons _ (readModule_of_declares second _)]
  rfl

end Workspace

/-- From the file of the first module, scoping keeps the usages in the second and drops those in the
file outside. -/
theorem findUsages_scoped_twoModules :
    let graph : ModuleGraph := ⟨[Workspace.firstModule, Workspace.secondModule]⟩
    let host := Workspace.twoModules.host
    let document := Document.ofText "/w/a/a.module.ts" "@Module(\x7b\x7d)class A\x7b\x7d"
    buildGraph.result host = .ok graph ∧
      graph.reaches Workspace.firstModule "/w/b/b.module.ts" = true ∧
      graph.reaches Workspace.firstModule "/w/c.ts" = false ∧
      ∃ usages, (findUsages document ⟨0, 17⟩ (some graph) false none).result host = .ok usages ∧
        (findUsages document ⟨0, 17⟩ (some graph) true none).result host =
          .ok (usages.filter fun usage => graph.reaches Workspace.firstModule usage.file) := by
  intro graph host document
  have home : graph.moduleForFile? document.path = some Workspace.firstModule := by decide
  refine ⟨Workspace.twoModules_buildGraph, by decide, by decide, ?_⟩
  have filtered := findUsages_scoped Workspace.twoModules graph Workspace.twoModules_buildGraph
    document ⟨0, 17⟩ none
  rwa [home] at filtered

end ModuleScope
