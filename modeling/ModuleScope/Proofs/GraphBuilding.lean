import Mathlib
import ModuleScope.Search.Graph
import ModuleScope.Proofs.Lookup
import ModuleScope.Proofs.Results
import ModuleScope.Proofs.Sorting
import ModuleScope.Proofs.TreeWalk

/-!
What a graph holds once it has been built. Its modules have different names, each was declared by a
listed file that could be opened, and looking names up gives exactly these modules.
-/
namespace ModuleScope

theorem Code.moduleOf?_file {code : Code} {site : TypeScript.Site} {found : Module}
    (declares : code.moduleOf? site = some found) : found.file = code.document.path := by
  simp only [Code.moduleOf?, bind, Option.bind_eq_some_iff, pure, Option.some.injEq] at declares
  obtain ⟨_, _, _, _, _, _, _, _, rfl⟩ := declares
  rfl

theorem Document.module?_file {document : Document} {found : Module}
    (declares : document.module? = some found) : found.file = document.path := by
  obtain ⟨code, parsed, declared⟩ := Option.bind_eq_some_iff.mp declares
  obtain ⟨site, _, here⟩ := List.exists_of_findSome?_eq_some declared
  obtain ⟨dialect, _, rfl⟩ := Option.map_eq_some_iff.mp parsed
  exact Code.moduleOf?_file here

theorem Document.module?_eq (document : Document) :
    document.module? =
      document.code?.bind fun code => (code.tree.sites []).findSome? code.moduleOf? := by
  have walked (code : Code) : code.module? = (code.tree.sites []).findSome? code.moduleOf? := by
    rw [Code.module?, Code.walk, TypeScript.Tree.walk_eq_sites]
  rw [Document.module?, funext walked]

section Declaring

variable {modules : List Module} {added found : Module}

theorem mem_of_mem_declareModule (member : found ∈ declareModule modules added) :
    found = added ∨ found ∈ modules := by
  unfold declareModule at member
  split at member
  · obtain ⟨each, inside, rfl⟩ := List.mem_map.mp member
    split
    · exact Or.inl rfl
    · exact Or.inr inside
  · simpa [or_comm] using member

theorem declareModule_nodup (distinct : (modules.map Module.name).Nodup) (added : Module) :
    ((declareModule modules added).map Module.name).Nodup := by
  unfold declareModule
  split
  · -- The module takes the place of one of the same name.
    have names : (modules.map fun each => if each.name == added.name then added else each).map
        Module.name = modules.map Module.name := by
      rw [List.map_map]
      refine List.map_congr_left fun each _ => ?_
      by_cases same : each.name = added.name <;> simp [same]
    rwa [names]
  · next absent =>
    rw [List.map_append, List.nodup_append]
    simp only [List.any_eq_true, beq_iff_eq, not_exists, not_and] at absent
    refine ⟨distinct, by simp, ?_⟩
    rintro name member _ last rfl
    obtain ⟨each, inside, rfl⟩ := List.mem_map.mp member
    exact absent each inside (by simpa using last)

end Declaring

def Declares (host : Host) (file : String) (found : Module) : Prop :=
  ∃ document, host.openDocument file = .ok document ∧ document.module? = some found

theorem addDeclared_result (host : Host) (found : List Module) (declared : Option Module) :
    (addDeclared found declared).result host =
      .ok (match declared with
        | some added => declareModule found added
        | none => found) := by
  cases declared with
  | none => rfl
  | some added =>
    rw [addDeclared]
    cases found.find? fun each => each.name == added.name <;> rfl

theorem readModule_of_declares {host : Host} {file : String} {added : Module}
    (declares : Declares host file added) (found : List Module) :
    (readModule found file (host.openDocument file)).result host =
      .ok (declareModule found added) := by
  obtain ⟨document, opened, declared⟩ := declares
  rw [opened, readModule, addDeclared_result, declared]

theorem readModule_cases (host : Host) (found : List Module) (file : String) :
    (∃ added, Declares host file added) ∨
      (readModule found file (host.openDocument file)).result host = .ok found := by
  cases opened : host.openDocument file with
  | error failure => exact Or.inr rfl
  | ok document =>
    cases declared : document.module? with
    | none => exact Or.inr (by rw [readModule, addDeclared_result, declared])
    | some added => exact Or.inl ⟨added, document, opened, declared⟩

theorem readModules_cons {host : Host} {found next : List Module} {file : String}
    (rest : List String)
    (read : (readModule found file (host.openDocument file)).result host = .ok next) :
    (readModules found (file :: rest)).result host = (readModules next rest).result host := by
  rw [readModules, Work.result_bind, Work.result_attempt]
  simp only [Except.bind, Work.result_bind, read]

/-- Reading module files never fails; every module is one found before or declared by a file. -/
theorem readModules_result (host : Host) (files : List String) (found : List Module)
    (distinct : (found.map Module.name).Nodup) :
    ∃ modules, (readModules found files).result host = .ok modules ∧
      (∀ each ∈ modules, each ∈ found ∨ ∃ file ∈ files, Declares host file each) ∧
      (modules.map Module.name).Nodup := by
  -- On the files that remain, for whatever has been found in those before.
  induction files generalizing found with
  | nil => exact ⟨found, rfl, fun each member => Or.inl member, distinct⟩
  | cons file rest ih =>
    rcases readModule_cases host found file with ⟨added, declares⟩ | read
    · have read := readModule_of_declares declares found
      obtain ⟨modules, result, origin, names⟩ :=
        ih (declareModule found added) (declareModule_nodup distinct added)
      refine ⟨modules, (readModules_cons rest read).trans result, fun each member => ?_, names⟩
      rcases origin each member with before | ⟨other, listed, declared⟩
      · rcases mem_of_mem_declareModule before with rfl | before
        · exact Or.inr ⟨file, by simp, declares⟩
        · exact Or.inl before
      · exact Or.inr ⟨other, List.mem_cons_of_mem file listed, declared⟩
    · obtain ⟨modules, result, origin, names⟩ := ih found distinct
      refine ⟨modules, (readModules_cons rest read).trans result, fun each member => ?_, names⟩
      rcases origin each member with before | ⟨other, listed, declared⟩
      · exact Or.inl before
      · exact Or.inr ⟨other, List.mem_cons_of_mem file listed, declared⟩

theorem buildGraph_of_listed {host : Host} {files : List String} {modules : List Module}
    (listed : host.findFiles modulePatterns none = .ok files)
    (read : (readModules [] files).result host = .ok modules) :
    buildGraph.result host = .ok ⟨modules⟩ := by
  rw [buildGraph, Work.result_bind, Work.result_files, listed]
  simp only [Except.bind, Work.result_bind, read]
  rfl

namespace ModuleGraph

/-- A graph as a build gives it: names are different, and listed files declare the modules. -/
structure Built (graph : ModuleGraph) (host : Host) : Prop where
  distinct : (graph.declared.map Module.name).Nodup
  origin : ∀ each ∈ graph.declared, ∃ files file, host.findFiles modulePatterns none = .ok files ∧
    file ∈ files ∧ Declares host file each

theorem built_of_buildGraph {graph : ModuleGraph} {host : Host}
    (built : buildGraph.result host = .ok graph) : graph.Built host := by
  cases listed : host.findFiles modulePatterns none with
  | error failure =>
    rw [buildGraph, Work.result_bind, Work.result_files, listed] at built
    cases built
  | ok files =>
    obtain ⟨modules, result, origin, distinct⟩ := readModules_result host files [] (by simp)
    obtain rfl := Except.ok.inj ((buildGraph_of_listed listed result).symm.trans built)
    refine ⟨distinct, fun each member => ?_⟩
    rcases origin each member with before | ⟨file, inside, declares⟩
    · simp at before
    · exact ⟨files, file, listed, inside, declares⟩

variable {graph : ModuleGraph}

theorem mem_of_module? {name : String} {found : Module} (looked : graph.module? name = some found) :
    found ∈ graph.declared ∧ found.name = name :=
  ⟨List.mem_reverse.mp (List.mem_of_find?_eq_some looked), by simpa using List.find?_some looked⟩

theorem module?_of_mem (distinct : (graph.declared.map Module.name).Nodup) {found : Module}
    (declared : found ∈ graph.declared) : graph.module? found.name = some found := by
  have backwards : (graph.declared.reverse.map Module.name).Nodup := by
    rw [List.map_reverse, List.nodup_reverse]
    exact distinct
  exact (find?_key_eq_some_iff backwards).mpr ⟨List.mem_reverse.mpr declared, rfl⟩

theorem contains_of_mem {found : Module} (declared : found ∈ graph.declared) :
    graph.contains found.name = true := by
  rw [contains, names, List.contains_iff_mem, List.mem_eraseDups]
  exact List.mem_map_of_mem declared

theorem mem_modules_iff (distinct : (graph.declared.map Module.name).Nodup) {found : Module} :
    found ∈ graph.modules ↔ found ∈ graph.declared := by
  rw [modules, List.mem_filterMap]
  constructor
  · rintro ⟨name, _, looked⟩
    exact (mem_of_module? looked).1
  · intro declared
    refine ⟨found.name, ?_, module?_of_mem distinct declared⟩
    rw [names, List.mem_eraseDups]
    exact List.mem_map_of_mem declared

theorem mem_accessibleModules_iff {home : Module} (declared : home ∈ graph.declared) {name : String} :
    name ∈ graph.accessibleModules home.name ↔
      name = home.name ∨ ∃ each ∈ graph.declared, each.name = name ∧ home.name ∈ each.imports := by
  have known := contains_of_mem declared
  have importers : name ∈ graph.importersOf home.name ↔
      ∃ each ∈ graph.declared, each.name = name ∧ home.name ∈ each.imports := by
    simp only [importersOf, edges, List.mem_map, List.mem_filter, List.mem_eraseDups,
      List.mem_flatMap, beq_iff_eq]
    constructor
    · rintro ⟨_, ⟨⟨each, member, imported, ⟨inside, _⟩, rfl⟩, rfl⟩, rfl⟩
      exact ⟨each, member, rfl, inside⟩
    · rintro ⟨each, member, rfl, inside⟩
      exact ⟨_, ⟨⟨each, member, home.name, ⟨inside, known⟩, rfl⟩, rfl⟩, rfl⟩
  rw [accessibleModules, List.mem_eraseDups, if_pos known, List.mem_cons, importers]

theorem mem_of_moduleForFile? (distinct : (graph.declared.map Module.name).Nodup) {file : String}
    {home : Module} (found : graph.moduleForFile? file = some home) : home ∈ graph.declared := by
  have around {each : Module} (member : each ∈ graph.byDepth.filter fun each =>
      isWithin (directoryOf file) each.directory) : each ∈ graph.declared :=
    List.mem_mergeSort.mp (List.mem_of_mem_filter member)
  rw [moduleForFile?, Option.or_eq_some_iff, Option.or_eq_some_iff] at found
  rcases found with (own | ⟨_, owner⟩) | ⟨_, nearest⟩
  · exact (mem_modules_iff distinct).mp (List.mem_of_find?_eq_some own)
  · exact around (List.mem_of_find?_eq_some owner)
  · exact around (List.mem_of_mem_head? nearest)

end ModuleGraph

end ModuleScope
