import Mathlib
import ModuleScope.Proofs.GraphBuilding

/-!
The law of the visibility graph. What the module files declare, in the order in which they are listed,
settles the graph: names stand in the order of their first declaration and lead to the last one, a
module is imported by exactly those that import it, and a file that declares nothing leaves no trace.
-/
namespace ModuleScope

def Host.moduleIn? (host : Host) (file : String) : Option Module :=
  match host.openDocument file with
  | .ok document => document.module?
  | .error _ => none

def Host.listing (host : Host) (files : List String) : Host :=
  { host with findFiles := fun _ _ => .ok files }

theorem readModule_result (host : Host) (found : List Module) (file : String) :
    (readModule found file (host.openDocument file)).result host =
      .ok ((host.moduleIn? file).toList.foldl declareModule found) := by
  unfold Host.moduleIn?
  cases opened : host.openDocument file with
  | error failure => rfl
  | ok document =>
    rw [readModule, addDeclared_result]
    dsimp only
    generalize document.module? = declared
    cases declared <;> rfl

theorem readModules_eq (host : Host) (files : List String) (found : List Module) :
    (readModules found files).result host =
      .ok ((files.filterMap host.moduleIn?).foldl declareModule found) := by
  -- What has been found before is where the modules of the remaining files are added to.
  induction files generalizing found with
  | nil => rfl
  | cons file rest ih =>
    rw [readModules_cons rest (readModule_result host found file), ih]
    cases declared : host.moduleIn? file with
    | none =>
      rw [List.filterMap_cons_none declared]
      rfl
    | some added =>
      rw [List.filterMap_cons_some declared]
      rfl

namespace ModuleGraph

def ofFound (found : List Module) : ModuleGraph := ⟨found.foldl declareModule []⟩

theorem ofFound_concat (found : List Module) (added : Module) :
    ofFound (found ++ [added]) = ⟨declareModule (ofFound found).declared added⟩ := by
  rw [ofFound, List.foldl_append]
  rfl

end ModuleGraph

theorem buildGraph_eq_ofFound {host : Host} {files : List String}
    (listed : host.findFiles modulePatterns none = .ok files) :
    buildGraph.result host = .ok (.ofFound (files.filterMap host.moduleIn?)) :=
  buildGraph_of_listed listed (readModules_eq host files [])

theorem names_declareModule (modules : List Module) (added : Module) :
    (declareModule modules added).map Module.name =
      if added.name ∈ modules.map Module.name then modules.map Module.name
      else modules.map Module.name ++ [added.name] := by
  have present : (modules.any fun each => each.name == added.name) = true ↔
      added.name ∈ modules.map Module.name := by
    simp only [List.any_eq_true, beq_iff_eq, List.mem_map]
  unfold declareModule
  by_cases known : added.name ∈ modules.map Module.name
  · rw [if_pos (present.mpr known), if_pos known, List.map_map]
    refine List.map_congr_left fun each _ => ?_
    by_cases same : each.name = added.name <;> simp [same]
  · rw [if_neg (fun any => known (present.mp any)), if_neg known, List.map_append]
    rfl

private theorem eraseDups_concat (names : List String) (last : String) :
    (names ++ [last]).eraseDups =
      if last ∈ names.eraseDups then names.eraseDups else names.eraseDups ++ [last] := by
  rw [List.eraseDups_append]
  by_cases known : last ∈ names
  · simp [List.removeAll, known]
  · simp [List.removeAll, known, List.eraseDups_cons]

namespace ModuleGraph

theorem module?_concat (modules : List Module) (last : Module) (name : String) :
    module? ⟨modules ++ [last]⟩ name =
      if last.name = name then some last else module? ⟨modules⟩ name := by
  simp only [module?, List.reverse_append, List.reverse_singleton, List.singleton_append]
  by_cases asked : last.name = name
  · rw [if_pos asked, List.find?_cons_of_pos (by simpa using asked)]
  · rw [if_neg asked, List.find?_cons_of_neg (by simpa using asked)]

theorem module?_declareModule (modules : List Module) (added : Module) (name : String) :
    module? ⟨declareModule modules added⟩ name =
      if added.name = name then some added else module? ⟨modules⟩ name := by
  unfold declareModule
  split
  · next known =>
    obtain ⟨each, member, same⟩ := List.any_eq_true.mp known
    have names (other : Module) :
        (if other.name == added.name then added else other).name = other.name := by
      by_cases equal : other.name = added.name <;> simp [equal]
    simp only [module?, ← List.map_reverse, List.find?_map, Function.comp_def, names]
    cases looked : modules.reverse.find? fun other => other.name == name with
    | none =>
      have absent := List.find?_eq_none.mp looked each (List.mem_reverse.mpr member)
      have asked : added.name ≠ name := by
        rintro rfl
        exact absent same
      rw [if_neg asked]
      rfl
    | some other =>
      have named : other.name = name := by simpa using List.find?_some looked
      by_cases asked : added.name = name
      · simp [named, asked]
      · simp [named, asked, Ne.symm asked]
  · exact module?_concat modules added name

theorem declared_names_ofFound (found : List Module) :
    (ofFound found).declared.map Module.name = (found.map Module.name).eraseDups := by
  induction found using List.reverseRecOn with
  | nil => rfl
  | append_singleton found added ih =>
    rw [ofFound_concat, names_declareModule, ih, List.map_append]
    exact (eraseDups_concat _ _).symm

theorem ofFound_distinct (found : List Module) :
    ((ofFound found).declared.map Module.name).Nodup := by
  rw [declared_names_ofFound]
  exact nodup_eraseDups _

theorem names_ofFound (found : List Module) :
    (ofFound found).names = (found.map Module.name).eraseDups := by
  rw [names, eraseDups_of_nodup (ofFound_distinct found), declared_names_ofFound]

theorem module?_ofFound (found : List Module) (name : String) :
    (ofFound found).module? name = found.reverse.find? fun each => each.name == name := by
  induction found using List.reverseRecOn with
  | nil => rfl
  | append_singleton found added ih =>
    rw [ofFound_concat, module?_declareModule, ih]
    exact (module?_concat found added name).symm

variable {graph : ModuleGraph}

theorem mem_importersOf {importer imported : String} :
    importer ∈ graph.importersOf imported ↔ (importer, imported) ∈ graph.edges := by
  simp only [importersOf, List.mem_map, List.mem_filter, beq_iff_eq]
  constructor
  · rintro ⟨⟨_, _⟩, ⟨edge, rfl⟩, rfl⟩
    exact edge
  · intro edge
    exact ⟨(importer, imported), ⟨edge, rfl⟩, rfl⟩

theorem mem_importsOf {importer imported : String} :
    imported ∈ graph.importsOf importer ↔
      ∃ found, graph.module? importer = some found ∧ imported ∈ found.imports := by
  rw [importsOf]
  cases graph.module? importer <;> simp [List.mem_eraseDups]

theorem mem_edges (distinct : (graph.declared.map Module.name).Nodup) {importer imported : String} :
    (importer, imported) ∈ graph.edges ↔
      imported ∈ graph.names ∧ imported ∈ graph.importsOf importer := by
  rw [mem_importsOf]
  simp only [edges, List.mem_eraseDups, List.mem_flatMap, List.mem_map, List.mem_filter, contains,
    List.contains_iff_mem, Prod.mk.injEq]
  constructor
  · rintro ⟨each, member, _, ⟨inside, known⟩, rfl, rfl⟩
    exact ⟨known, each, module?_of_mem distinct member, inside⟩
  · rintro ⟨known, found, looked, inside⟩
    obtain ⟨member, named⟩ := mem_of_module? looked
    exact ⟨found, member, imported, ⟨inside, known⟩, named, rfl⟩

theorem mem_names_of_module? {name : String} {found : Module}
    (looked : graph.module? name = some found) : name ∈ graph.names := by
  obtain ⟨member, rfl⟩ := mem_of_module? looked
  rw [names, List.mem_eraseDups]
  exact List.mem_map_of_mem member

theorem mem_names_of_imports {importer imported : String}
    (imports : imported ∈ graph.importsOf importer) : importer ∈ graph.names := by
  obtain ⟨found, looked, _⟩ := mem_importsOf.mp imports
  exact mem_names_of_module? looked

theorem mem_accessibleModules_of_mem (distinct : (graph.declared.map Module.name).Nodup)
    {name : String} (known : name ∈ graph.names) {other : String} :
    other ∈ graph.accessibleModules name ↔
      other = name ∨ other ∈ graph.names ∧ name ∈ graph.importsOf other := by
  have contained : graph.contains name = true := by simpa [contains] using known
  rw [accessibleModules, if_pos contained, List.mem_eraseDups, List.mem_cons, mem_importersOf,
    mem_edges distinct]
  constructor
  · rintro (same | ⟨_, imports⟩)
    · exact Or.inl same
    · exact Or.inr ⟨mem_names_of_imports imports, imports⟩
  · rintro (same | ⟨_, imports⟩)
    · exact Or.inl same
    · exact Or.inr ⟨known, imports⟩

theorem accessibleModules_of_not_mem {name : String} (unknown : name ∉ graph.names) :
    graph.accessibleModules name = [name] := by
  have absent : ¬ graph.contains name = true := by simpa [contains] using unknown
  rw [accessibleModules, if_neg absent]
  rfl

theorem mem_accessibleFiles {name file : String} :
    file ∈ graph.accessibleFiles name ↔
      ∃ other ∈ graph.accessibleModules name, ∃ found,
        graph.module? other = some found ∧ found.file = file := by
  simp only [accessibleFiles, List.mem_eraseDups, List.mem_filterMap, Option.map_eq_some_iff]

end ModuleGraph

theorem filterMap_moduleIn?_filter {host : Host} {files : List String} {keep : String → Bool}
    (kept : ∀ file ∈ files, (host.moduleIn? file).isSome → keep file = true) :
    (files.filter keep).filterMap host.moduleIn? = files.filterMap host.moduleIn? := by
  induction files with
  | nil => rfl
  | cons file rest ih =>
    have others := ih fun other member => kept other (List.mem_cons_of_mem file member)
    by_cases keeps : keep file = true
    · rw [List.filter_cons_of_pos keeps, List.filterMap_cons, List.filterMap_cons, others]
    · have nothing : host.moduleIn? file = none := by
        rw [← Option.not_isSome_iff_eq_none]
        exact fun declares => keeps (kept file (by simp) declares)
      rw [List.filter_cons_of_neg keeps, List.filterMap_cons_none nothing, others]

/-- A build takes the modules that the listed files declare, one after another. Its names are those of
the modules in the order of their first appearance, and each leads to the last module of the name;
importers, imports and edges agree between names; the modules that see a module are itself and its
importers, and nothing but itself sees a name that is none; and any files that cannot be opened or
declare no module may be left out of the list. -/
theorem buildGraph_visibility (host : Host) (files : List String)
    (listed : host.findFiles modulePatterns none = .ok files) :
    let found := files.filterMap host.moduleIn?
    ∃ graph, buildGraph.result host = .ok graph ∧
      graph.names = (found.map Module.name).eraseDups ∧
      (∀ name, graph.module? name = found.reverse.find? fun each => each.name == name) ∧
      (∀ importer ∈ graph.names, ∀ imported ∈ graph.names,
        (importer ∈ graph.importersOf imported ↔ imported ∈ graph.importsOf importer) ∧
          (imported ∈ graph.importsOf importer ↔ (importer, imported) ∈ graph.edges)) ∧
      (∀ edge ∈ graph.edges, edge.1 ∈ graph.names ∧ edge.2 ∈ graph.names) ∧
      (∀ name ∈ graph.names, ∀ other, other ∈ graph.accessibleModules name ↔
        other = name ∨ other ∈ graph.names ∧ name ∈ graph.importsOf other) ∧
      (∀ name, name ∉ graph.names → graph.accessibleModules name = [name]) ∧
      (∀ name file, file ∈ graph.accessibleFiles name ↔
        ∃ other ∈ graph.accessibleModules name, ∃ declared,
          graph.module? other = some declared ∧ declared.file = file) ∧
      ∀ keep : String → Bool,
        (∀ file ∈ files, (host.moduleIn? file).isSome → keep file = true) →
        buildGraph.result (host.listing (files.filter keep)) = .ok graph := by
  intro found
  have distinct := ModuleGraph.ofFound_distinct found
  refine ⟨.ofFound found, buildGraph_eq_ofFound listed, ModuleGraph.names_ofFound found,
    ModuleGraph.module?_ofFound found, ?_, ?_, fun _ known _ =>
    ModuleGraph.mem_accessibleModules_of_mem distinct known, fun _ =>
    ModuleGraph.accessibleModules_of_not_mem, fun _ _ => ModuleGraph.mem_accessibleFiles, ?_⟩
  · intro importer _ imported known
    have edge : (importer, imported) ∈ (ModuleGraph.ofFound found).edges ↔
        imported ∈ (ModuleGraph.ofFound found).importsOf importer := by
      rw [ModuleGraph.mem_edges distinct]
      exact and_iff_right known
    exact ⟨ModuleGraph.mem_importersOf.trans edge, edge.symm⟩
  · rintro ⟨importer, imported⟩ edge
    obtain ⟨known, imports⟩ := (ModuleGraph.mem_edges distinct).mp edge
    exact ⟨ModuleGraph.mem_names_of_imports imports, known⟩
  · intro keep kept
    have fewer : (files.filter keep).filterMap host.moduleIn? = found :=
      filterMap_moduleIn?_filter kept
    rw [← fewer]
    exact buildGraph_eq_ofFound rfl

/-- Two modules that import each other, one of them also itself and a name that no file declares; a file
that cannot be opened, one without a module, and one that declares the first module again. -/
def Host.repeatedModule : Host where
  openDocument path := match path with
    | "/a.module.ts" => .ok (.ofText path "@Module(\x7bimports:[B,X,A]\x7d)class A\x7b\x7d")
    | "/b.module.ts" => .ok (.ofText path "@Module(\x7bimports:[A,A]\x7d)class B\x7b\x7d")
    | "/d.module.ts" => .ok (.ofText path "class C\x7b\x7d")
    | "/e.module.ts" => .ok (.ofText path "@Module(\x7bimports:[X,A]\x7d)class A\x7b\x7d")
    | _ => .error (.notFound path)
  findFiles _ _ :=
    .ok ["/a.module.ts", "/b.module.ts", "/c.module.ts", "/d.module.ts", "/e.module.ts"]

/-- The later declaration counts, so the first module no longer imports the second. -/
theorem buildGraph_visibility_repeatedModule :
    let host := Host.repeatedModule
    let files := ["/a.module.ts", "/b.module.ts", "/c.module.ts", "/d.module.ts", "/e.module.ts"]
    host.findFiles modulePatterns none = .ok files ∧
      ∃ graph, buildGraph.result host = .ok graph ∧ graph.names = ["A", "B"] ∧
        graph.module? "A" = some ⟨"A", "/e.module.ts", ["X", "A"], [], [], []⟩ ∧
        "A" ∉ graph.importersOf "B" ∧ "B" ∈ graph.accessibleModules "A" ∧
        graph.accessibleModules "X" = ["X"] ∧ "/e.module.ts" ∈ graph.accessibleFiles "A" ∧
        buildGraph.result (host.listing ["/a.module.ts", "/b.module.ts", "/e.module.ts"]) =
          .ok graph := by
  intro host files
  have first : host.moduleIn? "/a.module.ts" =
      some ⟨"A", "/a.module.ts", ["B", "X", "A"], [], [], []⟩ := by
    change Document.module? _ = _
    rw [Document.module?_eq]
    decide +kernel
  have second : host.moduleIn? "/b.module.ts" =
      some ⟨"B", "/b.module.ts", ["A", "A"], [], [], []⟩ := by
    change Document.module? _ = _
    rw [Document.module?_eq]
    decide +kernel
  have unopened : host.moduleIn? "/c.module.ts" = none := rfl
  have moduleless : host.moduleIn? "/d.module.ts" = none := by
    change Document.module? _ = _
    rw [Document.module?_eq]
    decide +kernel
  have last : host.moduleIn? "/e.module.ts" =
      some ⟨"A", "/e.module.ts", ["X", "A"], [], [], []⟩ := by
    change Document.module? _ = _
    rw [Document.module?_eq]
    decide +kernel
  obtain ⟨graph, built, names, lookup, between, _, sees, unseen, held, fewer⟩ :=
    buildGraph_visibility host files rfl
  simp only [files, List.filterMap_cons, first, second, unopened, moduleless, last,
    List.filterMap_nil] at names lookup
  have named : graph.names = ["A", "B"] := names.trans (by decide)
  have looked : graph.module? "A" = some ⟨"A", "/e.module.ts", ["X", "A"], [], [], []⟩ :=
    (lookup "A").trans (by decide)
  have other : graph.module? "B" = some ⟨"B", "/b.module.ts", ["A", "A"], [], [], []⟩ :=
    (lookup "B").trans (by decide)
  refine ⟨rfl, graph, built, named, looked, ?_, ?_, unseen "X" (by simp [named]), ?_, ?_⟩
  · rw [(between "A" (by simp [named]) "B" (by simp [named])).1, ModuleGraph.mem_importsOf, looked]
    simp
  · rw [sees "A" (by simp [named]), ModuleGraph.mem_importsOf, other]
    simp [named]
  · rw [held]
    exact ⟨"A", (sees "A" (by simp [named]) "A").mpr (Or.inl rfl), _, looked, rfl⟩
  · refine fewer (fun file => file != "/c.module.ts" && file != "/d.module.ts") ?_
    intro file _ declares
    have readable : file ≠ "/c.module.ts" := by
      rintro rfl
      simp [unopened] at declares
    have declaring : file ≠ "/d.module.ts" := by
      rintro rfl
      simp [moduleless] at declares
    simp [readable, declaring]

end ModuleScope
