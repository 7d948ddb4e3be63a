import Mathlib
import ModuleScope.Proofs.GraphBuilding
import ModuleScope.Proofs.Paths

/-!
The module that a file belongs to. A directory is the list of the names on the way to it, and a module
is around a file if its directory is a beginning of the file's. Depth and path put modules in different
files into one strict order, so the module of a file is told by the set of the modules around it.
-/
namespace ModuleScope

def directoryParts (file : String) : List String := (Path.ofString file).parent.parts

namespace Path

/-- The text of an absolute path without empty components, `.` and `..`. -/
def IsNormal (text : String) : Prop :=
  ∃ parts : List String, (∀ part ∈ parts, isName part = true) ∧ text = Path.toString ⟨1, parts⟩

namespace IsNormal

variable {file other : String}

theorem directoryOf_eq (normal : IsNormal file) :
    directoryOf file = Path.toString ⟨1, directoryParts file⟩ := by
  obtain ⟨parts, names, rfl⟩ := normal
  rw [directoryParts, ofString_toString names]
  rcases List.eq_nil_or_concat' parts with rfl | ⟨front, last, rfl⟩
  · rfl
  · rw [directoryOf_toString (fun part member => names part (by simp [member])) (names last (by simp)),
      parent, List.dropLast_concat]

theorem directoryParts_names (normal : IsNormal file) :
    ∀ part ∈ directoryParts file, isName part = true := by
  obtain ⟨parts, names, rfl⟩ := normal
  rw [directoryParts, ofString_toString names]
  intro part member
  exact names part (List.mem_of_mem_dropLast member)

theorem isWithin_iff (normal : IsNormal file) (normal' : IsNormal other) :
    isWithin (directoryOf file) (directoryOf other) = true ↔
      directoryParts other <+: directoryParts file := by
  rw [normal.directoryOf_eq, normal'.directoryOf_eq]
  exact isWithin_iff_isPrefix normal.directoryParts_names normal'.directoryParts_names

theorem depth_eq (normal : IsNormal file) :
    (ofString file).parent.depth = 1 + (directoryParts file).length := by
  obtain ⟨parts, names, rfl⟩ := normal
  rw [directoryParts, ofString_toString names]
  rfl

end IsNormal

end Path

def Module.Around (self : Module) (file : String) : Prop :=
  directoryParts self.file <+: directoryParts file

instance (self : Module) (file : String) : Decidable (self.Around file) :=
  inferInstanceAs (Decidable (_ <+: _))

/-- The class that a file holds by convention is a provider or a controller of the module. -/
def Module.Lists (self : Module) (file : String) : Prop :=
  conventionalClassName file ∈ self.providers ∨ conventionalClassName file ∈ self.controllers

instance (self : Module) (file : String) : Decidable (self.Lists file) :=
  inferInstanceAs (Decidable (_ ∨ _))

theorem Module.owns_iff {self : Module} {file : String} :
    self.owns (conventionalClassName file) = true ↔ self.Lists file := by
  rw [owns, Bool.or_eq_true, List.contains_iff_mem, List.contains_iff_mem, Lists]

/-- A module lies in a deeper directory than another, or in one as deep and has the smaller path. -/
def Module.Precedes (self other : Module) : Prop :=
  (directoryParts other.file).length < (directoryParts self.file).length ∨
    (directoryParts self.file).length = (directoryParts other.file).length ∧ self.file < other.file

instance (self other : Module) : Decidable (self.Precedes other) :=
  inferInstanceAs (Decidable (_ ∨ _ ∧ _))

theorem Module.Precedes.asymm {self other : Module} (first : self.Precedes other)
    (second : other.Precedes self) : False := by
  rcases first with deeper | ⟨level, smaller⟩ <;> rcases second with deeper' | ⟨level', smaller'⟩
  · omega
  · omega
  · omega
  · exact lt_asymm smaller smaller'

def Foremost (qualifies : Module → Prop) (best : Module) : Prop :=
  qualifies best ∧ ∀ other, qualifies other → other ≠ best → best.Precedes other

theorem Foremost.eq {qualifies : Module → Prop} {best other : Module}
    (foremost : Foremost qualifies best) (foremost' : Foremost qualifies other) : best = other := by
  by_contra different
  exact (foremost.2 other foremost'.1 (Ne.symm different)).asymm
    (foremost'.2 best foremost.1 different)

structure WellPlaced (modules : List Module) : Prop where
  names : (modules.map Module.name).Nodup
  files : (modules.map Module.file).Nodup
  normal : ∀ each ∈ modules, Path.IsNormal each.file

namespace WellPlaced

variable {modules : List Module} (placed : WellPlaced modules)
include placed

theorem deeperFirst_iff {self other : Module} (member : self ∈ modules) (member' : other ∈ modules)
    (different : other ≠ self) :
    ModuleGraph.deeperFirst self other = true ↔ self.Precedes other := by
  have apart : self.file ≠ other.file := by
    intro same
    exact different (List.inj_on_of_nodup_map placed.files member' member same.symm)
  have depth := (placed.normal self member).depth_eq
  have depth' := (placed.normal other member').depth_eq
  simp only [ModuleGraph.deeperFirst, depth, depth', Bool.or_eq_true, Bool.and_eq_true,
    decide_eq_true_eq, beq_iff_eq, Module.Precedes, apart.le_iff_lt, Nat.add_lt_add_iff_left,
    Nat.add_left_cancel_iff]

end WellPlaced

namespace ModuleGraph

theorem deeperFirst_trans (first second third : Module) (before : deeperFirst first second = true)
    (before' : deeperFirst second third = true) : deeperFirst first third = true := by
  simp only [deeperFirst, Bool.or_eq_true, Bool.and_eq_true, decide_eq_true_eq, beq_iff_eq]
    at before before' ⊢
  rcases before with deeper | ⟨level, smaller⟩ <;> rcases before' with deeper' | ⟨level', smaller'⟩
  · exact Or.inl (deeper'.trans deeper)
  · exact Or.inl (level' ▸ deeper)
  · exact Or.inl (level ▸ deeper')
  · exact Or.inr ⟨level.trans level', smaller.trans smaller'⟩

theorem deeperFirst_total (first second : Module) :
    (deeperFirst first second || deeperFirst second first) = true := by
  simp only [deeperFirst, Bool.or_eq_true, Bool.and_eq_true, decide_eq_true_eq, beq_iff_eq]
  rcases lt_trichotomy (Path.ofString first.file).parent.depth
      (Path.ofString second.file).parent.depth with less | same | more
  · exact Or.inr (Or.inl less)
  · rcases le_total first.file second.file with smaller | smaller
    · exact Or.inl (Or.inr ⟨same, smaller⟩)
    · exact Or.inr (Or.inr ⟨same.symm, smaller⟩)
  · exact Or.inl (Or.inl more)

theorem modules_eq_declared {graph : ModuleGraph} (distinct : (graph.declared.map Module.name).Nodup) :
    graph.modules = graph.declared := by
  have each : ∀ found ∈ graph.declared, (graph.module? ∘ Module.name) found = some found :=
    fun _ declared => module?_of_mem distinct declared
  rw [modules, names, eraseDups_of_nodup distinct, List.filterMap_map, List.filterMap_congr each,
    List.filterMap_some]

/-- The modules in whose directories a file lies by the texts of the paths, in the order in which they
are tried. -/
def around (graph : ModuleGraph) (file : String) : List Module :=
  graph.byDepth.filter fun each => isWithin (directoryOf file) each.directory

theorem moduleForFile?_eq (graph : ModuleGraph) (file : String) :
    graph.moduleForFile? file =
      ((graph.modules.find? fun each => each.file == file).or
        ((graph.around file).find? fun each => each.owns (conventionalClassName file))).or
          ((graph.around file).find? fun _ => true) := by
  have first : (graph.around file).head? = (graph.around file).find? fun _ => true := by
    cases graph.around file <;> rfl
  rw [← first]
  rfl

end ModuleGraph

theorem precedes_of_find? {α : Type} {before : α → α → Prop} {items : List α}
    (ordered : items.Pairwise before) {test : α → Bool} {best : α}
    (found : items.find? test = some best) :
    ∀ other ∈ items, test other = true → other ≠ best → before best other := by
  obtain ⟨_, front, rest, rfl, failing⟩ := List.find?_eq_some_iff_append.mp found
  intro other member passes different
  rcases List.mem_append.mp member with earlier | member
  · have fails := failing other earlier
    simp [passes] at fails
  · have later := (List.mem_cons.mp member).resolve_left different
    exact (List.pairwise_cons.mp (List.pairwise_append.mp ordered).2.1).1 other later

/-- The modules around a file, and which of them the file belongs to: the one that it declares; else
the foremost that lists the class it holds by convention; else the foremost. -/
inductive IsHome (near : Module → Prop) (file : String) (home : Module) : Prop
  | declared (around : near home) (own : home.file = file)
  | listing (undeclared : ∀ each, near each → each.file ≠ file)
      (foremost : Foremost (fun each => near each ∧ each.Lists file) home)
  | nearest (undeclared : ∀ each, near each → each.file ≠ file)
      (unlisted : ∀ each, near each → ¬ each.Lists file) (foremost : Foremost near home)

namespace WellPlaced

variable {modules : List Module} (placed : WellPlaced modules) {file : String}
  (normal : Path.IsNormal file)
include placed

theorem find?_declared_iff {home : Module} :
    (ModuleGraph.mk modules).modules.find? (fun each => each.file == file) = some home ↔
      home ∈ modules ∧ home.file = file := by
  rw [ModuleGraph.modules_eq_declared placed.names]
  exact find?_key_eq_some_iff placed.files

include normal

theorem mem_around_iff {each : Module} :
    each ∈ (ModuleGraph.mk modules).around file ↔ each ∈ modules ∧ each.Around file := by
  rw [ModuleGraph.around, List.mem_filter, ModuleGraph.byDepth, List.mem_mergeSort]
  constructor
  · rintro ⟨member, within⟩
    exact ⟨member, (normal.isWithin_iff (placed.normal each member)).mp within⟩
  · rintro ⟨member, around⟩
    exact ⟨member, (normal.isWithin_iff (placed.normal each member)).mpr around⟩

theorem foremost_of_find? {test : Module → Bool} {best : Module}
    (found : ((ModuleGraph.mk modules).around file).find? test = some best) :
    Foremost (fun each => (each ∈ modules ∧ each.Around file) ∧ test each = true) best := by
  have ordered := (List.pairwise_mergeSort ModuleGraph.deeperFirst_trans ModuleGraph.deeperFirst_total
    modules).filter fun each => isWithin (directoryOf file) each.directory
  have around := (placed.mem_around_iff normal).mp (List.mem_of_find?_eq_some found)
  refine ⟨⟨around, List.find?_some found⟩, ?_⟩
  rintro other ⟨around', passes⟩ different
  have first := precedes_of_find? ordered found other ((placed.mem_around_iff normal).mpr around')
    passes different
  exact (placed.deeperFirst_iff around.1 around'.1 different).mp first

theorem find?_around_iff {test : Module → Bool} {best : Module} :
    ((ModuleGraph.mk modules).around file).find? test = some best ↔
      Foremost (fun each => (each ∈ modules ∧ each.Around file) ∧ test each = true) best := by
  constructor
  · exact placed.foremost_of_find? normal
  · intro best
    have present := List.find?_isSome.mpr ⟨_, (placed.mem_around_iff normal).mpr best.1.1, best.1.2⟩
    obtain ⟨other, found⟩ := Option.isSome_iff_exists.mp present
    rw [best.eq (placed.foremost_of_find? normal found)]
    exact found

theorem find?_around_eq_none_iff {test : Module → Bool} :
    ((ModuleGraph.mk modules).around file).find? test = none ↔
      ∀ each, each ∈ modules ∧ each.Around file → ¬ test each = true := by
  rw [List.find?_eq_none]
  constructor
  · intro failing each around
    exact failing each ((placed.mem_around_iff normal).mpr around)
  · intro failing each member
    exact failing each ((placed.mem_around_iff normal).mp member)

omit normal in
theorem find?_declared_eq_none_iff :
    (ModuleGraph.mk modules).modules.find? (fun each => each.file == file) = none ↔
      ∀ each, each ∈ modules ∧ each.Around file → each.file ≠ file := by
  rw [ModuleGraph.modules_eq_declared placed.names, List.find?_eq_none]
  constructor
  · rintro absent each ⟨member, _⟩
    simpa using absent each member
  · intro absent each member same
    rw [beq_iff_eq] at same
    exact absent each ⟨member, same ▸ List.prefix_rfl⟩ same

theorem moduleForFile?_eq_some_iff {home : Module} :
    (ModuleGraph.mk modules).moduleForFile? file = some home ↔
      IsHome (fun each => each ∈ modules ∧ each.Around file) file home := by
  simp only [ModuleGraph.moduleForFile?_eq, Option.or_eq_some_iff, Option.or_eq_none_iff,
    placed.find?_declared_iff, placed.find?_declared_eq_none_iff, placed.find?_around_iff normal,
    placed.find?_around_eq_none_iff normal, Module.owns_iff, and_true]
  constructor
  · rintro ((⟨member, own⟩ | ⟨undeclared, foremost⟩) | ⟨⟨undeclared, unlisted⟩, foremost⟩)
    · exact .declared ⟨member, own ▸ List.prefix_rfl⟩ own
    · exact .listing undeclared foremost
    · exact .nearest undeclared unlisted foremost
  · rintro (⟨around, own⟩ | ⟨undeclared, foremost⟩ | ⟨undeclared, unlisted, foremost⟩)
    · exact Or.inl (Or.inl ⟨around.1, own⟩)
    · exact Or.inl (Or.inr ⟨undeclared, foremost⟩)
    · exact Or.inr ⟨⟨undeclared, unlisted⟩, foremost⟩

theorem moduleForFile?_eq_none_iff :
    (ModuleGraph.mk modules).moduleForFile? file = none ↔ ∀ each ∈ modules, ¬ each.Around file := by
  simp only [ModuleGraph.moduleForFile?_eq, Option.or_eq_none_iff, placed.find?_declared_eq_none_iff,
    placed.find?_around_eq_none_iff normal, not_true_eq_false]
  constructor
  · rintro ⟨_, nowhere⟩ each member around
    exact nowhere each ⟨member, around⟩
  · intro nowhere
    refine ⟨⟨?_, ?_⟩, ?_⟩ <;>
      exact fun each ⟨member, around⟩ => absurd around (nowhere each member)

theorem moduleForFile?_congr {others : List Module} (placed' : WellPlaced others)
    (same : ∀ each : Module, each.Around file → (each ∈ others ↔ each ∈ modules)) :
    (ModuleGraph.mk others).moduleForFile? file = (ModuleGraph.mk modules).moduleForFile? file := by
  have near : (fun each : Module => each ∈ others ∧ each.Around file) =
      fun each => each ∈ modules ∧ each.Around file := by
    funext each
    exact propext (and_congr_left (same each))
  ext home
  rw [placed.moduleForFile?_eq_some_iff normal, placed'.moduleForFile?_eq_some_iff normal, near]

omit normal in
theorem perm {others : List Module} (rearranged : others.Perm modules) : WellPlaced others where
  names := (rearranged.map Module.name).nodup_iff.mpr placed.names
  files := (rearranged.map Module.file).nodup_iff.mpr placed.files
  normal each member := placed.normal each (rearranged.mem_iff.mp member)

end WellPlaced

/-- A file belongs to the module that it declares; else, of the modules around it, to the foremost that
lists the class it holds by convention; else to the foremost of them; and to none just if no module is
around it. The order of the modules does not count, and neither do modules that are not around it. -/
theorem ModuleGraph.moduleForFile?_around {modules : List Module} (placed : WellPlaced modules)
    {file : String} (normal : Path.IsNormal file) :
    let found := (ModuleGraph.mk modules).moduleForFile? file
    (∀ home, found = some home ↔
      IsHome (fun each => each ∈ modules ∧ each.Around file) file home) ∧
      (found = none ↔ ∀ each ∈ modules, ¬ each.Around file) ∧
      (∀ others, others.Perm modules → (ModuleGraph.mk others).moduleForFile? file = found) ∧
      ∀ more others, WellPlaced others → others.Perm (modules ++ more) →
        (∀ each ∈ more, ¬ each.Around file) → (ModuleGraph.mk others).moduleForFile? file = found := by
  intro found
  refine ⟨?_, placed.moduleForFile?_eq_none_iff normal, ?_, ?_⟩
  · intro home
    exact placed.moduleForFile?_eq_some_iff normal
  · intro others rearranged
    apply placed.moduleForFile?_congr normal (placed.perm rearranged)
    intro each _
    exact rearranged.mem_iff
  · intro more others placed' extended elsewhere
    apply placed.moduleForFile?_congr normal placed'
    intro each around
    rw [extended.mem_iff, List.mem_append, or_iff_left_iff_imp]
    exact fun added => absurd around (elsewhere each added)

def nestedModules : List Module :=
  [⟨"AppModule", "/app.module.ts", [], [], [], []⟩,
   ⟨"UserModule", "/w/user/user.module.ts", [], [], ["UserService"], []⟩,
   ⟨"AdminModule", "/w/user/admin/admin.module.ts", [], [], [], []⟩,
   ⟨"UsersModule", "/w/users/users.module.ts", [], [], ["UserService"], []⟩]

theorem nestedModules_placed : WellPlaced nestedModules where
  names := by decide
  files := by decide
  normal := by
    simp only [nestedModules, List.forall_mem_cons, List.not_mem_nil, false_implies, implies_true,
      and_true]
    exact ⟨⟨["app.module.ts"], by decide, by decide⟩,
      ⟨["w", "user", "user.module.ts"], by decide, by decide⟩,
      ⟨["w", "user", "admin", "admin.module.ts"], by decide, by decide⟩,
      ⟨["w", "users", "users.module.ts"], by decide, by decide⟩⟩

/-- A service in the inner directory belongs to the outer module, which provides it, in whatever order the
modules are given. -/
theorem ModuleGraph.moduleForFile?_around_nestedModules :
    let file := "/w/user/admin/user.service.ts"
    let home : Module := ⟨"UserModule", "/w/user/user.module.ts", [], [], ["UserService"], []⟩
    WellPlaced nestedModules ∧ Path.IsNormal file ∧
      IsHome (fun each => each ∈ nestedModules ∧ each.Around file) file home ∧
      (ModuleGraph.mk nestedModules.reverse).moduleForFile? file = some home := by
  intro file home
  have placed := nestedModules_placed
  have normal : Path.IsNormal file :=
    ⟨["w", "user", "admin", "user.service.ts"], by decide, by decide⟩
  have undeclared : ∀ each ∈ nestedModules, each.file ≠ file := by decide
  have first : ∀ other ∈ nestedModules, other.Around file ∧ other.Lists file → other ≠ home →
      home.Precedes other := by decide
  have isHome : IsHome (fun each => each ∈ nestedModules ∧ each.Around file) file home := by
    refine .listing (fun each near => undeclared each near.1) ⟨by decide, ?_⟩
    rintro other ⟨⟨member, around⟩, lists⟩ different
    exact first other member ⟨around, lists⟩ different
  obtain ⟨characterized, _, rearranged, _⟩ := ModuleGraph.moduleForFile?_around placed normal
  refine ⟨placed, normal, isHome, ?_⟩
  rw [rearranged _ (List.reverse_perm _)]
  exact (characterized home).mpr isHome

end ModuleScope
