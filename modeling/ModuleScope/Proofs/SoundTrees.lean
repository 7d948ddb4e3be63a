import Mathlib
import ModuleScope.Code.Basic
import ModuleScope.Proofs.TreeWalk
import ModuleScope.Proofs.Utf8

/-!
What a tree is asked for where a statement speaks of the places of its nodes: that spans are nested, that
tokens and identifiers hold nothing, and that identifiers and names hold some text. Nothing in the program
checks it, so it is a hypothesis on trees, which may be computed for a given one.
-/
namespace ModuleScope.TypeScript

inductive Tree.Holds : Tree → Tree → Prop
  | here (tree : Tree) : Holds tree tree
  | inside {tree child node : Tree} (member : child ∈ tree.children) (rest : Holds child node) :
      Holds tree node

inductive Leads : Site → Site → Prop
  | here (site : Site) : Leads site site
  | down {site inner : Site} {child : Tree} (member : child ∈ site.node.children)
      (rest : Leads (site.below child) inner) : Leads site inner

namespace Tree

theorem size_eq (tree : Tree) : tree.size = 1 + total (tree.children.map size) := by
  cases tree
  rw [size, children]

theorem size_le_total {tree : Tree} {trees : List Tree} (member : tree ∈ trees) :
    tree.size ≤ total (trees.map size) := by
  induction trees with
  | nil => cases member
  | cons first rest ih =>
    rw [List.map_cons, total]
    rcases List.mem_cons.mp member with rfl | inside
    · exact Nat.le_add_right _ _
    · exact (ih inside).trans (Nat.le_add_left _ _)

theorem size_lt_of_mem {tree child : Tree} (member : child ∈ tree.children) : child.size < tree.size := by
  have bound := size_le_total member
  rw [size_eq tree]
  omega

end Tree

theorem leads_of_mem_sites {site inner : Site} (member : inner ∈ site.sites) : Leads site inner := by
  -- On the size of the tree, since a site is told by a node and the nodes above it.
  induction size : site.node.size using Nat.strong_induction_on generalizing site with
  | _ bound ih =>
    rw [Site.sites_eq] at member
    rcases List.mem_cons.mp member with rfl | deeper
    · exact .here inner
    · obtain ⟨_, direct, inside⟩ := List.mem_flatMap.mp deeper
      obtain ⟨child, named, rfl⟩ := List.mem_map.mp direct
      have held : child ∈ site.node.children := (List.mem_filter.mp named).1
      exact .down held (ih _ (size ▸ Tree.size_lt_of_mem held) inside rfl)

namespace Leads

theorem holds {site inner : Site} (leads : Leads site inner) : site.node.Holds inner.node := by
  induction leads with
  | here site => exact .here site.node
  | down member _ ih => exact .inside member ih

/-- What holds of a node only if it holds of its children holds all the way down. -/
theorem all_above {property : Tree → Prop} {site inner : Site} (leads : Leads site inner)
    (inherited : ∀ tree, property tree → ∀ child ∈ tree.children, property child)
    (start : ∀ node ∈ site.node :: site.above, property node) :
    ∀ node ∈ inner.node :: inner.above, property node := by
  induction leads with
  | here site => exact start
  | @down site inner child member rest ih =>
    refine ih fun node on => ?_
    rcases List.mem_cons.mp on with rfl | above
    · exact inherited site.node (start site.node (by simp)) _ member
    · exact start node above

end Leads

namespace Tree

/-- Whether spans are nested and siblings follow one another from `start` on, within `stop`. -/
def nested : Tree → Bool
  | node _ _ span children => span.start ≤ span.stop && nestedFrom span.start span.stop children
where
  nestedFrom (start stop : Nat) : List Tree → Bool
    | [] => start ≤ stop
    | child :: rest =>
      start ≤ child.start && child.nested && nestedFrom child.stop stop rest

section Spans

variable {start stop : Nat} {children : List Tree} {tree child : Tree} {span : Span}

theorem start_le_stop (proper : tree.nested = true) : tree.start ≤ tree.stop := by
  cases tree
  simp only [nested, Bool.and_eq_true, decide_eq_true_eq] at proper
  exact proper.1

theorem le_of_nestedFrom (follow : nested.nestedFrom start stop children = true) : start ≤ stop := by
  induction children generalizing start with
  | nil => simpa [nested.nestedFrom] using follow
  | cons first rest ih =>
    simp only [nested.nestedFrom, Bool.and_eq_true, decide_eq_true_eq] at follow
    obtain ⟨⟨begins, proper⟩, others⟩ := follow
    exact (begins.trans (start_le_stop proper)).trans (ih others)

theorem of_mem_nestedFrom (follow : nested.nestedFrom start stop children = true)
    (member : child ∈ children) :
    child.nested = true ∧ start ≤ child.start ∧ child.stop ≤ stop := by
  induction children generalizing start with
  | nil => cases member
  | cons first rest ih =>
    simp only [nested.nestedFrom, Bool.and_eq_true, decide_eq_true_eq] at follow
    obtain ⟨⟨begins, proper⟩, others⟩ := follow
    rcases List.mem_cons.mp member with rfl | inside
    · exact ⟨proper, begins, le_of_nestedFrom others⟩
    · obtain ⟨deeper, after, before⟩ := ih others inside
      exact ⟨deeper, (begins.trans (start_le_stop proper)).trans after, before⟩

theorem nestedFrom_children (proper : tree.nested = true) :
    nested.nestedFrom tree.start tree.stop tree.children = true := by
  cases tree
  simp only [nested, Bool.and_eq_true] at proper
  exact proper.2

theorem covers_iff {outer inner : Span} :
    outer.covers inner = true ↔ outer.start ≤ inner.start ∧ inner.stop ≤ outer.stop := by
  simp [Span.covers]

theorem Holds.trans {first second third : Tree} (held : first.Holds second)
    (deeper : second.Holds third) : first.Holds third := by
  induction held with
  | here tree => exact deeper
  | inside member _ ih => exact .inside member (ih deeper)

theorem Holds.within {node : Tree} (held : tree.Holds node) (proper : tree.nested = true) :
    node.nested = true ∧ tree.span.covers node.span = true := by
  induction held with
  | here tree => exact ⟨proper, by simp [Span.covers]⟩
  | inside member rest ih =>
    obtain ⟨nested, after, before⟩ := of_mem_nestedFrom (nestedFrom_children proper) member
    obtain ⟨deeper, covers⟩ := ih nested
    refine ⟨deeper, ?_⟩
    rw [covers_iff] at covers ⊢
    exact ⟨after.trans covers.1, covers.2.trans before⟩

end Spans

def all (test : Tree → Bool) : Tree → Bool
  | node kind label span children => test (node kind label span children) && among children
where
  among : List Tree → Bool
    | [] => true
    | child :: rest => child.all test && among rest

section All

variable {test : Tree → Bool} {tree : Tree}

theorem among_iff {children : List Tree} :
    all.among test children = true ↔ ∀ child ∈ children, child.all test = true := by
  induction children with
  | nil => simp [all.among]
  | cons child rest ih => rw [all.among, Bool.and_eq_true, ih, List.forall_mem_cons]

theorem all_eq : tree.all test = true ↔
    test tree = true ∧ ∀ child ∈ tree.children, child.all test = true := by
  cases tree with
  | node kind label span children => rw [all, Bool.and_eq_true, among_iff, Tree.children]

theorem all_iff : tree.all test = true ↔ ∀ node, tree.Holds node → test node = true := by
  constructor
  · intro passes node held
    induction held with
    | here tree => exact (all_eq.mp passes).1
    | inside member _ ih => exact ih ((all_eq.mp passes).2 _ member)
  · intro passes
    induction size : tree.size using Nat.strong_induction_on generalizing tree with
    | _ bound ih =>
      refine all_eq.mpr ⟨passes tree (.here tree), ?_⟩
      intro child member
      exact ih _ (size ▸ size_lt_of_mem member) (fun node held => passes node (.inside member held)) rfl

end All

/-- Spans are nested, tokens and identifiers hold nothing, and identifiers and names hold some text. -/
structure Sound (tree : Tree) : Prop where
  nested : tree.nested = true
  leaf : ∀ node, tree.Holds node → node.kind = .token ∨ node.kind.isIdentifier = true →
    node.children = []
  inhabited : ∀ node, tree.Holds node → node.kind.isIdentifier = true ∨ node.label = some .name →
    node.start < node.stop

namespace Sound

variable {tree child : Tree}

theorem of_mem_children (sound : tree.Sound) (member : child ∈ tree.children) : child.Sound where
  nested := (of_mem_nestedFrom (nestedFrom_children sound.nested) member).1
  leaf node held := sound.leaf node (.inside member held)
  inhabited node held := sound.inhabited node (.inside member held)

end Sound

theorem sound_iff {tree : Tree} : tree.Sound ↔
    tree.nested = true ∧ tree.all (fun node =>
      (!(node.kind == .token || node.kind.isIdentifier) || node.children.isEmpty) &&
        (!(node.kind.isIdentifier || node.label == some .name) || node.start < node.stop)) = true := by
  simp only [all_iff, Bool.and_eq_true, Bool.or_eq_true, Bool.not_eq_true', Bool.or_eq_false_iff,
    List.isEmpty_iff, decide_eq_true_eq]
  constructor
  · intro sound
    refine ⟨sound.nested, fun node held => ⟨?_, ?_⟩⟩
    · by_cases closed : node.kind = .token ∨ node.kind.isIdentifier = true
      · exact Or.inr (sound.leaf node held closed)
      · exact Or.inl (by simpa using closed)
    · by_cases named : node.kind.isIdentifier = true ∨ node.label = some .name
      · exact Or.inr (sound.inhabited node held named)
      · exact Or.inl (by simpa using named)
  · rintro ⟨nested, passes⟩
    refine ⟨nested, fun node held closed => ?_, fun node held named => ?_⟩
    · refine (passes node held).1.resolve_left ?_
      rintro ⟨token, identifier⟩
      simp_all
    · refine (passes node held).2.resolve_left ?_
      rintro ⟨identifier, label⟩
      simp_all

instance (tree : Tree) : Decidable tree.Sound := decidable_of_iff _ sound_iff.symm

theorem span_insertLeaf (leaf tree : Tree) : (insertLeaf leaf tree).span = tree.span := by
  cases tree
  rfl

theorem span_insertComments (comments : List Span) (tree : Tree) :
    (insertComments comments tree).span = tree.span := by
  induction comments generalizing tree with
  | nil => rfl
  | cons comment rest ih =>
    rw [insertComments, List.foldl_cons, ← insertComments, ih, span_insertLeaf]

end Tree

theorem byteLength_eq (text : List Char) :
    byteLength text = (Text.Utf8.encode text).length := by
  have counted (count : Nat) (rest : List Char) :
      rest.foldl (fun total c => total + c.utf8Size) count =
        count + (Text.Utf8.encode rest).length := by
    induction rest generalizing count with
    | nil => rfl
    | cons c others ih =>
      rw [List.foldl_cons, ih, Text.Utf8.encode_cons, List.length_append,
        String.length_utf8EncodeChar, Nat.add_assoc]
  rw [byteLength, counted, Nat.zero_add]

theorem parse_span (dialect : Dialect) (text : List Char) :
    (parse dialect text).span = ⟨0, (Text.Utf8.encode text).length⟩ := by
  rw [← byteLength_eq, parse]
  split
  · rfl
  · exact Tree.span_insertComments _ _

namespace Leads

variable {site inner : Site}

theorem within (leads : Leads site inner) (proper : site.node.nested = true) :
    inner.node.nested = true ∧ site.span.covers inner.span = true :=
  leads.holds.within proper

end Leads

end ModuleScope.TypeScript

namespace ModuleScope

open TypeScript

/-- A property of all code that a host hands out. -/
def Host.Gives (host : Host) (property : Code → Prop) : Prop :=
  ∀ path document code, host.openDocument path = .ok document → document.code? = some code →
    property code

theorem Document.code?_eq {document : Document} {code : Code} (parsed : document.code? = some code) :
    code.document = document ∧ code.tree.stop = document.source.length := by
  obtain ⟨dialect, _, rfl⟩ := Option.map_eq_some_iff.mp parsed
  refine ⟨rfl, ?_⟩
  rw [Tree.stop, parse_span, document.source_eq]

theorem Document.code?_ofText {path : String} {dialect : Dialect}
    (written : dialectOf path = some dialect) (text : String) :
    (Document.ofText path text).code? = some ⟨.ofText path text, parse dialect text.toList⟩ := by
  have same : (Document.ofText path text).path = path := rfl
  rw [Document.code?, same, written]
  rfl

namespace Code

variable {code : Code}

theorem walk_eq (code : Code) : code.walk = code.tree.sites [] := by
  rw [walk, Tree.walk_eq_sites]

theorem leads_of_mem_walk {site : Site} (member : site ∈ code.walk) : Leads (.root code.tree) site := by
  rw [code.walk_eq] at member
  exact leads_of_mem_sites member

/-- A sound tree that ends within the text of a document. -/
structure Fits (code : Code) (node : Tree) : Prop where
  sound : node.Sound
  bounded : node.stop ≤ code.document.source.length

theorem Fits.of_mem_children {node child : Tree} (fits : code.Fits node)
    (member : child ∈ node.children) : code.Fits child where
  sound := fits.sound.of_mem_children member
  bounded := (Tree.of_mem_nestedFrom (Tree.nestedFrom_children fits.sound.nested) member).2.2.trans
    fits.bounded

section Parsed

variable (parsed : code.document.code? = some code)
include parsed

theorem stop_le_of_holds (proper : code.tree.nested = true) {node : Tree}
    (held : code.tree.Holds node) : node.stop ≤ code.document.source.length := by
  have covers := Tree.covers_iff.mp (held.within proper).2
  rw [← (Document.code?_eq parsed).2]
  exact covers.2

theorem fits_of_leads (sound : code.tree.Sound) {site : Site} (leads : Leads (.root code.tree) site) :
    ∀ node ∈ site.node :: site.above, code.Fits node := by
  refine leads.all_above (fun parent fits child => fits.of_mem_children) fun node on => ?_
  obtain rfl : node = code.tree := by simpa [Site.root] using on
  exact ⟨sound, (Document.code?_eq parsed).2.le⟩

end Parsed

end Code

end ModuleScope
