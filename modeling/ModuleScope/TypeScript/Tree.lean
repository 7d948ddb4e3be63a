import ModuleScope.TypeScript.Kind

/-!
Syntax trees over byte spans. A node knows the label under which its parent holds it; a `Site` is a
node together with the nodes above it, so that questions about parents need no links inside the tree.
-/
namespace ModuleScope.TypeScript

def total : List Nat → Nat
  | [] => 0
  | count :: counts => count + total counts

theorem total_append (counts more : List Nat) : total (counts ++ more) = total counts + total more := by
  induction counts with
  | nil => simp [total]
  | cons count counts ih => simp [total, ih, Nat.add_assoc]

structure Span where
  start : Nat
  stop : Nat
deriving DecidableEq, Repr

namespace Span

def covers (outer inner : Span) : Bool :=
  outer.start ≤ inner.start && inner.stop ≤ outer.stop

end Span

/-- A syntax node: its kind, the label its parent gives it, its span and its children in source
order, unnamed tokens included. -/
inductive Tree where
  | node (kind : Kind) (label : Option Label) (span : Span) (children : List Tree)
deriving Repr

namespace Tree

def kind : Tree → Kind
  | node kind _ _ _ => kind

def label : Tree → Option Label
  | node _ label _ _ => label

def span : Tree → Span
  | node _ _ span _ => span

def children : Tree → List Tree
  | node _ _ _ children => children

def start (tree : Tree) : Nat := tree.span.start

def stop (tree : Tree) : Nat := tree.span.stop

def withKind (kind : Kind) : Tree → Tree
  | node _ label span children => node kind label span children

def withLabel (label : Label) : Tree → Tree
  | node kind _ span children => node kind (some label) span children

def isNamed (tree : Tree) : Bool := tree.kind != .token

def namedChildren (tree : Tree) : List Tree := tree.children.filter isNamed

def child? (tree : Tree) (label : Label) : Option Tree :=
  tree.children.find? fun child => child.label == some label

/-- Two nodes of one tree are taken for the same when kind and span agree. -/
def sameNode (left right : Tree) : Bool :=
  left.span == right.span && left.kind == right.kind

def holds (tree : Tree) (label : Label) (node : Tree) : Bool :=
  match tree.child? label with
  | some child => child.sameNode node
  | none => false

def size : Tree → Nat
  | node _ _ _ children => 1 + total (children.map size)

end Tree

/-- A node and the nodes above it, nearest first. -/
structure Site where
  node : Tree
  above : List Tree
deriving Repr

namespace Site

def root (tree : Tree) : Site := ⟨tree, []⟩

def kind (site : Site) : Kind := site.node.kind

def span (site : Site) : Span := site.node.span

def parent? (site : Site) : Option Site :=
  match site.above with
  | [] => none
  | parent :: above => some ⟨parent, above⟩

def below (site : Site) (child : Tree) : Site := ⟨child, site.node :: site.above⟩

def namedChildren (site : Site) : List Site := site.node.namedChildren.map site.below

def child? (site : Site) (label : Label) : Option Site := (site.node.child? label).map site.below

def enclosingClass? (site : Site) : Option Site :=
  go site.above
where
  go : List Tree → Option Site
    | [] => none
    | node :: above => if node.kind.isClass then some ⟨node, above⟩ else go above

end Site

def pendingSize (pending : List Site) : Nat :=
  total (pending.map fun site => site.node.size)

private theorem total_size_filter_le (keep : Tree → Bool) (trees : List Tree) :
    total ((trees.filter keep).map Tree.size) ≤ total (trees.map Tree.size) := by
  induction trees with
  | nil => simp
  | cons tree trees ih =>
    by_cases kept : keep tree <;> simp [kept, total] <;> omega

theorem pendingSize_push (site : Site) (pending : List Site) :
    pendingSize (site.namedChildren ++ pending) < pendingSize (site :: pending) := by
  have parts : (site.namedChildren.map fun inner => inner.node.size) =
      (site.node.namedChildren.map Tree.size) := by
    simp [Site.namedChildren, Site.below, Function.comp_def]
  have smaller := total_size_filter_le Tree.isNamed site.node.children
  have whole : site.node.size = 1 + total (site.node.children.map Tree.size) := by
    cases site.node with
    | node kind label span children => simp [Tree.size, Tree.children]
  simp only [pendingSize, List.map_append, total_append, List.map_cons, total, parts,
    Tree.namedChildren]
  omega

/-- Visits pending sites depth first, leftmost first, pushing the named children of each. -/
def walkPending (visited : Array Site) : List Site → Array Site
  | [] => visited
  | site :: pending => walkPending (visited.push site) (site.namedChildren ++ pending)
termination_by pending => pendingSize pending
decreasing_by exact pendingSize_push site pending

/-- The named nodes of a tree in source order, a node before what is inside it. -/
def Tree.walk (tree : Tree) : List Site := (walkPending #[] [Site.root tree]).toList

namespace Tree

/-- The deepest node whose span covers a byte range, the node itself included when nothing inside
it does. -/
def deepestCovering (span : Span) : Tree → List Tree → Option Site
  | node kind label whole children, above =>
    if whole.covers span then
      match inChildren children (node kind label whole children :: above) with
      | some site => some site
      | none => some ⟨node kind label whole children, above⟩
    else none
where
  inChildren : List Tree → List Tree → Option Site
    | [], _ => none
    | child :: rest, above =>
      match deepestCovering span child above with
      | some site => some site
      | none => inChildren rest above

end Tree

/-- The first identifier on the way up from a node, as long as every node passed has exactly the
given span. -/
def climbToIdentifier (span : Span) : List Tree → Option Site
  | [] => none
  | node :: above =>
    if node.span != span then none
    else if node.kind.isIdentifier then some ⟨node, above⟩
    else climbToIdentifier span above

def Tree.identifierAt (tree : Tree) (span : Span) : Option Site :=
  (tree.deepestCovering span []).bind fun site => climbToIdentifier span (site.node :: site.above)

end ModuleScope.TypeScript
