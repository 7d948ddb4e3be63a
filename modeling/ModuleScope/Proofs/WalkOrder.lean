import Mathlib
import ModuleScope.Proofs.SourceOrder

/-!
The walk over a tree, round by round. In each round the next pending site is visited and its named
children are put before the others, so what was visited and everything inside the pending sites make up
one sequence that no round changes. Every visited site has an address, the numbers of the named children
on the way down to it, and the addresses increase from one site to the next.
-/
namespace ModuleScope.TypeScript

/-- A walk under way: what was visited, and what is to be visited, the next site first. -/
structure Walk where
  visited : Array Site
  pending : List Site

namespace Walk

def round (walk : Walk) : Walk :=
  match walk.pending with
  | [] => walk
  | site :: pending => ⟨walk.visited.push site, site.namedChildren ++ pending⟩

def start (tree : Tree) : Walk := ⟨#[], [.root tree]⟩

def ahead (walk : Walk) : List Site := walk.pending.flatMap Site.sites

theorem ahead_cons (visited : Array Site) (site : Site) (pending : List Site) :
    (Walk.mk visited (site :: pending)).ahead =
      site :: (site.namedChildren ++ pending).flatMap Site.sites := by
  rw [ahead, List.flatMap_cons, site.sites_eq, List.cons_append, List.flatMap_append]

theorem ahead_start (tree : Tree) : (start tree).ahead = tree.walk := by
  rw [Tree.walk_eq_sites, ahead, start, List.flatMap_singleton]
  rfl

theorem pending_eq_nil_iff (walk : Walk) : walk.pending = [] ↔ walk.ahead = [] := by
  rcases walk with ⟨visited, _ | ⟨site, pending⟩⟩
  · simp [ahead]
  · simp [ahead_cons]

theorem ahead_round (walk : Walk) : walk.round.ahead = walk.ahead.tail := by
  rcases walk with ⟨visited, _ | ⟨site, pending⟩⟩
  · rfl
  · rw [ahead_cons]
    rfl

theorem visited_round (walk : Walk) :
    walk.round.visited.toList = walk.visited.toList ++ walk.ahead.take 1 := by
  rcases walk with ⟨visited, _ | ⟨site, pending⟩⟩
  · simp [round, ahead]
  · rw [ahead_cons]
    simp [round]

theorem ahead_rounds (walk : Walk) (rounds : Nat) :
    (round^[rounds] walk).ahead = walk.ahead.drop rounds := by
  induction rounds with
  | zero => rfl
  | succ rounds ih => rw [Function.iterate_succ_apply', ahead_round, ih, List.tail_drop]

theorem visited_rounds (walk : Walk) (rounds : Nat) :
    (round^[rounds] walk).visited.toList = walk.visited.toList ++ walk.ahead.take rounds := by
  induction rounds with
  | zero => simp
  | succ rounds ih =>
    rw [Function.iterate_succ_apply', visited_round, ih, ahead_rounds, List.append_assoc,
      List.take_add]

theorem pending_rounds (walk : Walk) (rounds : Nat) :
    (round^[rounds] walk).pending = [] ↔ walk.ahead.length ≤ rounds := by
  rw [pending_eq_nil_iff, ahead_rounds, List.drop_eq_nil_iff]

/-- No more rounds are left than there are nodes in the pending sites. -/
theorem length_ahead_le (walk : Walk) : walk.ahead.length ≤ pendingSize walk.pending := by
  rcases walk with ⟨visited, pending⟩
  -- The rounds are those of the walk itself, and each of them makes what is pending smaller.
  induction visited, pending using walkPending.induct with
  | case1 visited => exact Nat.zero_le _
  | case2 visited site pending ih =>
    have smaller := pendingSize_push site pending
    rw [ahead_cons, List.length_cons]
    exact Nat.succ_le_of_lt (ih.trans_lt smaller)

end Walk

/-- The site that an address leads to. An address gives the way down by numbers of named children. -/
def Site.follow (site : Site) : List Nat → Option Site
  | [] => some site
  | index :: address => site.namedChildren[index]?.bind fun child => child.follow address

def Tree.addresses : Tree → List (List Nat)
  | node _ _ _ children => [] :: inside 0 children
where
  inside (index : Nat) : List Tree → List (List Nat)
    | [] => []
    | child :: rest =>
      if child.isNamed then (addresses child).map (index :: ·) ++ inside (index + 1) rest
      else inside index rest

theorem Site.follow_cons {site : Site} {index : Nat} {child : Tree}
    (held : site.node.namedChildren[index]? = some child) (address : List Nat) :
    site.follow (index :: address) = (site.below child).follow address := by
  rw [follow, namedChildren, List.getElem?_map, held]
  rfl

theorem Site.named_of_follow {site inner : Site} {address : List Nat}
    (reached : site.follow address = some inner) : inner = site ∨ inner.node.isNamed = true := by
  induction address generalizing site with
  | nil => exact .inl (Option.some.inj reached).symm
  | cons index address ih =>
    obtain ⟨child, held, reached⟩ := Option.bind_eq_some_iff.mp reached
    rcases ih reached with rfl | named
    · obtain ⟨tree, direct, rfl⟩ := List.mem_map.mp (List.mem_of_getElem? held)
      exact .inr (List.mem_filter.mp direct).2
    · exact .inr named

namespace Tree

theorem addresses_inside (index : Nat) (children : List Tree) :
    addresses.inside index children =
      ((children.filter isNamed).zipIdx index).flatMap fun numbered =>
        numbered.1.addresses.map (numbered.2 :: ·) := by
  induction children generalizing index with
  | nil => rfl
  | cons child rest ih =>
    rw [addresses.inside]
    by_cases named : child.isNamed = true
    · rw [if_pos named, List.filter_cons_of_pos named, List.zipIdx_cons, List.flatMap_cons, ih]
    · rw [if_neg named, List.filter_cons_of_neg named, ih]

theorem addresses_eq (tree : Tree) :
    tree.addresses = [] :: tree.namedChildren.zipIdx.flatMap fun numbered =>
      numbered.1.addresses.map (numbered.2 :: ·) := by
  rcases tree with ⟨kind, label, span, children⟩
  rw [addresses, addresses_inside]
  rfl

theorem size_lt_of_getElem? {tree child : Tree} {index : Nat}
    (held : tree.namedChildren[index]? = some child) : child.size < tree.size :=
  size_lt_of_mem (List.mem_filter.mp (List.mem_of_getElem? held)).1

theorem cons_mem_addresses_iff {tree : Tree} {index : Nat} {address : List Nat} :
    index :: address ∈ tree.addresses ↔
      ∃ child, tree.namedChildren[index]? = some child ∧ address ∈ child.addresses := by
  rw [addresses_eq, List.mem_cons, or_iff_right (List.cons_ne_nil index address), List.mem_flatMap]
  constructor
  · rintro ⟨⟨child, number⟩, held, below⟩
    obtain ⟨rest, member, same⟩ := List.mem_map.mp below
    obtain ⟨rfl, rfl⟩ := List.cons.inj same
    exact ⟨child, List.mk_mem_zipIdx_iff_getElem?.mp held, member⟩
  · rintro ⟨child, held, member⟩
    exact ⟨(child, index), List.mk_mem_zipIdx_iff_getElem?.mpr held, List.mem_map_of_mem member⟩

theorem mem_addresses_iff {site : Site} {address : List Nat} :
    address ∈ site.node.addresses ↔ (site.follow address).isSome = true := by
  induction address generalizing site with
  | nil =>
    rw [addresses_eq]
    exact iff_of_true List.mem_cons_self rfl
  | cons index address ih =>
    rw [cons_mem_addresses_iff]
    cases held : site.node.namedChildren[index]? with
    | none => simp [Site.follow, Site.namedChildren, held]
    | some child =>
      rw [Site.follow_cons held, ← ih]
      simp [Site.below]

theorem addresses_increasing (tree : Tree) : tree.addresses.Pairwise (· < ·) := by
  induction size : tree.size using Nat.strong_induction_on generalizing tree with
  | _ bound ih =>
    rw [addresses_eq, List.pairwise_cons, List.pairwise_flatMap]
    refine ⟨?_, ?_, ?_⟩
    · intro address inside
      obtain ⟨numbered, _, below⟩ := List.mem_flatMap.mp inside
      obtain ⟨rest, _, rfl⟩ := List.mem_map.mp below
      exact List.nil_lt_cons _ _
    · intro numbered held
      have smaller := size_lt_of_getElem? (List.mem_zipIdx_iff_getElem?.mp held)
      rw [List.pairwise_map]
      apply (ih _ (size ▸ smaller) numbered.1 rfl).imp
      intro first second before
      exact List.cons_lt_cons_iff.mpr (.inr ⟨rfl, before⟩)
    · -- Whatever stands below, the address with the lower number at the front is less.
      have numbers : (tree.namedChildren.zipIdx.map Prod.snd).Pairwise (· < ·) := by
        rw [List.zipIdx_map_snd]
        exact List.pairwise_lt_range'
      apply (List.pairwise_map.mp numbers).imp
      intro left right lower first inLeft second inRight
      obtain ⟨_, _, rfl⟩ := List.mem_map.mp inLeft
      obtain ⟨_, _, rfl⟩ := List.mem_map.mp inRight
      exact List.cons_lt_cons_iff.mpr (.inl lower)

end Tree

theorem Site.map_follow_addresses (site : Site) :
    site.node.addresses.map site.follow = site.sites.map some := by
  induction size : site.node.size using Nat.strong_induction_on generalizing site with
  | _ bound ih =>
    have parts : ∀ numbered ∈ site.node.namedChildren.zipIdx,
        (numbered.1.addresses.map (numbered.2 :: ·)).map site.follow =
          (site.below numbered.1).sites.map some := by
      intro numbered held
      have child := List.mem_zipIdx_iff_getElem?.mp held
      have smaller := Tree.size_lt_of_getElem? child
      rw [← ih _ (size ▸ smaller) (site.below numbered.1) rfl, List.map_map]
      apply List.map_congr_left
      intro address _
      exact Site.follow_cons child address
    rw [Tree.addresses_eq, List.map_cons, List.map_flatMap, List.flatMap_congr parts, site.sites_eq,
      List.map_cons, List.map_flatMap, namedChildren, List.flatMap_map]
    nth_rewrite 2 [← List.zipIdx_map_fst 0 site.node.namedChildren]
    rw [List.flatMap_map]
    rfl

/-- The positions that a span takes up. One that holds no text stands at a position all the same. -/
def Span.positions (span : Span) : Set Nat := Set.Ico span.start (max span.stop (span.start + 1))

theorem Span.start_mem (span : Span) : span.start ∈ span.positions :=
  ⟨le_rfl, lt_max_of_lt_right span.start.lt_succ_self⟩

theorem Span.lt_of_disjoint {first second : Span} (ordered : first.start ≤ second.start)
    (disjoint : Disjoint first.positions second.positions) {position : Nat}
    (member : position ∈ first.positions) : position < second.start := by
  by_contra beyond
  have shared : second.start ∈ first.positions := ⟨ordered, (not_lt.mp beyond).trans_lt member.2⟩
  exact Set.disjoint_left.mp disjoint shared second.start_mem

namespace Tree

def leaves (tree : Tree) : List Site := tree.walk.filter fun site => site.namedChildren.isEmpty

theorem leaves_ordered {tree : Tree} (proper : tree.nested = true) :
    tree.leaves.Pairwise fun first second => first.span.stop ≤ second.span.start := by
  rw [leaves, walk_eq_sites, List.pairwise_filter]
  apply (sites_ordered (.root tree) proper).imp
  intro first second follows leaf _
  exact follows (List.isEmpty_iff.mp leaf)

theorem leaves_increasing {tree : Tree} (proper : tree.nested = true)
    (inhabited : ∀ leaf ∈ tree.leaves, leaf.span.start < leaf.span.stop) :
    tree.leaves.Pairwise fun first second => first.span.start < second.span.start := by
  apply (leaves_ordered proper).imp_of_mem
  intro first second visited _ apart
  exact (inhabited first visited).trans_le apart

/-- Spans as sets of positions: those of children lie within their parent's, and those of siblings are
ordered and disjoint. -/
structure Apart (tree : Tree) : Prop where
  within : ∀ node, tree.Holds node → ∀ child ∈ node.children, child.span.positions ⊆ node.span.positions
  siblings : ∀ node, tree.Holds node → node.children.Pairwise fun first second =>
    first.start ≤ second.start ∧ Disjoint first.span.positions second.span.positions

namespace Apart

variable {tree node : Tree} (apart : tree.Apart)
include apart

theorem of_mem_children {child : Tree} (member : child ∈ tree.children) : child.Apart :=
  ⟨fun node held => apart.within node (.inside member held),
    fun node held => apart.siblings node (.inside member held)⟩

theorem positions_subset (held : tree.Holds node) : node.span.positions ⊆ tree.span.positions := by
  induction held with
  | here tree => exact subset_rfl
  | inside member _ ih => exact (ih (apart.of_mem_children member)).trans (apart.within _ (.here _) _ member)

theorem of_holds (held : tree.Holds node) : node.Apart :=
  ⟨fun inner deeper => apart.within inner (held.trans deeper),
    fun inner deeper => apart.siblings inner (held.trans deeper)⟩

theorem leaves_increasing :
    tree.leaves.Pairwise fun first second => first.span.start < second.span.start := by
  rw [leaves, walk_eq_sites, List.pairwise_filter]
  apply (sites_pairwise (fun first second => first.start < second.start) (.root tree) ?_).imp
  · intro first second follows leaf _
    exact follows (List.isEmpty_iff.mp leaf)
  · intro node held
    have inner := apart.of_holds held
    apply (inner.siblings node (.here node)).imp_of_mem
    intro left right inLeft inRight follows first second ends begins
    -- Positions of siblings do not mix, so a part of the first one stands before any of the second.
    have early := (inner.of_mem_children inLeft).positions_subset ends first.span.start_mem
    have late := (inner.of_mem_children inRight).positions_subset begins second.span.start_mem
    exact (Span.lt_of_disjoint follows.1 follows.2 early).trans_le late.1

end Apart

theorem apart_of_nested {tree : Tree} (proper : tree.nested = true)
    (inhabited : ∀ node, tree.Holds node → node.start < node.stop) : tree.Apart := by
  have positions (node : Tree) (held : tree.Holds node) : node.span.positions = Set.Ico node.start node.stop :=
    congrArg (Set.Ico node.start) (max_eq_left (inhabited node held))
  refine ⟨fun node held child member => ?_, fun node held => ?_⟩
  · have follow := nestedFrom_children (held.within proper).1
    obtain ⟨_, after, before⟩ := of_mem_nestedFrom follow member
    rw [positions node held, positions child (held.trans (.inside member (.here child)))]
    exact Set.Ico_subset_Ico after before
  · have follow := nestedFrom_children (held.within proper).1
    apply (pairwise_of_nestedFrom follow).imp_of_mem
    intro first second inFirst inSecond ends
    have some := inhabited first (held.trans (.inside inFirst (.here first)))
    rw [positions first (held.trans (.inside inFirst (.here first))),
      positions second (held.trans (.inside inSecond (.here second)))]
    refine ⟨some.le.trans ends, ?_⟩
    rw [Set.Ico_disjoint_Ico]
    omega

theorem map_follow_walk (tree : Tree) :
    tree.walk.map some = tree.addresses.map (Site.root tree).follow := by
  rw [walk_eq_sites]
  exact (Site.root tree).map_follow_addresses.symm

theorem named_of_mem_walk {tree : Tree} {site : Site} (member : site ∈ tree.walk) :
    site = .root tree ∨ site.node.isNamed = true := by
  have visited : some site ∈ tree.walk.map some := List.mem_map_of_mem member
  rw [map_follow_walk] at visited
  obtain ⟨address, _, reached⟩ := List.mem_map.mp visited
  exact Site.named_of_follow reached

-- In nested spans a leaf without text may begin where the next leaf does.
example :
    let empty : Tree := .node .identifier none ⟨0, 0⟩ []
    let tree : Tree := .node .program none ⟨0, 1⟩ [empty, .node .identifier none ⟨0, 1⟩ []]
    tree.nested = true ∧ tree.leaves.map (·.span.start) = [0, 0] := by
  intro empty tree
  rw [leaves, tree.walk_eq_sites]
  decide

/-- The tree of `f(a)()`. The second pair of brackets holds tokens only. -/
def calls : Tree := .node .program none ⟨0, 6⟩ [outer]
where
  token (start : Nat) : Tree := .node .token none ⟨start, start + 1⟩ []
  given : Tree := .node .arguments (some .arguments) ⟨1, 4⟩
    [token 1, .node .identifier none ⟨2, 3⟩ [], token 3]
  inner : Tree := .node .callExpression (some .function) ⟨0, 4⟩
    [.node .identifier (some .function) ⟨0, 1⟩ [], given]
  outer : Tree := .node .callExpression none ⟨0, 6⟩
    [inner, .node .arguments (some .arguments) ⟨4, 6⟩ [token 4, token 5]]

end Tree

end ModuleScope.TypeScript
