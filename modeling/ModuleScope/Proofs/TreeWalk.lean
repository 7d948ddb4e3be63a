import Mathlib
import ModuleScope.TypeScript.Tree

/-!
The walk over a tree by recursion. The walk that keeps pending nodes visits a node, then everything
inside its named children from left to right.
-/
namespace ModuleScope.TypeScript

/-- The named nodes of a tree below others in source order, a node before what is inside it. -/
def Tree.sites : Tree → List Tree → List Site
  | node kind label span children, above =>
    ⟨node kind label span children, above⟩ ::
      inside children (node kind label span children :: above)
where
  inside : List Tree → List Tree → List Site
    | [], _ => []
    | child :: rest, above =>
      if child.isNamed then sites child above ++ inside rest above else inside rest above

def Site.sites (site : Site) : List Site := site.node.sites site.above

theorem Tree.inside_eq (children above : List Tree) :
    Tree.sites.inside children above =
      (children.filter Tree.isNamed).flatMap fun child => child.sites above := by
  induction children with
  | nil => rfl
  | cons child rest ih =>
    rw [Tree.sites.inside, ih]
    by_cases named : child.isNamed = true
    · rw [if_pos named, List.filter_cons_of_pos named, List.flatMap_cons]
    · rw [if_neg named, List.filter_cons_of_neg named]

theorem Site.sites_eq (site : Site) : site.sites = site :: site.namedChildren.flatMap Site.sites := by
  rcases site with ⟨⟨kind, label, span, children⟩, above⟩
  rw [Site.sites, Tree.sites, Tree.inside_eq, Site.namedChildren, List.flatMap_map]
  rfl

theorem walkPending_toList (visited : Array Site) (pending : List Site) :
    (walkPending visited pending).toList = visited.toList ++ pending.flatMap Site.sites := by
  fun_induction walkPending visited pending with
  | case1 visited => simp
  | case2 visited site pending ih =>
    rw [ih, Array.toList_push, List.flatMap_cons, site.sites_eq, List.flatMap_append]
    simp

theorem Tree.walk_eq_sites (tree : Tree) : tree.walk = tree.sites [] := by
  rw [Tree.walk, walkPending_toList]
  simp [Site.sites, Site.root]

end ModuleScope.TypeScript
