import Mathlib
import ModuleScope.Proofs.Occurrences
import ModuleScope.Proofs.Positions

/-!
Usages come in source order. In a sound tree everything that the walk visits after a leaf begins after the
leaf's end, and identifiers are leaves that hold some text. So the identifiers that spell a symbol are met
in the order of their positions, and two of them never start at one position.
-/
namespace ModuleScope

open TypeScript Text Utf8

theorem Position.lt_irrefl (position : Position) : ¬ position < position := by
  intro before
  change (_ < _ ∨ _ = _ ∧ _ < _) at before
  omega

namespace TypeScript

theorem Tree.pairwise_of_nestedFrom {start stop : Nat} {children : List Tree}
    (follow : nested.nestedFrom start stop children = true) :
    children.Pairwise fun first second => first.stop ≤ second.start := by
  induction children generalizing start with
  | nil => exact .nil
  | cons first rest ih =>
    simp only [nested.nestedFrom, Bool.and_eq_true] at follow
    refine .cons ?_ (ih follow.2)
    intro second member
    exact (of_mem_nestedFrom follow.2 member).2.1

theorem Site.namedChildren_eq_nil {site : Site} (leaf : site.node.children = []) :
    site.namedChildren = [] := by
  simp [namedChildren, Tree.namedChildren, leaf]

/-- What holds between all parts of two siblings holds between a node without named children and whatever
is visited after it. -/
theorem sites_pairwise (before : Tree → Tree → Prop) (site : Site)
    (siblings : ∀ node, site.node.Holds node → node.children.Pairwise fun left right =>
      ∀ first second, left.Holds first → right.Holds second → before first second) :
    site.sites.Pairwise fun first second => first.namedChildren = [] → before first.node second.node := by
  induction size : site.node.size using Nat.strong_induction_on generalizing site with
  | _ bound ih =>
    rw [Site.sites_eq, List.pairwise_cons, List.pairwise_flatMap]
    refine ⟨?_, ?_, ?_⟩
    · intro second inside leaf
      rw [leaf] at inside
      cases inside
    · intro inner direct
      obtain ⟨child, named, rfl⟩ := List.mem_map.mp direct
      have member : child ∈ site.node.children := (List.mem_filter.mp named).1
      refine ih _ (size ▸ Tree.size_lt_of_mem member) _ (fun node held => ?_) rfl
      exact siblings node (.inside member held)
    · rw [Site.namedChildren, List.pairwise_map]
      apply ((siblings _ (.here _)).filter Tree.isNamed).imp
      intro left right apart first inLeft second inRight _
      exact apart _ _ (leads_of_mem_sites inLeft).holds (leads_of_mem_sites inRight).holds

theorem sites_ordered (site : Site) (proper : site.node.nested = true) :
    site.sites.Pairwise fun first second =>
      first.namedChildren = [] → first.span.stop ≤ second.span.start := by
  apply sites_pairwise (fun first second => first.stop ≤ second.start)
  intro node held
  have follow := Tree.nestedFrom_children (held.within proper).1
  apply (Tree.pairwise_of_nestedFrom follow).imp_of_mem
  -- What lies inside a child ends with it, and what lies inside a later one begins with that one.
  intro left right inLeft inRight apart first second ends begins
  have leftSpan := Tree.covers_iff.mp (ends.within (Tree.of_mem_nestedFrom follow inLeft).1).2
  have rightSpan := Tree.covers_iff.mp (begins.within (Tree.of_mem_nestedFrom follow inRight).1).2
  exact (leftSpan.2.trans apart).trans rightSpan.1

/-- The walk misses no named node, since tokens hold nothing. -/
theorem mem_sites_of_leads {site inner : Site} (leads : Leads site inner) (sound : site.node.Sound)
    (named : inner.node.isNamed = true) : inner ∈ site.sites := by
  induction leads with
  | here site =>
    rw [Site.sites_eq]
    exact List.mem_cons_self
  | @down site inner child member rest ih =>
    have inside := sound.of_mem_children member
    have visited : child.isNamed = true := by
      by_contra hidden
      have token : child.kind = .token := by simpa [Tree.isNamed] using hidden
      have leaf := inside.leaf child (.here child) (Or.inl token)
      cases rest with
      | here => exact hidden named
      | down below _ =>
        change _ ∈ child.children at below
        rw [leaf] at below
        cases below
    rw [Site.sites_eq]
    apply List.mem_cons_of_mem
    have direct : site.below child ∈ site.namedChildren :=
      List.mem_map_of_mem (List.mem_filter.mpr ⟨member, visited⟩)
    exact List.mem_flatMap.mpr ⟨_, direct, ih inside named⟩

end TypeScript

namespace Code

/-- An identifier somewhere in the tree has a symbol as its text. -/
structure Spells (code : Code) (symbol : String) (site : Site) : Prop where
  leads : Leads (.root code.tree) site
  identifier : site.kind.isIdentifier = true
  bytes : code.bytesOf site.node = encode symbol.toList

variable {code : Code} {symbol : String}

theorem Mentions.spells {container : Option String} {site : Site}
    (mentions : code.Mentions symbol container site) : code.Spells symbol site :=
  ⟨code.leads_of_mem_walk mentions.member, mentions.identifier, mentions.bytes⟩

namespace Spells

variable {site : Site} (spells : code.Spells symbol site)
include spells

theorem mem_walk (sound : code.tree.Sound) : site ∈ code.walk := by
  have named : site.node.isNamed = true := by
    have identifier := spells.identifier
    rw [Tree.isNamed, bne_iff_ne]
    intro token
    rw [Site.kind, token] at identifier
    cases identifier
  rw [code.walk_eq]
  exact mem_sites_of_leads spells.leads sound named

theorem leaf (sound : code.tree.Sound) : site.node.children = [] :=
  sound.leaf site.node spells.leads.holds (Or.inr spells.identifier)

theorem inhabited (sound : code.tree.Sound) : site.span.start < site.span.stop :=
  sound.inhabited site.node spells.leads.holds (Or.inl spells.identifier)

variable (parsed : code.document.code? = some code) (sound : code.tree.Sound)
include parsed sound

theorem symbol_ne_nil : symbol.toList ≠ [] := by
  have bounded : site.span.stop ≤ code.document.source.length :=
    stop_le_of_holds parsed sound.nested spells.leads.holds
  have inhabited := spells.inhabited sound
  have bytes : code.document.slice site.span.start site.span.stop = encode symbol.toList := spells.bytes
  intro empty
  have length := congrArg List.length bytes
  rw [empty, Document.slice, List.length_take, List.length_drop, encode_nil, List.length_nil] at length
  omega

theorem boundary : code.document.Boundary site.node.start :=
  Document.boundary_of_slice (spells.symbol_ne_nil parsed sound) spells.bytes

end Spells

theorem spelled_ordered (parsed : code.document.code? = some code) (sound : code.tree.Sound) :
    code.walk.Pairwise fun first second =>
      ∀ symbol symbol', code.Spells symbol first → code.Spells symbol' second →
        (code.rangeOf first.node).start < (code.rangeOf second.node).start := by
  have ordered := sites_ordered (.root code.tree) sound.nested
  rw [code.walk_eq]
  apply ordered.imp
  intro first second follows symbol symbol' spells spells'
  have later : first.node.start < second.node.start :=
    (spells.inhabited sound).trans_le (follows (Site.namedChildren_eq_nil (spells.leaf sound)))
  exact (spells.boundary parsed sound).positionAt_lt (spells'.boundary parsed sound) later

theorem Spells.eq_of_start {symbol' : String} {site other : Site} (spells : code.Spells symbol site)
    (spells' : code.Spells symbol' other) (parsed : code.document.code? = some code)
    (sound : code.tree.Sound)
    (same : (code.rangeOf site.node).start = (code.rangeOf other.node).start) : site = other := by
  let Apart (first second : Site) : Prop := ∀ name name', code.Spells name first →
    code.Spells name' second → (code.rangeOf first.node).start ≠ (code.rangeOf second.node).start
  have apart : code.walk.Pairwise Apart := by
    apply (spelled_ordered parsed sound).imp
    intro first second before name name' spells spells' equal
    have position := before name name' spells spells'
    rw [equal] at position
    exact Position.lt_irrefl _ position
  have symmetric : Std.Symm Apart := by
    constructor
    intro first second distinct name name' spells spells' equal
    exact distinct name' name spells' spells equal.symm
  by_contra different
  exact apart.forall (spells.mem_walk sound) (spells'.mem_walk sound) different symbol symbol' spells
    spells' same

end Code

/-- What a search in a document reports has increasing positions. -/
theorem Document.usages_ordered {document : Document}
    (sound : ∀ code, document.code? = some code → code.tree.Sound) (symbol : String)
    (container moduleName : Option String) :
    (document.usages symbol container moduleName).Pairwise fun first second =>
      first.range.start < second.range.start := by
  unfold Document.usages
  split
  · split
    · next code parsed =>
      obtain ⟨rfl, _⟩ := document.code?_eq parsed
      have ordered := Code.spelled_ordered parsed (sound code parsed)
      rw [Code.occurrences, List.pairwise_map, List.pairwise_filter]
      apply ordered.imp_of_mem
      intro first second walked walked' before kept kept'
      simp only [Bool.and_eq_true, beq_iff_eq] at kept kept'
      obtain ⟨⟨⟨identifier, bytes⟩, _⟩, _⟩ := kept
      obtain ⟨⟨⟨identifier', bytes'⟩, _⟩, _⟩ := kept'
      exact before symbol symbol ⟨code.leads_of_mem_walk walked, identifier, bytes⟩
        ⟨code.leads_of_mem_walk walked', identifier', bytes'⟩
    · exact .nil
  · exact .nil

end ModuleScope
