import Mathlib
import ModuleScope.Proofs.CursorWords
import ModuleScope.Proofs.Positions

/-!
From a cursor to a node, for any tree over a document whose spans are nested. The way down to the
deepest node that covers some bytes passes every node that has just these bytes, and the nodes between
such a node and the deepest one have them too; so the way up finds an identifier among them if there is
one, also when the deepest node is a token inside it.
-/
namespace ModuleScope

namespace TypeScript

theorem Span.covers_trans {outer middle inner : Span} (first : outer.covers middle = true)
    (second : middle.covers inner = true) : outer.covers inner = true := by
  rw [Tree.covers_iff] at *
  omega

theorem Span.covers_antisymm {left right : Span} (covers : left.covers right = true)
    (covered : right.covers left = true) : left = right := by
  cases left
  cases right
  simp only [Tree.covers_iff] at covers covered
  rw [Span.mk.injEq]
  omega

structure Tree.IdentifierOver (tree : Tree) (span : Span) (site : Site) : Prop where
  leads : Leads (.root tree) site
  identifier : site.kind.isIdentifier = true
  exact : site.span = span

theorem Tree.exists_of_inChildren {span : Span} {children above : List Tree} {found : Site}
    (looked : deepestCovering.inChildren span children above = some found) :
    ∃ child ∈ children, child.deepestCovering span above = some found := by
  induction children with
  | nil => cases looked
  | cons first rest ih =>
    rw [deepestCovering.inChildren] at looked
    split at looked
    · next inside =>
      exact ⟨first, by simp, inside.trans looked⟩
    · obtain ⟨child, member, inside⟩ := ih looked
      exact ⟨child, List.mem_cons_of_mem first member, inside⟩

theorem leads_of_deepestCovering {span : Span} {site found : Site}
    (looked : site.node.deepestCovering span site.above = some found) :
    Leads site found ∧ found.span.covers span = true := by
  induction size : site.node.size using Nat.strong_induction_on generalizing site with
  | _ bound ih =>
    by_cases covers : site.node.span.covers span = true
    · rw [Tree.deepestCovering_eq covers, Option.some.injEq] at looked
      cases inner : Tree.deepestCovering.inChildren span site.node.children (site.node :: site.above) with
      | none =>
        rw [inner, Option.getD_none] at looked
        subst looked
        exact ⟨.here site, covers⟩
      | some deeper =>
        rw [inner, Option.getD_some] at looked
        subst looked
        obtain ⟨child, member, inside⟩ := Tree.exists_of_inChildren inner
        obtain ⟨leads, covered⟩ := @ih _ (size ▸ Tree.size_lt_of_mem member) (site.below child) inside rfl
        exact ⟨.down member leads, covered⟩
    · rw [Tree.deepestCovering_eq_none covers] at looked
      cases looked

section Climb

variable {span : Span} {found : Site} {nodes passed above : List Tree} {node : Tree}

theorem climbToIdentifier_eq_some (climbed : climbToIdentifier span nodes = some found) :
    found.kind.isIdentifier = true ∧ found.span = span ∧
      ∃ passed, nodes = passed ++ found.node :: found.above := by
  induction nodes with
  | nil => cases climbed
  | cons node above ih =>
    rw [climbToIdentifier] at climbed
    split_ifs at climbed with other identifier
    · obtain rfl := Option.some.inj climbed
      have exact : node.span = span := by simpa using other
      exact ⟨identifier, exact, [], rfl⟩
    · obtain ⟨named, exact, passed, rfl⟩ := ih climbed
      exact ⟨named, exact, node :: passed, rfl⟩

theorem climbToIdentifier_isSome (same : ∀ each ∈ passed, each.span = span) (exact : node.span = span)
    (identifier : node.kind.isIdentifier = true) :
    (climbToIdentifier span (passed ++ node :: above)).isSome = true := by
  induction passed with
  | nil => simp [climbToIdentifier, exact, identifier]
  | cons first rest ih =>
    have reached := ih fun each member => same each (List.mem_cons_of_mem first member)
    have here := same first (by simp)
    rw [List.cons_append, climbToIdentifier, if_neg (by simp [here])]
    split
    · rfl
    · exact reached

end Climb

namespace Leads

variable {site inner : Site}

/-- What lies above a site is below the start of the way to it, or above that start. -/
theorem of_above (leads : Leads site inner) {passed above : List Tree} {node : Tree}
    (path : inner.node :: inner.above = passed ++ node :: above) :
    Leads site ⟨node, above⟩ ∨ ∃ passed, site.above = passed ++ node :: above := by
  induction leads with
  | here site =>
    cases passed with
    | nil =>
      obtain ⟨rfl, rfl⟩ := List.cons.inj path
      exact Or.inl (.here site)
    | cons first rest => exact Or.inr ⟨rest, (List.cons.inj path).2⟩
  | @down site inner child member rest ih =>
    rcases ih path with below | ⟨passed, path⟩
    · exact Or.inl (.down member below)
    · cases passed with
      | nil =>
        obtain ⟨rfl, rfl⟩ := List.cons.inj path
        exact Or.inl (.here site)
      | cons first rest => exact Or.inr ⟨rest, (List.cons.inj path).2⟩

/-- The nodes between a site and one below it that covers it all have the span of the site. -/
theorem exists_passed (leads : Leads site inner) (proper : site.node.nested = true)
    (covers : inner.span.covers site.span = true) :
    ∃ passed, inner.node :: inner.above = passed ++ site.node :: site.above ∧
      ∀ each ∈ passed, each.span = site.span := by
  induction leads with
  | here site => exact ⟨[], rfl, by simp⟩
  | @down site inner child member rest ih =>
    obtain ⟨nested, after, before⟩ := Tree.of_mem_nestedFrom (Tree.nestedFrom_children proper) member
    have inside : child.span.covers inner.span = true := (rest.within nested).2
    have held : site.span.covers child.span = true := Tree.covers_iff.mpr ⟨after, before⟩
    have same : (site.below child).span = site.span :=
      Span.covers_antisymm (Span.covers_trans inside covers) held
    rw [← same] at covers
    obtain ⟨passed, path, equal⟩ := ih nested covers
    refine ⟨passed ++ [child], ?_, ?_⟩
    · rw [path, List.append_assoc]
      rfl
    · intro each on
      rcases List.mem_append.mp on with earlier | last
      · exact (equal each earlier).trans same
      · rw [List.mem_singleton.mp last]
        exact same

end Leads

namespace Tree

variable {tree : Tree} {span : Span}

theorem identifierOver_of_found {found : Site} (looked : tree.identifierAt span = some found) :
    tree.IdentifierOver span found := by
  obtain ⟨deepest, covering, climbed⟩ := Option.bind_eq_some_iff.mp looked
  obtain ⟨identifier, exact, passed, path⟩ := climbToIdentifier_eq_some climbed
  have leads : Leads (.root tree) deepest := (leads_of_deepestCovering covering).1
  refine ⟨?_, identifier, exact⟩
  rcases leads.of_above path with below | ⟨passed, none⟩
  · exact below
  · exact absurd none (by simp [Site.root])

theorem identifierAt_isSome_iff (proper : tree.nested = true) (inhabited : span.start < span.stop) :
    (tree.identifierAt span).isSome = true ↔ ∃ site, tree.IdentifierOver span site := by
  constructor
  · intro present
    obtain ⟨found, looked⟩ := Option.isSome_iff_exists.mp present
    exact ⟨found, identifierOver_of_found looked⟩
  · rintro ⟨site, leads, identifier, rfl⟩
    have own : site.node.span.covers site.span = true := by simp [Span.covers, Site.span]
    obtain ⟨deepest, covering⟩ :
        ∃ deepest, site.node.deepestCovering site.span site.above = some deepest :=
      ⟨_, deepestCovering_eq own site.above⟩
    have way : tree.deepestCovering site.span [] = some deepest :=
      (leads.deepestCovering_eq proper inhabited).trans covering
    obtain ⟨below, covers⟩ := leads_of_deepestCovering covering
    obtain ⟨passed, path, same⟩ := below.exists_passed (leads.within proper).1 covers
    rw [identifierAt, way, Option.bind_some, path]
    exact climbToIdentifier_isSome same rfl identifier

end Tree

end TypeScript

open TypeScript Text Utf8

theorem Document.WordSpan.single_line {document : Document} {start stop : Nat} {word : List Char}
    (spans : document.WordSpan start stop word) :
    (document.rangeOf start stop).start.line = (document.rangeOf start stop).stop.line := by
  have touched := spans.found _ spans.begins
  rw [wordRangeAt] at touched
  split at touched
  · obtain ⟨_, _, range⟩ := Option.map_eq_some_iff.mp touched
    rw [← range]
  · cases touched

namespace Code

variable {code : Code} {site : Site}

/-- In a tree with nested spans, some bytes are looked up with success exactly if an identifier has them,
and what is found is such an identifier. On every column of an identifier that holds a word and no part of
a longer one, the cursor is on this word, with the bytes of the identifier and an identifier that has
them. -/
theorem cursor_finds_identifier (code : Code) (proper : code.tree.nested = true) :
    (∀ span : Span, span.start < span.stop →
      ((code.tree.identifierAt span).isSome = true ↔ ∃ site, code.tree.IdentifierOver span site) ∧
      ∀ found, code.tree.identifierAt span = some found → code.tree.IdentifierOver span found) ∧
    ∀ site, Leads (.root code.tree) site → site.kind.isIdentifier = true →
      site.span.stop ≤ code.document.source.length →
      isWord (code.textOf site.node).toList = true → code.document.Apart site.span →
      (code.rangeOf site.node).start.line = (code.rangeOf site.node).stop.line ∧
      ∀ column : Int, (code.rangeOf site.node).start.character ≤ column →
        column ≤ (code.rangeOf site.node).stop.character →
        ∃ found, code.wordAt? ⟨(code.rangeOf site.node).start.line, column⟩ =
            some ⟨code.textOf site.node, site.span, some found⟩ ∧
          code.tree.IdentifierOver site.span found := by
  refine ⟨?_, ?_⟩
  · intro span inhabited
    exact ⟨Tree.identifierAt_isSome_iff proper inhabited, fun found => Tree.identifierOver_of_found⟩
  · intro site leads identifier bounded word apart
    have spans := wordSpan_of_apart bounded word apart
    have line : (code.rangeOf site.node).start.line = (code.rangeOf site.node).stop.line :=
      spans.single_line
    refine ⟨line, ?_⟩
    intro column low high
    have touches : (code.rangeOf site.node).touches ⟨(code.rangeOf site.node).start.line, column⟩ :=
      ⟨Or.inr ⟨rfl, low⟩, Or.inr ⟨line, high⟩⟩
    obtain ⟨found, looked⟩ := Option.isSome_iff_exists.mp
      ((Tree.identifierAt_isSome_iff proper spans.inhabited).mpr ⟨site, leads, identifier, rfl⟩)
    refine ⟨found, ?_, Tree.identifierOver_of_found looked⟩
    rw [wordAt?, spans.wordAt?_eq (some code.tree) touches, String.ofList_toList, Option.bind_some]
    change some (CursorWord.mk _ site.span (code.tree.identifierAt site.span)) = _
    rw [looked]

def aliased : Code :=
  ⟨.ofText "/w/a.ts" "é.get;\n", .node .program none ⟨0, 8⟩ [access]⟩
where
  property : Tree := .node .propertyIdentifier (some .property) ⟨3, 6⟩ [.node .token none ⟨3, 6⟩ []]
  access : Tree := .node .memberExpression none ⟨0, 6⟩
    [.node .identifier (some .object) ⟨0, 2⟩ [], .node .token none ⟨2, 3⟩ [], property]

theorem aliased_apart : aliased.document.Apart ⟨3, 6⟩ := by decide

/-- The deepest node at the property is the token inside it, and from there the property is found on
each of its columns. -/
theorem cursor_finds_identifier_aliased :
    let code := aliased
    let site : Site := ⟨aliased.property, [aliased.access, code.tree]⟩
    code.tree.nested = true ∧ (code.tree.identifierAt ⟨3, 6⟩).isSome = true ∧
      Leads (.root code.tree) site ∧ site.kind.isIdentifier = true ∧
      site.span.stop ≤ code.document.source.length ∧
      isWord (code.textOf site.node).toList = true ∧ code.document.Apart site.span ∧
      code.rangeOf site.node = ⟨⟨0, 2⟩, ⟨0, 5⟩⟩ ∧
      ∀ column : Int, 2 ≤ column → column ≤ 5 →
        ∃ found, code.wordAt? ⟨0, column⟩ = some ⟨code.textOf site.node, ⟨3, 6⟩, some found⟩ ∧
          code.tree.IdentifierOver ⟨3, 6⟩ found := by
  intro code site
  have proper : code.tree.nested = true := by decide
  have inside : aliased.property ∈ aliased.access.children := by simp [aliased.access, Tree.children]
  have leads : Leads (.root code.tree) site :=
    .down (List.mem_singleton_self aliased.access) (.down inside (.here site))
  have bounded : site.span.stop ≤ code.document.source.length := by decide
  have word : isWord (code.textOf site.node).toList = true := by decide
  have range : code.rangeOf site.node = ⟨⟨0, 2⟩, ⟨0, 5⟩⟩ := by decide
  obtain ⟨spans, columns⟩ := cursor_finds_identifier code proper
  obtain ⟨_, looked⟩ := columns site leads rfl bounded word aliased_apart
  rw [range] at looked
  exact ⟨proper, (spans ⟨3, 6⟩ (by decide)).1.mpr ⟨site, leads, rfl, rfl⟩, leads, rfl, bounded, word,
    aliased_apart, range, looked⟩

end Code

end ModuleScope
