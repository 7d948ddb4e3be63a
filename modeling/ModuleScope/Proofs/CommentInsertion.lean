import Mathlib
import ModuleScope.Proofs.IdentifierLookup

/-!
Trees with comments put in. A comment is a named node among the parts of another. Parts that are found
by their label or their kind stay what they were, and so does the first or the last part as long as it
is no comment. Without its comments, the walk over the second tree runs along the walk over the first.
-/
namespace ModuleScope

namespace TypeScript

namespace Kind

def isPlainName (kind : Kind) : Bool :=
  kind.isIdentifier || kind == .privatePropertyIdentifier || kind == .string || kind == .number

end Kind

namespace Tree

def isComment (tree : Tree) : Bool :=
  tree.kind == .comment && tree.label == none && tree.children.isEmpty

variable {tree : Tree}

theorem kind_of_isComment (comment : tree.isComment = true) : tree.kind = .comment := by
  simp only [isComment, Bool.and_eq_true, beq_iff_eq] at comment
  exact comment.1.1

theorem sites_eq (tree : Tree) (above : List Tree) :
    tree.sites above =
      ⟨tree, above⟩ :: tree.namedChildren.flatMap fun part => part.sites (tree :: above) := by
  have walked := Site.sites_eq ⟨tree, above⟩
  rw [Site.namedChildren, List.flatMap_map] at walked
  exact walked

theorem sites_of_isComment (tree : Tree) (comment : tree.isComment = true) (above : List Tree) :
    tree.sites above = [⟨tree, above⟩] := by
  simp only [isComment, Bool.and_eq_true, List.isEmpty_iff] at comment
  rw [sites_eq, namedChildren, comment.2]
  rfl

end Tree

theorem rel_cases {same : Tree → Tree → Prop} {found found' : Option Tree}
    (related : Option.Rel same found found') :
    found = none ∧ found' = none ∨
      ∃ part part', found = some part ∧ found' = some part' ∧ same part part' := by
  cases related with
  | none => exact .inl ⟨rfl, rfl⟩
  | some same => exact .inr ⟨_, _, rfl, rfl, same⟩

theorem head?_of_forall₂ {same : Tree → Tree → Prop} {trees trees' : List Tree}
    (related : List.Forall₂ same trees trees') : Option.Rel same trees.head? trees'.head? := by
  cases related with
  | nil => exact .none
  | cons first _ => exact .some first

def opensWithComment (trees : List Tree) : Bool :=
  trees.head?.any fun tree => tree.kind == .comment

theorem exists_of_opensWithComment {trees : List Tree} (opens : opensWithComment trees = true) :
    ∃ first, trees.head? = some first ∧ first.kind = .comment := by
  cases found : trees.head? with
  | none => simp [opensWithComment, found] at opens
  | some first => exact ⟨first, rfl, by simpa [opensWithComment, found] using opens⟩

/-- The second row of nodes is the first one, each node in a related form, with comments in between. -/
inductive Interspersed (same : Tree → Tree → Prop) : List Tree → List Tree → Prop
  | nil : Interspersed same [] []
  | part {first first' : Tree} {rest rest' : List Tree} (related : same first first')
      (others : Interspersed same rest rest') : Interspersed same (first :: rest) (first' :: rest')
  | comment {added : Tree} {rest rest' : List Tree} (isComment : added.isComment = true)
      (others : Interspersed same rest rest') : Interspersed same rest (added :: rest')

namespace Interspersed

variable {same other : Tree → Tree → Prop} {parts parts' : List Tree}

theorem imp_of_mem (row : Interspersed same parts parts')
    (implies : ∀ part ∈ parts, ∀ part', same part part' → other part part') :
    Interspersed other parts parts' := by
  induction row with
  | nil => exact .nil
  | part related _ ih =>
    refine .part (implies _ List.mem_cons_self _ related) (ih ?_)
    intro part member
    exact implies part (List.mem_cons_of_mem _ member)
  | comment isComment _ ih => exact .comment isComment (ih implies)

theorem filter (row : Interspersed same parts parts') {chosen : Tree → Bool}
    (agrees : ∀ part part', same part part' → chosen part' = chosen part)
    (skips : ∀ added : Tree, added.isComment = true → chosen added = false) :
    List.Forall₂ same (parts.filter chosen) (parts'.filter chosen) := by
  induction row with
  | nil => exact .nil
  | @part first first' _ _ related _ ih =>
    rw [List.filter_cons, List.filter_cons, agrees first first' related]
    split
    · exact .cons related ih
    · exact ih
  | comment isComment _ ih =>
    rw [List.filter_cons, skips _ isComment]
    exact ih

theorem filter_named (row : Interspersed same parts parts')
    (agrees : ∀ part part', same part part' → part'.kind = part.kind) :
    Interspersed same (parts.filter Tree.isNamed) (parts'.filter Tree.isNamed) := by
  induction row with
  | nil => exact .nil
  | @part first first' _ _ related _ ih =>
    have alike : first'.isNamed = first.isNamed := by simp [Tree.isNamed, agrees _ _ related]
    rw [List.filter_cons, List.filter_cons, alike]
    split
    · exact .part related ih
    · exact ih
  | @comment added _ _ isComment _ ih =>
    have named : added.isNamed = true := by simp [Tree.isNamed, Tree.kind_of_isComment isComment]
    rw [List.filter_cons_of_pos named]
    exact .comment isComment ih

theorem append {more more' : List Tree} (row : Interspersed same parts parts')
    (next : Interspersed same more more') : Interspersed same (parts ++ more) (parts' ++ more') := by
  induction row with
  | nil => exact next
  | part related _ ih => exact .part related ih
  | comment isComment _ ih => exact .comment isComment ih

theorem reverse (row : Interspersed same parts parts') :
    Interspersed same parts.reverse parts'.reverse := by
  induction row with
  | nil => exact .nil
  | part related _ ih =>
    rw [List.reverse_cons, List.reverse_cons]
    exact ih.append (.part related .nil)
  | @comment _ rest _ isComment _ ih =>
    rw [List.reverse_cons, ← List.append_nil rest.reverse]
    exact ih.append (.comment isComment .nil)

theorem head? (row : Interspersed same parts parts') (plain : opensWithComment parts' = false) :
    Option.Rel same parts.head? parts'.head? := by
  cases row with
  | nil => exact .none
  | part related _ => exact .some related
  | comment isComment _ =>
    simp [opensWithComment, Tree.kind_of_isComment isComment] at plain

theorem getLast? (row : Interspersed same parts parts')
    (plain : opensWithComment parts'.reverse = false) :
    Option.Rel same parts.getLast? parts'.getLast? := by
  rw [← List.head?_reverse, ← List.head?_reverse]
  exact row.reverse.head? plain

theorem flatMap {Found : Type} {read read' : Tree → List Found} {paired : Found → Found → Prop}
    (row : Interspersed same parts parts')
    (agrees : ∀ part ∈ parts, ∀ part', same part part' → List.Forall₂ paired (read part) (read' part'))
    (skips : ∀ added : Tree, added.isComment = true → read' added = []) :
    List.Forall₂ paired (parts.flatMap read) (parts'.flatMap read') := by
  induction row with
  | nil => exact .nil
  | part related _ ih =>
    rw [List.flatMap_cons, List.flatMap_cons]
    apply List.rel_append (agrees _ List.mem_cons_self _ related)
    apply ih
    intro part member
    exact agrees part (List.mem_cons_of_mem _ member)
  | comment isComment _ ih =>
    rw [List.flatMap_cons, skips _ isComment]
    exact ih agrees

end Interspersed

end TypeScript

open TypeScript

namespace Code

variable {code code' : Code}

/-- What stays of a node when comments are put among its parts. A node begins as it did, a name and a
literal are as they were, and the name of a type begins and ends with parts of its own. -/
structure Keeps (code code' : Code) (tree tree' : Tree) : Prop where
  kind : tree'.kind = tree.kind
  label : tree'.label = tree.label
  opening : tree.kind = .program ∨ (code'.bytesOf tree').head? = (code.bytesOf tree).head?
  name : tree.kind.isPlainName = false ∨ code'.bytesOf tree' = code.bytesOf tree
  typeName : tree.kind ≠ .genericType ∧ tree.kind ≠ .nestedTypeIdentifier ∨
    opensWithComment tree'.namedChildren = false ∧
      opensWithComment tree'.namedChildren.reverse = false

instance (code code' : Code) (tree tree' : Tree) : Decidable (code.Keeps code' tree tree') :=
  decidable_of_iff
    (tree'.kind = tree.kind ∧ tree'.label = tree.label ∧
      (tree.kind = .program ∨ (code'.bytesOf tree').head? = (code.bytesOf tree).head?) ∧
      (tree.kind.isPlainName = false ∨ code'.bytesOf tree' = code.bytesOf tree) ∧
      (tree.kind ≠ .genericType ∧ tree.kind ≠ .nestedTypeIdentifier ∨
        opensWithComment tree'.namedChildren = false ∧
          opensWithComment tree'.namedChildren.reverse = false))
    ⟨fun ⟨kind, label, opening, name, typeName⟩ => ⟨kind, label, opening, name, typeName⟩,
      fun keeps => ⟨keeps.kind, keeps.label, keeps.opening, keeps.name, keeps.typeName⟩⟩

def commented (code code' : Code) : Tree → Tree → Bool
  | .node kind label span children, .node kind' label' span' children' =>
    decide (code.Keeps code' (.node kind label span children) (.node kind' label' span' children')) &&
      among children children'
where
  among : List Tree → List Tree → Bool
    | [], [] => true
    | _ :: _, [] => false
    | [], part' :: rest' => part'.isComment && among [] rest'
    | part :: rest, part' :: rest' =>
      commented code code' part part' && among rest rest' ||
        part'.isComment && among (part :: rest) rest'

theorem interspersed_of_among {parts parts' : List Tree}
    (among : commented.among code code' parts parts' = true) :
    Interspersed (fun part part' => code.commented code' part part' = true) parts parts' := by
  induction parts' generalizing parts with
  | nil =>
    cases parts with
    | nil => exact .nil
    | cons => simp [commented.among] at among
  | cons part' rest' ih =>
    cases parts with
    | nil =>
      rw [commented.among, Bool.and_eq_true] at among
      exact .comment among.1 (ih among.2)
    | cons part rest =>
      rw [commented.among, Bool.or_eq_true, Bool.and_eq_true, Bool.and_eq_true] at among
      rcases among with ⟨kept, others⟩ | ⟨isComment, others⟩
      · exact .part kept (ih others)
      · exact .comment isComment (ih others)

theorem commented_parts {tree tree' : Tree} (commented : code.commented code' tree tree' = true) :
    code.Keeps code' tree tree' ∧
      Interspersed (fun part part' => code.commented code' part part' = true)
        tree.children tree'.children := by
  rcases tree with ⟨kind, label, span, children⟩
  rcases tree' with ⟨kind', label', span', children'⟩
  rw [Code.commented, Bool.and_eq_true, decide_eq_true_eq] at commented
  exact ⟨commented.1, interspersed_of_among commented.2⟩

def namePart? (tree : Tree) : Option Tree :=
  if tree.kind.isClass || tree.kind == .methodDefinition || tree.kind == .publicFieldDefinition then
    tree.child? .name
  else if tree.kind == .pair then tree.child? .key
  else none

/-- The name of a class is one word, and the name of a member or the key of a pair is a word or a literal
unless it stands in brackets. -/
def readable (code : Code) (tree : Tree) : Bool :=
  (namePart? tree).all fun part =>
    part.kind.isPlainName ||
      !tree.kind.isClass && part.kind == .computedPropertyName &&
        (code.bytesOf part).head? == some 0x5B

structure Alike (code code' : Code) (tree tree' : Tree) : Prop where
  commented : code.commented code' tree tree' = true
  readable : tree.all code.readable = true

namespace Alike

variable {tree tree' : Tree}

theorem keeps (alike : code.Alike code' tree tree') : code.Keeps code' tree tree' :=
  (commented_parts alike.commented).1

theorem kind (alike : code.Alike code' tree tree') : tree'.kind = tree.kind := alike.keeps.kind

theorem children (alike : code.Alike code' tree tree') :
    Interspersed (code.Alike code') tree.children tree'.children := by
  apply (commented_parts alike.commented).2.imp_of_mem
  intro part member part' commented
  exact ⟨commented, (Tree.all_eq.mp alike.readable).2 part member⟩

theorem namedChildren (alike : code.Alike code' tree tree') :
    Interspersed (code.Alike code') tree.namedChildren tree'.namedChildren :=
  alike.children.filter_named fun _ _ => kind

theorem ofKind {parts parts' : List Tree} (row : Interspersed (code.Alike code') parts parts')
    {sought : Kind} (other : sought ≠ .comment) :
    List.Forall₂ (code.Alike code') (parts.filter fun part => part.kind == sought)
      (parts'.filter fun part => part.kind == sought) := by
  apply row.filter
  · intro part part' related
    rw [related.kind]
  · intro added isComment
    simp [Tree.kind_of_isComment isComment, other.symm]

theorem child? (alike : code.Alike code' tree tree') (label : Label) :
    Option.Rel (code.Alike code') (tree.child? label) (tree'.child? label) := by
  have found : List.Forall₂ (code.Alike code')
      (tree.children.filter fun part => part.label == some label)
      (tree'.children.filter fun part => part.label == some label) := by
    apply alike.children.filter
    · intro part part' related
      rw [related.keeps.label]
    · intro added isComment
      simp only [Tree.isComment, Bool.and_eq_true, beq_iff_eq] at isComment
      simp [isComment.1.2]
  rw [Tree.child?, Tree.child?, ← List.head?_filter, ← List.head?_filter]
  exact head?_of_forall₂ found

theorem textOf_plain (alike : code.Alike code' tree tree') (plain : tree.kind.isPlainName = true) :
    code'.textOf tree' = code.textOf tree := by
  rcases alike.keeps.name with other | same
  · rw [plain] at other
    cases other
  · rw [textOf, textOf, same]

theorem head?_textOf_of_bracket {code : Code} (bracket : (code.bytesOf tree).head? = some 0x5B) :
    (code.textOf tree).toList.head? = some '[' := by
  obtain ⟨rest, bytes⟩ := List.head?_eq_some_iff.mp bracket
  rw [textOf, String.toList_ofList, bytes]
  rfl

/-- The name of a class or a member and the key of a pair are read as they were, and what stands in
brackets stays apart from what does not. -/
theorem textOf_namePart {part part' : Tree} (alike : code.Alike code' tree tree')
    (named : namePart? tree = some part) (related : code.Alike code' part part') :
    code'.textOf part' = code.textOf part ∨
      tree.kind.isClass = false ∧ (code.textOf part).toList.head? = some '[' ∧
        (code'.textOf part').toList.head? = some '[' := by
  have readable := (Tree.all_eq.mp alike.readable).1
  simp only [Code.readable, named, Option.all_some, Bool.and_eq_true, Bool.or_eq_true,
    Bool.not_eq_true', beq_iff_eq] at readable
  rcases readable with plain | ⟨⟨member, computed⟩, bracket⟩
  · exact .inl (related.textOf_plain plain)
  · refine .inr ⟨member, head?_textOf_of_bracket bracket, head?_textOf_of_bracket ?_⟩
    rcases related.keeps.opening with whole | same
    · rw [computed] at whole
      cases whole
    · rw [same, bracket]

end Alike

theorem findSome?_filter {Result : Type} {read : Site → Option Result} {sites : List Site}
    (skips : ∀ site : Site, site.kind = .comment → read site = none) :
    (sites.filter fun site => site.kind != .comment).findSome? read = sites.findSome? read := by
  induction sites with
  | nil => rfl
  | cons site rest ih =>
    rw [List.filter_cons, List.findSome?_cons]
    by_cases comment : site.kind = .comment
    · simp [comment, skips site comment, ih]
    · simp [comment, List.findSome?_cons, ih]

structure Paired (code code' : Code) (site site' : Site) : Prop where
  node : code.Alike code' site.node site'.node
  above : List.Forall₂ (code.Alike code') site.above site'.above

theorem sites_paired {tree tree' : Tree} (alike : code.Alike code' tree tree') {above above' : List Tree}
    (outer : List.Forall₂ (code.Alike code') above above') :
    List.Forall₂ (code.Paired code') ((tree.sites above).filter fun site => site.kind != .comment)
      ((tree'.sites above').filter fun site => site.kind != .comment) := by
  induction size : tree.size using Nat.strong_induction_on generalizing tree tree' above above' with
  | _ bound ih =>
    have inside : List.Forall₂ (code.Paired code')
        ((tree.namedChildren.flatMap fun part => part.sites (tree :: above)).filter
          fun site => site.kind != .comment)
        ((tree'.namedChildren.flatMap fun part => part.sites (tree' :: above')).filter
          fun site => site.kind != .comment) := by
      rw [List.filter_flatMap, List.filter_flatMap]
      apply alike.namedChildren.flatMap
      · intro part member part' related
        have held : part ∈ tree.children := (List.mem_filter.mp member).1
        exact ih _ (size ▸ Tree.size_lt_of_mem held) related (.cons alike outer) rfl
      · intro added isComment
        -- An added comment is visited alone, and it is left out.
        rw [added.sites_of_isComment isComment]
        simp [Site.kind, Tree.kind_of_isComment isComment]
    have same : (Site.mk tree' above').kind = (Site.mk tree above).kind := alike.kind
    rw [tree.sites_eq, tree'.sites_eq, List.filter_cons, List.filter_cons, same]
    split
    · exact .cons ⟨alike, outer⟩ inside
    · exact inside

def plainSites (code : Code) : List Site :=
  (code.tree.sites []).filter fun site => site.kind != .comment

def counterparts (code code' : Code) : List (Site × Site) := code.plainSites.zip code'.plainSites

theorem plainSites_paired (alike : code.Alike code' code.tree code'.tree) :
    List.Forall₂ (code.Paired code') code.plainSites code'.plainSites := sites_paired alike .nil

theorem paired_of_mem {pair : Site × Site} (alike : code.Alike code' code.tree code'.tree)
    (member : pair ∈ code.counterparts code') : code.Paired code' pair.1 pair.2 :=
  List.forall₂_zip (plainSites_paired alike) member

section Walks

variable {Result : Type} {read : Site → Option Result}

theorem findSome?_plainSites (code : Code)
    (skips : ∀ site : Site, site.kind = .comment → read site = none) :
    code.plainSites.findSome? read = code.walk.findSome? read := by
  rw [code.walk_eq]
  exact findSome?_filter skips

theorem findSome?_walk (alike : code.Alike code' code.tree code'.tree)
    (skips : ∀ site : Site, site.kind = .comment → read site = none) :
    code.walk.findSome? read = (code.counterparts code').findSome? fun pair => read pair.1 := by
  have sites : (code.counterparts code').map Prod.fst = code.plainSites :=
    List.map_fst_zip (plainSites_paired alike).length_eq.le
  rw [← code.findSome?_plainSites skips, ← sites, List.findSome?_map]
  rfl

theorem findSome?_walk' (alike : code.Alike code' code.tree code'.tree)
    (skips : ∀ site : Site, site.kind = .comment → read site = none) :
    code'.walk.findSome? read = (code.counterparts code').findSome? fun pair => read pair.2 := by
  have sites : (code.counterparts code').map Prod.snd = code'.plainSites :=
    List.map_snd_zip (plainSites_paired alike).length_eq.ge
  rw [← code'.findSome?_plainSites skips, ← sites, List.findSome?_map]
  rfl

end Walks

end Code

end ModuleScope
