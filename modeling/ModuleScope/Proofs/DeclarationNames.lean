import Mathlib
import ModuleScope.Proofs.BindingNames
import ModuleScope.Proofs.PlainUsages

/-!
Declarations and their names. A cursor on an identifier looks up to the declaration that holds it as its
name; a scan looks down from every declaration at the name it holds. Both find the same definitions of a
word: a declaration holds at most one name, and a name that is a word is an identifier. The scan meets a
declaration before the declarations inside it and the cursor their names in the order of the text, so
the two orders may differ.
-/
namespace ModuleScope

open TypeScript Text Utf8

namespace TypeScript

/-- Whether a declaration may be named by a word read as the given kind. Variables are named by plain
identifiers, since their patterns are no words. -/
def Kind.mayBeNamedBy (declaration name : Kind) : Bool :=
  if declaration == .variableDeclarator then name == .identifier else name.isIdentifier

theorem Kind.isIdentifier_of_mayBeNamedBy {declaration name : Kind}
    (fits : declaration.mayBeNamedBy name = true) : name.isIdentifier = true := by
  unfold mayBeNamedBy at fits
  split at fits
  · rw [beq_iff_eq.mp fits]
    rfl
  · exact fits

/-- A site and the children of all sites under it are once more the sites. -/
theorem sites_perm (site : Site) :
    (site :: site.sites.flatMap Site.namedChildren).Perm site.sites := by
  induction size : site.node.size using Nat.strong_induction_on generalizing site with
  | _ bound ih =>
    rw [site.sites_eq, List.flatMap_cons, List.flatMap_assoc]
    apply List.Perm.cons
    have inner : ∀ child ∈ site.namedChildren,
        (child :: child.sites.flatMap Site.namedChildren).Perm child.sites := by
      intro child direct
      obtain ⟨tree, named, rfl⟩ := List.mem_map.mp direct
      have held : tree ∈ site.node.children := (List.mem_filter.mp named).1
      exact ih _ (size ▸ Tree.size_lt_of_mem held) _ rfl
    have gathered := List.map_append_flatMap_perm site.namedChildren id
      fun child => child.sites.flatMap Site.namedChildren
    rw [List.map_id] at gathered
    exact gathered.trans (List.Perm.flatMap_left _ inner)

theorem filterMap_sites_perm {α : Type} (site : Site) (give : Site → Option α) (top : give site = none) :
    (site.sites.filterMap give).Perm
      (site.sites.flatMap fun parent => parent.namedChildren.filterMap give) := by
  have moved := (sites_perm site).symm.filterMap give
  rwa [List.filterMap_cons_none top, List.filterMap_flatMap] at moved

/-- A node takes at most one of its children for the one under a label, if that holds some text. -/
theorem Tree.filterMap_holds {α : Type} {tree held : Tree} {label : Label} (proper : tree.nested = true)
    (first : tree.child? label = some held) (inhabited : held.start < held.stop)
    {give : Tree → Option α} (only : ∀ child, tree.holds label child = false → give child = none) :
    tree.children.filterMap give = (give held).toList := by
  obtain ⟨before, after, parts⟩ := List.append_of_mem (List.mem_of_find?_eq_some first)
  have ordered := Tree.pairwise_of_nestedFrom (Tree.nestedFrom_children proper)
  rw [parts, List.pairwise_append, List.pairwise_cons] at ordered
  obtain ⟨_, ⟨later, _⟩, earlier⟩ := ordered
  have other : ∀ child : Tree, child.stop ≤ held.start ∨ held.stop ≤ child.start →
      give child = none := by
    intro child apart
    apply only
    have different : held.span ≠ child.span := by
      intro same
      rcases apart with left | right
      · rw [Tree.stop, ← same] at left
        exact absurd left inhabited.not_ge
      · rw [Tree.start, ← same] at right
        exact absurd right inhabited.not_ge
    simp [Tree.holds, first, Tree.sameNode, different]
  have front : before.filterMap give = [] := by
    rw [List.filterMap_eq_nil_iff]
    intro child inside
    exact other child (Or.inl (earlier child inside held List.mem_cons_self))
  have back : after.filterMap give = [] := by
    rw [List.filterMap_eq_nil_iff]
    intro child inside
    exact other child (Or.inr (later child inside))
  rw [parts, List.filterMap_append, front, List.nil_append, List.filterMap_cons, back]
  cases give held with
  | none => rfl
  | some value => rfl

end TypeScript

namespace Code

variable {code : Code} {name : String}

def identifiersNamed (code : Code) (name : String) : List Site :=
  code.walk.filter fun site => site.kind.isIdentifier && code.textOf site.node == name

def nameGives? (code : Code) (name : String) (site : Site) : Option Definition :=
  if site.kind.isIdentifier && code.textOf site.node == name then code.declarationAt? site name
  else none

theorem declarationAt?_below (parent : Site) (child : Tree) :
    code.declarationAt? (parent.below child) name =
      if parent.node.holds .name child then code.declarationOf? parent name else none := by
  cases held : parent.node.holds .name child with
  | true => simp [declarationAt?, Site.parent?, Site.below, held]
  | false => simp [declarationAt?, Site.parent?, Site.below, held]

/-- A declaration that has a word for its name holds it as an identifier. -/
def NamedByIdentifiers (code : Code) : Prop :=
  ∀ node, code.tree.Holds node → node.kind.namesDeclaration = true → ∀ name,
    node.child? .name = some name → isWord (code.textOf name).toList = true →
      node.kind.mayBeNamedBy name.kind = true

theorem namedByIdentifiers_iff : code.NamedByIdentifiers ↔ code.tree.all (fun node =>
    !node.kind.namesDeclaration || (node.child? .name).all fun name =>
      !isWord (code.textOf name).toList || node.kind.mayBeNamedBy name.kind) = true := by
  simp only [Tree.all_iff, Bool.or_eq_true, Bool.not_eq_true', Option.all_eq_true, ← Bool.not_eq_true,
    ← imp_iff_not_or, NamedByIdentifiers]

instance (code : Code) : Decidable code.NamedByIdentifiers :=
  decidable_of_iff _ namedByIdentifiers_iff.symm

theorem matching?_of_other_name {site : Site} (other : code.nameOf? site.node ≠ some name)
    (container : Option String) : code.matching? name container site = none := by
  cases held : site.node.child? .name with
  | none => simp [matching?, nameOf?, held]
  | some declared =>
    have apart : code.textOf declared ≠ name := by simpa [nameOf?, held] using other
    simp [matching?, nameOf?, held, apart]

theorem matching?_eq_declarationOf? {site : Site} {declared : Tree}
    (held : site.node.child? .name = some declared) (text : code.textOf declared = name)
    (fits : site.kind.namesDeclaration = true → site.kind.mayBeNamedBy declared.kind = true) :
    code.matching? name none site = code.declarationOf? site name := by
  have named : code.nameOf? site.node = some name := by rw [nameOf?, held, Option.map_some, text]
  unfold matching? declarationOf?
  by_cases type : site.kind.isTypeDeclaration = true
  · simp [type, named]
  by_cases method : site.kind.isMethod = true
  · simp [type, method, named, matchesContainer]
  by_cases field : site.kind.isField = true
  · simp [type, method, field, named, matchesContainer]
  by_cases function : site.kind.isFunction = true
  · simp [type, method, field, function, named]
  by_cases declarator : (site.kind == .variableDeclarator) = true
  · have plain : declared.kind = .identifier := by
      have fitting := fits (by simp [Kind.namesDeclaration, declarator])
      simpa [Kind.mayBeNamedBy, declarator] using fitting
    simp [type, method, field, function, declarator, held, plain, text]
  · simp [type, method, field, function, declarator]

theorem filterMap_nameGives? (sound : code.tree.Sound) (named : code.NamedByIdentifiers)
    (word : isWord name.toList = true) {site : Site} (leads : Leads (.root code.tree) site) :
    site.namedChildren.filterMap (code.nameGives? name) = (code.matching? name none site).toList := by
  have proper := (leads.within sound.nested).1
  -- Tokens are no identifiers, so they may be counted in.
  have children : site.namedChildren.filterMap (code.nameGives? name) =
      site.node.children.filterMap fun child => code.nameGives? name (site.below child) := by
    rw [Site.namedChildren, List.filterMap_map, Tree.namedChildren, List.filterMap_filter]
    apply List.filterMap_congr
    intro child _
    by_cases named : child.isNamed = true
    · rw [if_pos named]
      rfl
    · have token : child.kind = .token := by simpa [Tree.isNamed] using named
      simp [named, nameGives?, Site.below, Site.kind, token, Kind.isIdentifier]
  have only : ∀ child, site.node.holds .name child = false →
      code.nameGives? name (site.below child) = none := by
    intro child apart
    simp [nameGives?, declarationAt?_below, apart]
  rw [children]
  cases held : site.node.child? .name with
  | none =>
    have unnamed : code.nameOf? site.node ≠ some name := by simp [nameOf?, held]
    rw [matching?_of_other_name unnamed, Option.toList_none, List.filterMap_eq_nil_iff]
    intro child _
    exact only child (by simp [Tree.holds, held])
  | some declared =>
    have direct := List.mem_of_find?_eq_some held
    have labelled : declared.label = some .name := by simpa using List.find?_some held
    have inhabited := sound.inhabited declared (leads.holds.trans (.inside direct (.here declared)))
      (Or.inr labelled)
    rw [Tree.filterMap_holds proper held inhabited only, nameGives?, declarationAt?_below,
      if_pos (holds_of_child? held)]
    by_cases text : code.textOf declared = name
    · have fits (names : site.kind.namesDeclaration = true) :=
        named site.node leads.holds names declared held (text ▸ word)
      rw [matching?_eq_declarationOf? held text fits]
      by_cases names : site.kind.namesDeclaration = true
      · have identifier := Kind.isIdentifier_of_mayBeNamedBy (fits names)
        simp [Site.below, Site.kind, identifier, text]
      · have nothing : code.declarationOf? site name = none := by
          rw [Option.eq_none_iff_forall_ne_some]
          intro found given
          exact names (namesDeclaration_of_declarationOf? given)
        simp [nothing]
    · have other : code.nameOf? site.node ≠ some name := by simpa [nameOf?, held] using text
      rw [matching?_of_other_name other]
      simp [Site.below, text]

/-- The identifiers with a text give, as names, what a scan for the text finds. -/
theorem declarationAt?_perm_declarations (sound : code.tree.Sound) (named : code.NamedByIdentifiers)
    (word : isWord name.toList = true) :
    ((code.identifiersNamed name).filterMap fun site => code.declarationAt? site name).Perm
      (code.declarations name none) := by
  have scanned : ((Site.root code.tree).sites.flatMap fun parent =>
      parent.namedChildren.filterMap (code.nameGives? name)) = code.declarations name none := by
    rw [declarations, List.filterMap_eq_flatMap_toList, code.walk_eq]
    apply List.flatMap_congr
    intro parent member
    exact filterMap_nameGives? sound named word (leads_of_mem_sites member)
  rw [identifiersNamed, List.filterMap_filter, code.walk_eq, ← scanned]
  have top : code.nameGives? name (.root code.tree) = none := by
    simp [nameGives?, declarationAt?, Site.parent?, Site.root]
  exact filterMap_sites_perm (.root code.tree) (code.nameGives? name) top

theorem not_reports_of_declarationAt? {site : Site} (spells : code.Spells name site)
    (parsed : code.document.code? = some code) (sound : code.tree.Sound)
    (declares : (code.declarationAt? site name).isSome = true) (symbol : String)
    (container moduleName : Option String) :
    ¬ code.document.Reports symbol container moduleName (code.rangeOf site.node) := by
  rw [spells.reports_any_iff parsed sound]
  rintro ⟨_, mentions⟩
  rw [declarationAt?_of_reference mentions.reference] at declares
  cases declares

/-- If the tree is sound and words that name declarations are identifiers, then a scan for a word finds
each definition as often as the identifiers with that text give it, and an identifier that gives a
definition is no usage of anything. A cursor on an identifier finds what it gives, unless the identifier
touches another character of a word. -/
theorem declarations_found_at_names (parsed : code.document.code? = some code)
    (sound : code.tree.Sound) (named : code.NamedByIdentifiers) (word : isWord name.toList = true) :
    ((code.identifiersNamed name).filterMap fun site => code.declarationAt? site name).Perm
        (code.declarations name none) ∧
      ∀ site ∈ code.identifiersNamed name,
        (code.document.Apart site.span → ∀ position, (code.rangeOf site.node).touches position →
          (code.wordAt? position).bind code.declarationAtWord? = code.declarationAt? site name) ∧
        ((code.declarationAt? site name).isSome = true → ∀ symbol container moduleName,
          ¬ code.document.Reports symbol container moduleName (code.rangeOf site.node)) := by
  refine ⟨declarationAt?_perm_declarations sound named word, ?_⟩
  intro site member
  obtain ⟨walked, own⟩ := List.mem_filter.mp member
  rw [Bool.and_eq_true, beq_iff_eq] at own
  obtain ⟨identifier, rfl⟩ := own
  refine ⟨?_, ?_⟩
  · intro apart position touches
    rw [wordAt?_of_touches parsed sound walked word apart identifier touches]
    rfl
  · have spells : code.Spells (code.textOf site.node) site :=
      ⟨code.leads_of_mem_walk walked, identifier, bytesOf_eq_of_word word⟩
    exact not_reports_of_declarationAt? spells parsed sound

def sameNames : Code :=
  ⟨.ofText "/w/a.ts" text, parse .typescript text.toList⟩
where
  text : String := "@d(class A\x7b\x7d)class A\x7bA()\x7b\x7d\x7dfunction A()\x7bvar A\x7dlet A=A"

/-- The scan meets the decorated class before the one in its decorator, and the names stand the other
way round. -/
theorem declarations_found_at_names_sameNames :
    let code := sameNames
    let first : Definition := ⟨"A", "/w/a.ts", ⟨⟨0, 0⟩, ⟨0, 27⟩⟩, .classType, none⟩
    let inner : Definition := ⟨"A", "/w/a.ts", ⟨⟨0, 3⟩, ⟨0, 12⟩⟩, .classType, none⟩
    code.document.code? = some code ∧ code.tree.Sound ∧ code.NamedByIdentifiers ∧
      isWord "A".toList = true ∧
      (code.declarations "A" none).take 2 = [first, inner] ∧
      ((code.identifiersNamed "A").filterMap fun site => code.declarationAt? site "A").take 2 =
        [inner, first] ∧
      ((code.identifiersNamed "A").filterMap fun site => code.declarationAt? site "A").Perm
        (code.declarations "A" none) ∧
      ∀ site ∈ code.identifiersNamed "A", (code.declarationAt? site "A").isSome = true →
        ¬ code.document.Reports "A" none none (code.rangeOf site.node) := by
  intro code first inner
  have parsed : code.document.code? = some code :=
    Document.code?_ofText (by decide) sameNames.text
  -- One evaluation reads the text once for all four facts.
  have facts : code.tree.Sound ∧ code.NamedByIdentifiers ∧
      ((code.tree.sites []).filterMap (code.matching? "A" none)).take 2 = [first, inner] ∧
      (((code.tree.sites []).filter fun site =>
          site.kind.isIdentifier && code.textOf site.node == "A").filterMap
        fun site => code.declarationAt? site "A").take 2 = [inner, first] := by
    decide +kernel
  obtain ⟨sound, named, scanned, pointed⟩ := facts
  have word : isWord "A".toList = true := by decide
  obtain ⟨same, each⟩ := declarations_found_at_names parsed sound named word
  refine ⟨parsed, sound, named, word, ?_, ?_, same, ?_⟩
  · rw [declarations, code.walk_eq]
    exact scanned
  · rw [identifiersNamed, code.walk_eq]
    exact pointed
  · intro site member declares
    exact (each site member).2 declares "A" none none

end Code

end ModuleScope
