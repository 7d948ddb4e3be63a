import Mathlib
import ModuleScope.Proofs.OccurrenceClasses

/-!
Names that variables and parameters bind. A pattern binds the names in its items, at any depth, but the
classification of an identifier looks at its parent only: it knows the names of variables and parameters
and the shorthands of object patterns, and takes every other name that a pattern binds for a reference.
-/
namespace ModuleScope

open TypeScript Text Utf8

namespace TypeScript

def Kind.isBindingName : Kind → Bool
  | identifier | shorthandPropertyIdentifierPattern => true
  | _ => false

theorem Kind.isIdentifier_of_isBindingName {kind : Kind} (named : kind.isBindingName = true) :
    kind.isIdentifier = true := by
  unfold isBindingName at named
  split at named
  · rfl
  · rfl
  · cases named

/-- Whether a part that a pattern holds under a label is again a pattern of names to be bound. -/
def Kind.bindsThrough (kind : Kind) (label : Option Label) : Bool :=
  match kind with
  | arrayPattern | objectPattern | restPattern => true
  | pairPattern => label == some .value
  | assignmentPattern | objectAssignmentPattern => label == some .left
  | _ => false

theorem Kind.bindsThrough_cases {kind : Kind} {label : Option Label}
    (through : kind.bindsThrough label = true) :
    kind = pairPattern ∧ label = some .value ∨ kind = arrayPattern ∨ kind = objectPattern ∨
      kind = restPattern ∨ kind = assignmentPattern ∨ kind = objectAssignmentPattern := by
  unfold bindsThrough at through
  split at through
  case h_4 => exact Or.inl ⟨rfl, by simpa using through⟩
  case h_7 => cases through
  all_goals simp

/-- The pattern at the first site binds the name at the second. -/
inductive Binds : Site → Site → Prop
  | name {site : Site} (named : site.kind.isBindingName = true) : Binds site site
  | part {site bound : Site} {item : Tree} (member : item ∈ site.node.children)
      (through : site.kind.bindsThrough item.label = true) (rest : Binds (site.below item) bound) :
      Binds site bound

namespace Leads

variable {first second third : Site}

theorem trans (leads : Leads first second) (further : Leads second third) : Leads first third := by
  induction leads with
  | here site => exact further
  | down member _ ih => exact .down member (ih further)

theorem length_above_le (leads : Leads first second) : first.above.length ≤ second.above.length := by
  induction leads with
  | here site => exact le_rfl
  | down member _ ih => exact (Nat.le_succ _).trans ih

end Leads

namespace Binds

variable {pattern bound : Site}

theorem leads (binds : Binds pattern bound) : Leads pattern bound := by
  induction binds with
  | name named => exact .here _
  | part member _ _ ih => exact .down member ih

theorem isBindingName (binds : Binds pattern bound) : bound.kind.isBindingName = true := by
  induction binds with
  | name named => exact named
  | part _ _ _ ih => exact ih

theorem eq_or_exists_parent (binds : Binds pattern bound) :
    bound = pattern ∨ ∃ parent, Leads pattern parent ∧ bound.above = parent.node :: parent.above ∧
      bound.node ∈ parent.node.children ∧ parent.kind.bindsThrough bound.node.label = true := by
  induction binds with
  | name named => exact Or.inl rfl
  | @part site bound item member through rest ih =>
    right
    rcases ih with rfl | ⟨parent, below, above, held, inner⟩
    · exact ⟨site, .here site, rfl, member, through⟩
    · exact ⟨parent, .down member below, above, held, inner⟩

end Binds

def Tree.boundNames : Tree → List Tree → List Site
  | node kind label span children, above =>
    (if kind.isBindingName then [⟨node kind label span children, above⟩] else []) ++
      among kind children (node kind label span children :: above)
where
  among (kind : Kind) : List Tree → List Tree → List Site
    | [], _ => []
    | item :: rest, above =>
      (if kind.bindsThrough item.label then boundNames item above else []) ++ among kind rest above

theorem Tree.exists_of_mem_among {kind : Kind} {children above : List Tree} {bound : Site}
    (member : bound ∈ Tree.boundNames.among kind children above) :
    ∃ item ∈ children, kind.bindsThrough item.label = true ∧ bound ∈ item.boundNames above := by
  induction children with
  | nil => cases member
  | cons item rest ih =>
    rw [Tree.boundNames.among, List.mem_append] at member
    rcases member with here | later
    · split at here
      · next through => exact ⟨item, List.mem_cons_self, through, here⟩
      · cases here
    · obtain ⟨inner, inside, through, found⟩ := ih later
      exact ⟨inner, List.mem_cons_of_mem item inside, through, found⟩

theorem binds_of_mem_boundNames {pattern bound : Site}
    (member : bound ∈ pattern.node.boundNames pattern.above) : Binds pattern bound := by
  induction size : pattern.node.size using Nat.strong_induction_on generalizing pattern with
  | _ limit ih =>
    obtain ⟨⟨kind, label, span, children⟩, above⟩ := pattern
    rw [Tree.boundNames, List.mem_append] at member
    rcases member with here | deeper
    · split at here
      · next named =>
        obtain rfl := List.mem_singleton.mp here
        exact .name named
      · cases here
    · obtain ⟨item, inside, through, found⟩ := Tree.exists_of_mem_among deeper
      exact .part inside through (ih _ (size ▸ Tree.size_lt_of_mem inside) found rfl)

theorem Tree.span_ne_of_siblings {tree first second : Tree} (proper : tree.nested = true)
    (member : first ∈ tree.children) (member' : second ∈ tree.children) (different : first ≠ second)
    (inhabited : second.start < second.stop) : first.span ≠ second.span := by
  have ordered := Tree.pairwise_of_nestedFrom (Tree.nestedFrom_children proper)
  let Apart (left right : Tree) : Prop := left.stop ≤ right.start ∨ right.stop ≤ left.start
  have apart : tree.children.Pairwise Apart := ordered.imp fun before => Or.inl before
  have symmetric : Std.Symm Apart := ⟨fun _ _ => Or.symm⟩
  intro same
  rcases apart.forall member member' different with before | after
  · rw [Tree.stop, same] at before
    exact absurd before inhabited.not_ge
  · rw [Tree.start, same] at after
    exact absurd after inhabited.not_ge

end TypeScript

namespace Code

variable {code : Code}

theorem holds_of_other_label {parent part : Tree} {label : Label} (proper : parent.nested = true)
    (member : part ∈ parent.children) (inhabited : part.start < part.stop)
    (other : part.label ≠ some label) : parent.holds label part = false := by
  unfold Tree.holds
  split
  · next child held =>
    have labelled : child.label = some label := by simpa using List.find?_some held
    have different : child ≠ part := by
      rintro rfl
      exact other labelled
    have apart := Tree.span_ne_of_siblings proper (List.mem_of_find?_eq_some held) member different
      inhabited
    simp [Tree.sameNode, apart]
  · rfl

theorem holds_of_child? {parent child : Tree} {label : Label} (held : parent.child? label = some child) :
    parent.holds label child = true := by
  simp [Tree.holds, held, Tree.sameNode]

theorem isDeclaration_inside_pattern {parent bound : Site} (proper : parent.node.nested = true)
    (above : bound.above = parent.node :: parent.above) (member : bound.node ∈ parent.node.children)
    (inhabited : bound.node.start < bound.node.stop)
    (through : parent.kind.bindsThrough bound.node.label = true) :
    isDeclaration bound = (bound.kind == .shorthandPropertyIdentifierPattern) := by
  cases shorthand : bound.kind == .shorthandPropertyIdentifierPattern with
  | true => rw [isDeclaration, if_pos shorthand]
  | false =>
    rw [isDeclaration, if_neg (by simp [shorthand]), above]
    change Kind.bindsThrough parent.node.kind bound.node.label = true at through
    rcases Kind.bindsThrough_cases through with ⟨kind, value⟩ | kind | kind | kind | kind | kind
    · have key : parent.node.holds .key bound.node = false :=
        holds_of_other_label proper member inhabited (by simp [value])
      simp only [kind]
      exact key
    all_goals
      simp only [kind]
      rfl

def declaresItem (code : Code) (loop : Tree) : Bool :=
  loop.children.any fun child =>
    child.kind == .token && ["const", "let", "var"].contains (code.textOf child)

def patternOf? (code : Code) (site : Site) : Option Site :=
  match site.kind with
  | .variableDeclarator => site.child? .name
  | .requiredParameter | .optionalParameter => site.child? .pattern
  | .arrowFunction => site.child? .parameter
  | .forInStatement => if code.declaresItem site.node then site.child? .left else none
  | _ => none

theorem exists_of_patternOf? {site pattern : Site} (declares : code.patternOf? site = some pattern) :
    ∃ label, site.child? label = some pattern := by
  unfold patternOf? at declares
  split at declares
  case h_5 =>
    split at declares
    · exact ⟨_, declares⟩
    · cases declares
  case h_6 => cases declares
  all_goals exact ⟨_, declares⟩

theorem leads_of_patternOf? {site pattern : Site} (declares : code.patternOf? site = some pattern) :
    Leads site pattern := by
  obtain ⟨label, held⟩ := exists_of_patternOf? declares
  obtain ⟨child, first, rfl⟩ := Option.map_eq_some_iff.mp held
  exact .down (List.mem_of_find?_eq_some first) (.here _)

def boundNames (code : Code) : List Site :=
  (code.tree.sites []).flatMap fun site =>
    (code.patternOf? site).toList.flatMap fun pattern => pattern.node.boundNames pattern.above

theorem exists_of_mem_boundNames {bound : Site} (member : bound ∈ code.boundNames) :
    ∃ site ∈ code.walk, ∃ pattern, code.patternOf? site = some pattern ∧ Binds pattern bound := by
  obtain ⟨site, inside, declared⟩ := List.mem_flatMap.mp member
  obtain ⟨pattern, declares, found⟩ := List.mem_flatMap.mp declared
  rw [← code.walk_eq] at inside
  exact ⟨site, inside, pattern, Option.mem_toList.mp declares, binds_of_mem_boundNames found⟩

/-- The name of a variable or a parameter is known as a declaration, that in a loop's head is not. -/
theorem isDeclaration_whole_pattern {site pattern : Site} (declares : code.patternOf? site = some pattern)
    (plain : pattern.kind ≠ .shorthandPropertyIdentifierPattern) :
    isDeclaration pattern = (site.kind != .forInStatement) := by
  have whole {label : Label} (held : site.child? label = some pattern) :
      site.node.holds label pattern.node = true ∧ pattern.above = site.node :: site.above := by
    obtain ⟨child, first, rfl⟩ := Option.map_eq_some_iff.mp held
    exact ⟨holds_of_child? first, rfl⟩
  rw [isDeclaration, if_neg (by simpa using plain)]
  simp only [patternOf?, Site.kind] at declares ⊢
  split at declares
  case h_5 kind =>
    split at declares
    · simp only [(whole declares).2, kind]
      rfl
    · cases declares
  case h_6 => cases declares
  all_goals
    next kind =>
      simp only [(whole declares).2, kind]
      exact (whole declares).1

namespace Spells

variable {name : String} {site : Site}

theorem reports_any_iff (spells : code.Spells name site) (parsed : code.document.code? = some code)
    (sound : code.tree.Sound) (symbol : String) (container moduleName : Option String) :
    code.document.Reports symbol container moduleName (code.rangeOf site.node) ↔
      symbol = name ∧ code.Mentions name (container.filter (· != "")) site := by
  constructor
  · rintro ⟨usage, reported, range⟩
    obtain ⟨code', other, parsed', mentions, rfl⟩ := Document.mem_usages_iff.mp reported
    obtain rfl := Option.some.inj (parsed.symm.trans parsed')
    have same : (code.rangeOf site.node).start = (code.rangeOf other.node).start :=
      congrArg Range.start range.symm
    obtain rfl := spells.eq_of_start mentions.spells parsed sound same
    have spelled : symbol = name := by
      rw [← mentions.textOf_eq, textOf, spells.bytes, decodeLossy_encode, String.ofList_toList]
    exact ⟨spelled, spelled ▸ mentions⟩
  · rintro ⟨rfl, mentions⟩
    exact (spells.reports_iff parsed sound container moduleName).mpr mentions

end Spells

theorem memberReceiver?_of_bindingName {site : Site} (named : site.kind.isBindingName = true) :
    memberReceiver? site = none := by
  have other : site.kind ≠ .propertyIdentifier := by
    intro kind
    rw [kind] at named
    cases named
  simp [memberReceiver?, other, guard]

/-- A name that a variable, a loop over items or a parameter binds is known as a declaration if it is a
shorthand of an object pattern, or the whole pattern of a variable or a parameter. Every other name that
they bind, in an array pattern, under a key, after dots, before a default or in the head of a loop, is
taken for a reference, and the search for it without a container reports it. The tree is taken to be
sound. -/
theorem bound_isDeclaration_iff (parsed : code.document.code? = some code) (sound : code.tree.Sound)
    {site pattern bound : Site} (member : site ∈ code.walk) (declares : code.patternOf? site = some pattern)
    (binds : Binds pattern bound) :
    (isDeclaration bound = true ↔ bound.kind = .shorthandPropertyIdentifierPattern ∨
      bound = pattern ∧ site.kind ≠ .forInStatement) ∧
      ∀ name, code.bytesOf bound.node = encode name.toList → ∀ symbol container moduleName,
        (code.document.Reports symbol container moduleName (code.rangeOf bound.node) ↔
          isDeclaration bound = false ∧ symbol = name ∧ container.filter (· != "") = none) := by
  have named := binds.isBindingName
  have identifier := Kind.isIdentifier_of_isBindingName named
  have leads := (code.leads_of_mem_walk member).trans (leads_of_patternOf? declares)
  have inhabited := sound.inhabited bound.node (leads.trans binds.leads).holds (Or.inl identifier)
  refine ⟨?_, ?_⟩
  · by_cases shorthand : bound.kind = .shorthandPropertyIdentifierPattern
    · simp [isDeclaration, shorthand]
    · rw [or_iff_right shorthand]
      rcases binds.eq_or_exists_parent with rfl | ⟨parent, below, above, held, through⟩
      · simp [isDeclaration_whole_pattern declares shorthand]
      · have proper := ((leads.trans below).within sound.nested).1
        have reference := isDeclaration_inside_pattern proper above held inhabited through
        have deeper : bound ≠ pattern := by
          rintro rfl
          have lengths := below.length_above_le
          rw [above, List.length_cons] at lengths
          omega
        simp [reference, shorthand, deeper]
  · intro name bytes symbol container moduleName
    have spells : code.Spells name bound := ⟨leads.trans binds.leads, identifier, bytes⟩
    rw [spells.reports_any_iff parsed sound, spells.mentions_iff sound]
    constructor
    · rintro ⟨own, reference, refers⟩
      refine ⟨reference, own, ?_⟩
      cases wanted : container.filter (· != "") with
      | none => rfl
      | some receiver =>
        rw [wanted, refersTo_some] at refers
        obtain ⟨_, access, _⟩ := refers
        rw [memberReceiver?_of_bindingName named] at access
        cases access
    · rintro ⟨reference, own, plain⟩
      rw [plain, refersTo_none]
      exact ⟨own, reference, memberReceiver?_of_bindingName named⟩

def nestedPatterns : Code :=
  ⟨.ofText "/w/a.ts" text, parse .typescript text.toList⟩
where
  text : String := "const\x7ba,b:[c,\x7bd=1\x7d],...e\x7d=f;for(let[g=2]of f)(h,...[i])=>h"

theorem nestedPatterns_parsed : nestedPatterns.document.code? = some nestedPatterns :=
  Document.code?_ofText (by decide) nestedPatterns.text

/-- Of the seven names three are known as declarations, and the search for any other one reports it. -/
theorem bound_isDeclaration_iff_nestedPatterns :
    let code := nestedPatterns
    code.document.code? = some code ∧ code.tree.Sound ∧
      code.boundNames.map (fun bound => (code.textOf bound.node, isDeclaration bound)) =
        [("a", true), ("c", false), ("d", true), ("e", false), ("g", false), ("h", true),
          ("i", false)] ∧
      ∀ bound ∈ code.boundNames, ∀ name, code.bytesOf bound.node = encode name.toList →
        (code.document.Reports name none none (code.rangeOf bound.node) ↔
          isDeclaration bound = false) := by
  intro code
  have parsed : code.document.code? = some code := nestedPatterns_parsed
  obtain ⟨sound, names⟩ : code.tree.Sound ∧
      code.boundNames.map (fun bound => (code.textOf bound.node, isDeclaration bound)) =
        [("a", true), ("c", false), ("d", true), ("e", false), ("g", false), ("h", true),
          ("i", false)] := by
    decide +kernel
  refine ⟨parsed, sound, names, ?_⟩
  intro bound member name bytes
  obtain ⟨site, inside, pattern, declares, binds⟩ := exists_of_mem_boundNames member
  have reported := (bound_isDeclaration_iff parsed sound inside declares binds).2 name bytes name none none
  simpa using reported

def restParameter : Code :=
  ⟨.ofText "/w/a.ts" text, parse .typescript text.toList⟩
where
  text : String := "function f(...args) \x7b\x7d\n"

theorem restParameter_parsed : restParameter.document.code? = some restParameter :=
  Document.code?_ofText (by decide) restParameter.text

/-- The parameter after the dots is bound but not known as a declaration, and the search for it reports
the place where it is bound. -/
theorem bound_reported_restParameter :
    let code := restParameter
    code.document.code? = some code ∧ code.tree.Sound ∧
      ∃ site ∈ code.walk, ∃ pattern bound, code.patternOf? site = some pattern ∧ Binds pattern bound ∧
        code.textOf bound.node = "args" ∧ isDeclaration bound = false ∧
        code.document.Reports "args" none none (code.rangeOf bound.node) := by
  intro code
  have parsed : code.document.code? = some code := restParameter_parsed
  obtain ⟨sound, names⟩ : code.tree.Sound ∧ code.boundNames.map (fun bound =>
      (code.bytesOf bound.node, code.textOf bound.node, isDeclaration bound)) =
        [(encode "args".toList, "args", false)] := by
    decide +kernel
  obtain ⟨bound, whole, same⟩ := List.map_eq_singleton_iff.mp names
  obtain ⟨bytes, text, reference⟩ : code.bytesOf bound.node = encode "args".toList ∧
      code.textOf bound.node = "args" ∧ isDeclaration bound = false := by simpa using same
  obtain ⟨site, inside, pattern, declares, binds⟩ :=
    exists_of_mem_boundNames (whole ▸ List.mem_singleton_self bound)
  have leads := (code.leads_of_mem_walk inside).trans (leads_of_patternOf? declares)
  have named := binds.isBindingName
  have spells : code.Spells "args" bound :=
    ⟨leads.trans binds.leads, Kind.isIdentifier_of_isBindingName named, bytes⟩
  have reported := (spells.fallsIn_reference_iff parsed sound none).mpr
    ⟨reference, memberReceiver?_of_bindingName named⟩
  exact ⟨parsed, sound, site, inside, pattern, bound, declares, binds, text, reference, reported⟩

end Code

end ModuleScope
