import Mathlib
import ModuleScope.Code.Metadata
import ModuleScope.Code.Receiver
import ModuleScope.Proofs.CommentInsertion

/-!
Comments and what is read from a document. A comment hides what it stands before at three places: the
name of a decorator, the first argument of a decorator and the type in an annotation. Everywhere else
comments change neither the module of a document nor the types of its names.
-/
namespace ModuleScope

open TypeScript

theorem Text.head?_trimBoth {drop : Char → Bool} {text : List Char} {first : Char}
    (begins : text.head? = some first) (kept : drop first = false) :
    (trimBoth drop text).head? = some first := by
  cases text with
  | nil => cases begins
  | cons c rest =>
    obtain rfl : c = first := by simpa using begins
    rw [trimBoth, List.dropWhile_cons_of_neg (by simp [kept]), trimEnd, List.head?_reverse,
      List.reverse_cons, List.dropWhile_append]
    split
    · simp [kept]
    · simp

namespace Code

variable {code code' : Code} {tree tree' : Tree}

theorem bind_eq_of_rel {Result : Type} {same : Tree → Tree → Prop} {found found' : Option Tree}
    {next next' : Tree → Option Result} (related : Option.Rel same found found')
    (agrees : ∀ part part', same part part' → next' part' = next part) :
    found'.bind next' = found.bind next := by
  cases related with
  | none => rfl
  | some same => exact agrees _ _ same

theorem findSome?_rel {Item : Type} {same : Tree → Tree → Prop} {read read' : Item → Option Tree}
    {items : List Item} (related : ∀ item ∈ items, Option.Rel same (read item) (read' item)) :
    Option.Rel same (items.findSome? read) (items.findSome? read') := by
  induction items with
  | nil => exact .none
  | cons item rest ih =>
    rw [List.findSome?_cons, List.findSome?_cons]
    rcases rel_cases (related item List.mem_cons_self) with
      ⟨absent, absent'⟩ | ⟨part, part', found, found', agree⟩
    · rw [absent, absent']
      exact ih fun later member => related later (List.mem_cons_of_mem item member)
    · rw [found, found']
      exact .some agree

theorem findSome?_congr {Item Result : Type} {read read' : Item → Option Result} {items : List Item}
    (equal : ∀ item ∈ items, read item = read' item) :
    items.findSome? read = items.findSome? read' := by
  induction items with
  | nil => rfl
  | cons item rest ih =>
    rw [List.findSome?_cons, List.findSome?_cons, equal item List.mem_cons_self,
      ih fun later member => equal later (List.mem_cons_of_mem item member)]

def metadataOf? (code : Code) (decorator : Tree) : Option Tree :=
  if code.decoratorName? decorator == some "Module" then
    (decoratorArguments decorator).head?.filter fun argument => argument.kind == .object
  else none

theorem moduleMetadata?_eq (code : Code) (site : Site) :
    code.moduleMetadata? site = (decoratorsOf site).findSome? code.metadataOf? := rfl

/-- Whether a comment stands before the name or before the first argument of a decorator. -/
def hidesMetadata (decorator : Tree) : Bool :=
  opensWithComment decorator.namedChildren || opensWithComment (decoratorArguments decorator)

namespace Alike

theorem textOf_sought (alike : code.Alike code' tree tree') {sought : Kind}
    (same : (tree.kind == sought) = true) (plain : sought.isPlainName = true) :
    code'.textOf tree' = code.textOf tree := by
  rw [← eq_of_beq same] at plain
  exact alike.textOf_plain plain

theorem word_eq (alike : code.Alike code' tree tree') {sought : Kind}
    (plain : sought.isPlainName = true) :
    (if tree'.kind == sought then some (code'.textOf tree') else none) =
      if tree.kind == sought then some (code.textOf tree) else none := by
  rw [alike.kind]
  split
  · rename_i same
    rw [alike.textOf_sought same plain]
  · rfl

theorem childWord_eq (alike : code.Alike code' tree tree') (label : Label) {sought : Kind}
    (plain : sought.isPlainName = true) :
    ((tree'.child? label).filter fun part => part.kind == sought).map code'.textOf =
      ((tree.child? label).filter fun part => part.kind == sought).map code.textOf := by
  rcases rel_cases (alike.child? label) with ⟨absent, absent'⟩ | ⟨part, part', held, held', related⟩
  · rw [absent, absent']
    rfl
  · rw [held, held', Option.filter_some, Option.filter_some, related.kind]
    split
    · rename_i same
      rw [Option.map_some, Option.map_some, related.textOf_sought same plain]
    · rfl

theorem words_eq {parts parts' : List Tree} (row : Interspersed (code.Alike code') parts parts')
    {sought : Kind} (plain : sought.isPlainName = true) :
    (parts'.filter fun part => part.kind == sought).map code'.textOf =
      (parts.filter fun part => part.kind == sought).map code.textOf := by
  induction row with
  | nil => rfl
  | part related _ ih =>
    rw [List.filter_cons, List.filter_cons, related.kind]
    split
    · rename_i same
      rw [List.map_cons, List.map_cons, ih, related.textOf_sought same plain]
    · exact ih
  | @comment added _ _ isComment _ ih =>
    have other : (added.kind == sought) = false := by
      rw [Tree.kind_of_isComment isComment]
      by_contra same
      obtain rfl : Kind.comment = sought := by simpa using same
      cases plain
    rw [List.filter_cons, other]
    exact ih

theorem decoratorName?_eq (alike : code.Alike code' tree tree') :
    code'.decoratorName? tree' =
      if opensWithComment tree'.namedChildren then none else code.decoratorName? tree := by
  split
  · rename_i opens
    obtain ⟨first, found, comment⟩ := exists_of_opensWithComment opens
    simp [decoratorName?, found, comment]
  · rename_i plain
    rcases rel_cases (alike.namedChildren.head? (by simpa using plain)) with
      ⟨absent, absent'⟩ | ⟨first, first', found, found', related⟩
    · simp [decoratorName?, absent, absent']
    · simp only [decoratorName?, found, found', related.kind, Option.bind_eq_bind, Option.bind_some]
      split
      · rcases rel_cases (related.child? .function) with
          ⟨absent, absent'⟩ | ⟨named, named', called, called', same⟩
        · simp [absent, absent']
        · rw [called, called', Option.bind_some, Option.bind_some]
          exact same.word_eq rfl
      · simpa only [related.kind] using related.word_eq (show Kind.identifier.isPlainName = true from rfl)

theorem decoratorArguments (alike : code.Alike code' tree tree') :
    Interspersed (code.Alike code') (Code.decoratorArguments tree)
      (Code.decoratorArguments tree') := by
  have calls := head?_of_forall₂ (ofKind alike.namedChildren (show Kind.callExpression ≠ .comment by decide))
  rw [List.head?_filter, List.head?_filter] at calls
  rcases rel_cases calls with ⟨absent, absent'⟩ | ⟨call, call', found, found', related⟩
  · simp only [Code.decoratorArguments, absent, absent']
    exact .nil
  · simp only [Code.decoratorArguments, found, found']
    rcases rel_cases (related.child? .arguments) with
      ⟨absent, absent'⟩ | ⟨arguments, arguments', held, held', same⟩
    · simp only [absent, absent']
      exact .nil
    · simp only [held, held']
      exact same.namedChildren

theorem metadataOf? (alike : code.Alike code' tree tree') :
    Option.Rel (code.Alike code') (if hidesMetadata tree' then none else code.metadataOf? tree)
      (code'.metadataOf? tree') := by
  by_cases named : opensWithComment tree'.namedChildren = true
  · simp only [hidesMetadata, Code.metadataOf?, alike.decoratorName?_eq, named]
    exact .none
  by_cases given : opensWithComment (Code.decoratorArguments tree') = true
  · obtain ⟨first, found, comment⟩ := exists_of_opensWithComment given
    have nothing : code'.metadataOf? tree' = none := by simp [Code.metadataOf?, found, comment]
    simp only [hidesMetadata, given, Bool.or_true, if_true, nothing]
    exact .none
  simp only [Bool.not_eq_true] at named given
  simp only [hidesMetadata, named, given, Bool.or_false, Bool.false_eq_true, if_false,
    Code.metadataOf?, alike.decoratorName?_eq]
  split
  · rcases rel_cases (alike.decoratorArguments.head? given) with
      ⟨absent, absent'⟩ | ⟨first, first', found, found', related⟩
    · rw [absent, absent']
      exact .none
    · rw [found, found', Option.filter_some, Option.filter_some, related.kind]
      split
      · exact .some related
      · exact .none
  · exact .none

theorem className_eq (alike : code.Alike code' tree tree') (isClass : tree.kind.isClass = true) :
    code'.nameOf? tree' = code.nameOf? tree := by
  rcases rel_cases (alike.child? .name) with ⟨absent, absent'⟩ | ⟨name, name', held, held', related⟩
  · rw [nameOf?, nameOf?, absent, absent']
    rfl
  · have part : namePart? tree = some name := by simp [namePart?, isClass, held]
    rcases alike.textOf_namePart part related with same | ⟨other, _⟩
    · rw [nameOf?, nameOf?, held, held', Option.map_some, Option.map_some, same]
    · rw [isClass] at other
      cases other

theorem memberName_eq_iff (alike : code.Alike code' tree tree')
    (member : tree.kind = .methodDefinition ∨ tree.kind = .publicFieldDefinition) {name : String}
    (unbracketed : name.toList.head? ≠ some '[') :
    code'.nameOf? tree' = some name ↔ code.nameOf? tree = some name := by
  rcases rel_cases (alike.child? .name) with ⟨absent, absent'⟩ | ⟨part, part', held, held', related⟩
  · rw [nameOf?, nameOf?, absent, absent']
    rfl
  · have named : namePart? tree = some part := by
      rcases member with method | field
      · simp [namePart?, method, held]
      · simp [namePart?, field, held]
    rw [nameOf?, nameOf?, held, held', Option.map_some, Option.map_some, Option.some_inj, Option.some_inj]
    rcases alike.textOf_namePart named related with same | ⟨_, bracket, bracket'⟩
    · rw [same]
    · constructor
      · rintro rfl
        exact absurd bracket' unbracketed
      · rintro rfl
        exact absurd bracket unbracketed

theorem propertyName_eq_iff {key key' : Tree} (alike : code.Alike code' tree tree')
    (held : namePart? tree = some key) (related : code.Alike code' key key') {property : String}
    (unbracketed : property.toList.head? ≠ some '[') :
    code'.propertyName key' = property ↔ code.propertyName key = property := by
  rcases alike.textOf_namePart held related with same | ⟨_, bracket, bracket'⟩
  · rw [propertyName, propertyName, same]
  · constructor
    · rintro rfl
      exact absurd (Text.head?_trimBoth bracket' rfl) (by simpa [propertyName] using unbracketed)
    · rintro rfl
      exact absurd (Text.head?_trimBoth bracket rfl) (by simpa [propertyName] using unbracketed)

theorem namesUnder_eq (alike : code.Alike code' tree tree') {property : String}
    (unbracketed : property.toList.head? ≠ some '[') :
    code'.namesUnder tree' property = code.namesUnder tree property := by
  have names : List.Forall₂ Eq (code.namesUnder tree property) (code'.namesUnder tree' property) := by
    apply alike.namedChildren.flatMap
    · intro pair _ pair' related
      rw [List.forall₂_eq_eq_eq, related.kind]
      split
      · rename_i isPair
        rcases rel_cases (related.child? .key) with
          ⟨absent, absent'⟩ | ⟨key, key', held, held', sameKey⟩
        · simp only [absent, absent']
        rcases rel_cases (related.child? .value) with
          ⟨absent, absent'⟩ | ⟨value, value', found, found', sameValue⟩
        · simp only [held, held', absent, absent']
        have part : namePart? pair = some key := by
          simp [namePart?, eq_of_beq isPair, held, Kind.isClass]
        simp only [held, held', found, found', sameValue.kind, Bool.and_eq_true, beq_iff_eq,
          related.propertyName_eq_iff part sameKey unbracketed]
        split
        · exact (words_eq sameValue.namedChildren rfl).symm
        · rfl
      · rfl
    · intro added isComment
      simp [Tree.kind_of_isComment isComment]
  rw [List.forall₂_eq_eq_eq] at names
  exact names.symm

end Alike

namespace Paired

variable {site site' : Site}

theorem decoratorsOf (paired : code.Paired code' site site') :
    List.Forall₂ (code.Alike code') (Code.decoratorsOf site) (Code.decoratorsOf site') := by
  have other : Kind.decorator ≠ .comment := by decide
  have own := Alike.ofKind paired.node.children other
  rcases site with ⟨tree, above⟩
  rcases site' with ⟨tree', above'⟩
  cases paired.above with
  | nil => exact own
  | cons parent _ =>
    simp only [Code.decoratorsOf, parent.kind]
    split
    · exact List.rel_append (Alike.ofKind parent.children other) own
    · exact own

end Paired

def describedBy? (code : Code) (site : Site) (metadata : Tree) : Option Module := do
  guard site.kind.isClass
  let name ← code.nameOf? site.node
  guard (name != "")
  return {
    name
    file := code.document.path
    imports := code.namesUnder metadata "imports"
    exported := code.namesUnder metadata "exports"
    providers := code.namesUnder metadata "providers"
    controllers := code.namesUnder metadata "controllers" }

theorem moduleOf?_eq (code : Code) (site : Site) :
    code.moduleOf? site = (code.moduleMetadata? site).bind (code.describedBy? site) := by
  cases given : code.moduleMetadata? site with
  | none => simp [moduleOf?, given]
  | some metadata => simp [moduleOf?, describedBy?, given]

theorem moduleOf?_of_comment {code : Code} (site : Site) (comment : site.kind = .comment) :
    code.moduleOf? site = none := by
  simp [moduleOf?, comment, Kind.isClass]

def shownMetadata? (code : Code) (pair : Site × Site) : Option Tree :=
  ((decoratorsOf pair.1).zip (decoratorsOf pair.2)).findSome? fun decorators =>
    if hidesMetadata decorators.2 then none else code.metadataOf? decorators.1

def shownModule? (code : Code) (pair : Site × Site) : Option Module :=
  (code.shownMetadata? pair).bind (code.describedBy? pair.1)

/-- No comment hides metadata that is read without it. -/
def MetadataShown (code code' : Code) : Prop :=
  ∀ pair ∈ code.counterparts code', pair.1.kind.isClass = true →
    ∀ decorators ∈ (decoratorsOf pair.1).zip (decoratorsOf pair.2),
      hidesMetadata decorators.2 = true → (code.metadataOf? decorators.1).isNone = true

instance (code code' : Code) : Decidable (code.MetadataShown code') :=
  inferInstanceAs (Decidable (∀ pair ∈ code.counterparts code', _))

namespace Paired

variable {pair : Site × Site}

theorem moduleMetadata? (paired : code.Paired code' pair.1 pair.2) :
    Option.Rel (code.Alike code') (code.shownMetadata? pair) (code'.moduleMetadata? pair.2) := by
  have decorators := List.map_snd_zip paired.decoratorsOf.length_eq.ge
  rw [moduleMetadata?_eq, ← decorators, List.findSome?_map]
  apply findSome?_rel
  intro both member
  exact (List.forall₂_zip paired.decoratorsOf member).metadataOf?

theorem describedBy?_eq (paired : code.Paired code' pair.1 pair.2)
    (path : code'.document.path = code.document.path) (alike : code.Alike code' tree tree') :
    code'.describedBy? pair.2 tree' = code.describedBy? pair.1 tree := by
  have kind : pair.2.kind = pair.1.kind := paired.node.kind
  by_cases isClass : pair.1.kind.isClass = true
  · have imports := alike.namesUnder_eq (show "imports".toList.head? ≠ some '[' by decide)
    have exports := alike.namesUnder_eq (show "exports".toList.head? ≠ some '[' by decide)
    have providers := alike.namesUnder_eq (show "providers".toList.head? ≠ some '[' by decide)
    have controllers := alike.namesUnder_eq (show "controllers".toList.head? ≠ some '[' by decide)
    simp only [describedBy?, kind, path, paired.node.className_eq isClass, imports, exports, providers,
      controllers]
  · simp [describedBy?, kind, isClass]

theorem shownModule?_eq (paired : code.Paired code' pair.1 pair.2)
    (path : code'.document.path = code.document.path) :
    code'.moduleOf? pair.2 = code.shownModule? pair := by
  rw [moduleOf?_eq, shownModule?]
  exact bind_eq_of_rel paired.moduleMetadata? fun _ _ => paired.describedBy?_eq path

theorem shownModule?_of_shown (paired : code.Paired code' pair.1 pair.2)
    (shown : pair.1.kind.isClass = true →
      ∀ decorators ∈ (Code.decoratorsOf pair.1).zip (Code.decoratorsOf pair.2),
        hidesMetadata decorators.2 = true → (code.metadataOf? decorators.1).isNone = true) :
    code.shownModule? pair = code.moduleOf? pair.1 := by
  by_cases isClass : pair.1.kind.isClass = true
  · have decorators := List.map_fst_zip paired.decoratorsOf.length_eq.le
    have metadata : code.shownMetadata? pair = code.moduleMetadata? pair.1 := by
      rw [moduleMetadata?_eq, ← decorators, List.findSome?_map]
      apply findSome?_congr
      intro both member
      split
      · rename_i hides
        exact (Option.isNone_iff_eq_none.mp (shown isClass both member hides)).symm
      · rfl
    rw [shownModule?, metadata, moduleOf?_eq]
  · have other : code.describedBy? pair.1 = fun _ => none := by
      funext metadata
      simp [describedBy?, isClass]
    rw [shownModule?, moduleOf?_eq, other]
    simp

end Paired

def typeBase? (tree : Tree) : Option Tree :=
  if tree.kind == .genericType then
    match tree.child? .name with
    | some name => some name
    | none => tree.namedChildren.head?
  else some tree

def lastPart? (tree : Tree) : Option Tree :=
  if tree.kind == .nestedTypeIdentifier then tree.namedChildren.getLast? else some tree

theorem bind_lastPart? {Result : Type} (tree : Tree) (next : Tree → Option Result) :
    (if tree.kind == .nestedTypeIdentifier then tree.namedChildren.getLast?.bind next
      else (some tree).bind next) = (lastPart? tree).bind next := by
  rw [lastPart?]
  split <;> rfl

theorem annotatedTypeName?_steps (code : Code) (clause : Tree) :
    code.annotatedTypeName? clause =
      if clause.kind == .declaredType then
        clause.namedChildren.head?.bind fun written => (typeBase? written).bind fun base =>
          (lastPart? base).bind fun named =>
            if named.kind == .typeIdentifier then some (code.textOf named) else none
      else none := by
  simp only [annotatedTypeName?, Option.bind_eq_bind, bind_lastPart?, guard]
  split
  · change clause.namedChildren.head?.bind _ = _
    congr 1
    funext written
    rw [typeBase?]
    split
    · cases written.child? .name <;> rfl
    · rfl
  · rfl

namespace Alike

theorem typeBase? (alike : code.Alike code' tree tree') :
    Option.Rel (code.Alike code') (Code.typeBase? tree) (Code.typeBase? tree') := by
  rw [Code.typeBase?, Code.typeBase?, alike.kind]
  split
  · rename_i generic
    rcases rel_cases (alike.child? .name) with ⟨absent, absent'⟩ | ⟨name, name', held, held', related⟩
    · rw [absent, absent']
      rcases alike.keeps.typeName with other | plain
      · exact absurd (eq_of_beq generic) other.1
      · exact alike.namedChildren.head? plain.1
    · rw [held, held']
      exact .some related
  · exact .some alike

theorem lastPart? (alike : code.Alike code' tree tree') :
    Option.Rel (code.Alike code') (Code.lastPart? tree) (Code.lastPart? tree') := by
  rw [Code.lastPart?, Code.lastPart?, alike.kind]
  split
  · rename_i nested
    rcases alike.keeps.typeName with other | plain
    · exact absurd (eq_of_beq nested) other.2
    · exact alike.namedChildren.getLast? plain.2
  · exact .some alike

theorem annotatedTypeName?_eq (alike : code.Alike code' tree tree') :
    code'.annotatedTypeName? tree' =
      if opensWithComment tree'.namedChildren then none else code.annotatedTypeName? tree := by
  split
  · rename_i opens
    obtain ⟨first, found, comment⟩ := exists_of_opensWithComment opens
    simp [annotatedTypeName?_steps, Code.typeBase?, Code.lastPart?, found, comment]
  · rename_i plain
    rw [annotatedTypeName?_steps, annotatedTypeName?_steps, alike.kind]
    split
    · apply bind_eq_of_rel (alike.namedChildren.head? (by simpa using plain))
      intro written written' sameWritten
      apply bind_eq_of_rel sameWritten.typeBase?
      intro base base' sameBase
      apply bind_eq_of_rel sameBase.lastPart?
      intro named named' sameNamed
      exact sameNamed.word_eq rfl
    · rfl

end Alike

def declaredType? (code : Code) (name : String) (site : Site) : Option String :=
  if code.annotatedName? site = some name then
    ((site.node.child? .type).bind code.annotatedTypeName?).filter fun type => type != ""
  else none

theorem declaredType?_of_comment {name : String} (site : Site) (comment : site.kind = .comment) :
    code.declaredType? name site = none := by
  simp [declaredType?, annotatedName?, comment, Kind.isParameter]

theorem annotated?_eq (code : Code) (site : Site) :
    code.annotated? site = (code.annotatedName? site).bind fun name =>
      (((site.node.child? .type).bind code.annotatedTypeName?).filter fun type => type != "").map
        fun type => (name, type) := by
  rw [annotated?]
  cases code.annotatedName? site with
  | none => rfl
  | some name =>
    cases site.node.child? .type with
    | none => rfl
    | some clause =>
      cases read : code.annotatedTypeName? clause with
      | none => simp [read]
      | some type => by_cases empty : type = "" <;> simp [read, empty]

theorem declaredType?_eq_filter (code : Code) (name : String) (site : Site) :
    code.declaredType? name site =
      ((code.annotated? site).filter fun entry => entry.1 == name).map fun entry => entry.2 := by
  rw [declaredType?, annotated?_eq]
  cases code.annotatedName? site with
  | none => rfl
  | some named =>
    rw [Option.bind_some]
    generalize ((site.node.child? .type).bind code.annotatedTypeName?).filter _ = type
    by_cases same : named = name
    · cases type <;> simp [same]
    · cases type <;> simp [same]

theorem typeOf?_eq (code : Code) (name : String) :
    code.typeOf? name = code.walk.findSome? (code.declaredType? name) := by
  rw [typeOf?, annotations]
  induction code.walk with
  | nil => rfl
  | cons site rest ih =>
    rw [List.findSome?_cons, ← ih, declaredType?_eq_filter, List.filterMap_cons]
    cases code.annotated? site with
    | none => rfl
    | some entry =>
      rw [Option.filter_some, typeIn, typeIn, List.find?_cons]
      cases entry.1 == name <;> rfl

/-- Whether a comment stands before the type in the annotation of a node. -/
def hidesType (tree : Tree) : Bool :=
  (tree.child? .type).any fun clause => opensWithComment clause.namedChildren

def shownType? (code : Code) (name : String) (pair : Site × Site) : Option String :=
  if hidesType pair.2.node then none else code.declaredType? name pair.1

/-- No comment hides a type that is read for a name without it. -/
def TypeShown (code code' : Code) (name : String) : Prop :=
  ∀ pair ∈ code.counterparts code', hidesType pair.2.node = true →
    (code.declaredType? name pair.1).isNone = true

instance (code code' : Code) (name : String) : Decidable (code.TypeShown code' name) :=
  inferInstanceAs (Decidable (∀ pair ∈ code.counterparts code', _))

namespace Paired

variable {site site' : Site}

theorem inConstructor_eq (paired : code.Paired code' site site') :
    code'.inConstructor site' = code.inConstructor site := by
  rcases site with ⟨tree, above⟩
  rcases site' with ⟨tree', above'⟩
  cases paired.above with
  | nil => rfl
  | cons parameters outer =>
    cases outer with
    | nil => rfl
    | @cons method _ _ _ same _ =>
      simp only [inConstructor, parameters.kind, same.kind]
      by_cases isMethod : method.kind = .methodDefinition
      · have named := same.memberName_eq_iff (.inl isMethod)
          (show "constructor".toList.head? ≠ some '[' by decide)
        rw [Bool.eq_iff_iff]
        simp [named]
      · rw [beq_false_of_ne isMethod, Bool.and_false, Bool.false_and, Bool.false_and]

theorem annotatedName?_iff (paired : code.Paired code' site site') {name : String}
    (unbracketed : name.toList.head? ≠ some '[') :
    code'.annotatedName? site' = some name ↔ code.annotatedName? site = some name := by
  have kind : site'.kind = site.kind := paired.node.kind
  rw [annotatedName?, annotatedName?, kind, paired.inConstructor_eq]
  by_cases parameter : (site.kind.isParameter && code.inConstructor site) = true
  · rw [if_pos parameter, if_pos parameter, paired.node.childWord_eq .pattern rfl]
  rw [if_neg parameter, if_neg parameter]
  by_cases field : (site.kind == .publicFieldDefinition) = true
  · rw [if_pos field, if_pos field]
    exact paired.node.memberName_eq_iff (.inr (eq_of_beq field)) unbracketed
  rw [if_neg field, if_neg field, paired.node.childWord_eq .name rfl]

theorem shownType?_eq {pair : Site × Site} (paired : code.Paired code' pair.1 pair.2) {name : String}
    (unbracketed : name.toList.head? ≠ some '[') :
    code'.declaredType? name pair.2 = code.shownType? name pair := by
  simp only [shownType?, declaredType?, paired.annotatedName?_iff unbracketed]
  rcases rel_cases (paired.node.child? .type) with
    ⟨absent, absent'⟩ | ⟨clause, clause', held, held', related⟩
  · simp [hidesType, absent, absent']
  · simp only [hidesType, held, held', Option.any_some, Option.bind_some, related.annotatedTypeName?_eq]
    split <;> split <;> simp

end Paired

/-- With comments put in, a document has the module of the first class whose metadata no comment hides,
and a name has the first type declared for it that no comment hides. So where comments hide nothing that
was read, the module and the types are what they were. -/
theorem readings_of_commented (readable : code.tree.all code.readable = true)
    (path : code'.document.path = code.document.path)
    (commented : code.commented code' code.tree code'.tree = true) :
    code'.module? = (code.counterparts code').findSome? code.shownModule? ∧
      (code.MetadataShown code' → code'.module? = code.module?) ∧
      ∀ name : String, name.toList.head? ≠ some '[' →
        code'.typeOf? name = (code.counterparts code').findSome? (code.shownType? name) ∧
          (code.TypeShown code' name → code'.typeOf? name = code.typeOf? name) := by
  have alike : code.Alike code' code.tree code'.tree := ⟨commented, readable⟩
  have modules : code'.module? = (code.counterparts code').findSome? code.shownModule? := by
    rw [module?, findSome?_walk' alike moduleOf?_of_comment]
    apply findSome?_congr
    intro pair member
    exact (paired_of_mem alike member).shownModule?_eq path
  refine ⟨modules, ?_, ?_⟩
  · intro shown
    rw [modules, module?, findSome?_walk alike moduleOf?_of_comment]
    apply findSome?_congr
    intro pair member
    exact (paired_of_mem alike member).shownModule?_of_shown (shown pair member)
  · intro name unbracketed
    have types : code'.typeOf? name = (code.counterparts code').findSome? (code.shownType? name) := by
      rw [typeOf?_eq, findSome?_walk' alike declaredType?_of_comment]
      apply findSome?_congr
      intro pair member
      exact (paired_of_mem alike member).shownType?_eq unbracketed
    refine ⟨types, ?_⟩
    intro shown
    rw [types, typeOf?_eq, findSome?_walk alike declaredType?_of_comment]
    apply findSome?_congr
    intro pair member
    rw [shownType?]
    split
    · rename_i hides
      exact (Option.isNone_iff_eq_none.mp (shown pair member hides)).symm
    · rfl

def bareModule : Code :=
  ⟨.ofText "/w/a.module.ts" text, parse .typescript text.toList⟩
where
  text : String := "@Module(\x7bproviders:[A]\x7d)class M\x7b[x]:B\x7dlet a:n.C<D>"

theorem bareModule_parsed : bareModule.document.code? = some bareModule :=
  Document.code?_ofText (by decide) bareModule.text

def commentedModule : Code :=
  ⟨.ofText "/w/a.module.ts" text, parse .typescript text.toList⟩
where
  text : String := "@Module(\x7b/**/providers:[A/**/]\x7d)/**/class M\x7b[/**/x]:B\x7dlet a/**/:n./**/C<D>"

/-- The module and the type are read past the comments. -/
theorem readings_of_commentedModule :
    bareModule.document.code? = some bareModule ∧
      commentedModule.document.code? = some commentedModule ∧
      bareModule.commented commentedModule bareModule.tree commentedModule.tree = true ∧
      commentedModule.module? = some
        ⟨"M", "/w/a.module.ts", [], [], ["A"], []⟩ ∧
      commentedModule.typeOf? "a" = some "C" := by
  obtain ⟨readable, commented, metadata, type, module, named⟩ :
      bareModule.tree.all bareModule.readable = true ∧
        bareModule.commented commentedModule bareModule.tree commentedModule.tree = true ∧
        bareModule.MetadataShown commentedModule ∧ bareModule.TypeShown commentedModule "a" ∧
        (bareModule.tree.sites []).findSome? bareModule.moduleOf? =
          some ⟨"M", "/w/a.module.ts", [], [], ["A"], []⟩ ∧
        typeIn ((bareModule.tree.sites []).filterMap bareModule.annotated?) "a" = some "C" := by
    decide +kernel
  obtain ⟨_, modules, types⟩ := readings_of_commented readable (by decide) commented
  refine ⟨bareModule_parsed, Document.code?_ofText (by decide) commentedModule.text,
    commented, ?_, ?_⟩
  · rw [modules metadata, module?, bareModule.walk_eq, module]
  · rw [(types "a" (by decide)).2 type, typeOf?, bareModule.annotations_eq, named]

def hiddenModule : Code :=
  ⟨.ofText "/w/a.module.ts" text, parse .typescript text.toList⟩
where
  text : String := "@Module(/**/\x7bproviders:[A]\x7d)class M\x7b[x]:B\x7dlet a:/**/n.C<D>"

/-- In these places comments hide what they stand before. -/
theorem readings_of_hiddenModule :
    bareModule.document.code? = some bareModule ∧ hiddenModule.document.code? = some hiddenModule ∧
      bareModule.commented hiddenModule bareModule.tree hiddenModule.tree = true ∧
      bareModule.module?.isSome = true ∧ hiddenModule.module? = none ∧
      bareModule.typeOf? "a" = some "C" ∧ hiddenModule.typeOf? "a" = none := by
  rw [module?, bareModule.walk_eq, module?, hiddenModule.walk_eq, typeOf?, bareModule.annotations_eq,
    typeOf?, hiddenModule.annotations_eq]
  exact ⟨bareModule_parsed, Document.code?_ofText (by decide) hiddenModule.text,
    by decide +kernel⟩

end Code

end ModuleScope
