import ModuleScope.Code.Basic

/-!
Receivers of member accesses and the types declared for them. Only explicit annotations count: those
of constructor parameters, class fields and variables, the first of a name being its type.
-/
namespace ModuleScope.Code

open TypeScript

def memberReceiver? (site : Site) : Option Site := do
  guard (site.kind == .propertyIdentifier)
  let parent ← site.parent?
  guard (parent.kind == .memberExpression)
  guard (parent.node.holds .property site.node)
  parent.child? .object

/-- The single named type of an annotation: of `ns.Foo` the last part, of `Foo<Bar>` the first. -/
def annotatedTypeName? (code : Code) (clause : Tree) : Option String := do
  guard (clause.kind == .declaredType)
  let written ← clause.namedChildren.head?
  let base ←
    if written.kind == .genericType then
      match written.child? .name with
      | some name => some name
      | none => written.namedChildren.head?
    else some written
  let named ←
    if base.kind == .nestedTypeIdentifier then base.namedChildren.getLast? else some base
  if named.kind == .typeIdentifier then some (code.textOf named) else none

def inConstructor (code : Code) (parameter : Site) : Bool :=
  match parameter.above with
  | parameters :: method :: _ =>
    parameters.kind == .formalParameters && method.kind == .methodDefinition &&
      code.nameOf? method == some "constructor"
  | _ => false

def annotatedName? (code : Code) (site : Site) : Option String :=
  if site.kind.isParameter && code.inConstructor site then
    ((site.node.child? .pattern).filter fun name => name.kind == .identifier).map code.textOf
  else if site.kind == .publicFieldDefinition then code.nameOf? site.node
  else if site.kind == .variableDeclarator then
    ((site.node.child? .name).filter fun name => name.kind == .identifier).map code.textOf
  else none

def annotated? (code : Code) (site : Site) : Option (String × String) := do
  let name ← code.annotatedName? site
  let written ← site.node.child? .type
  let type ← code.annotatedTypeName? written
  guard (type != "")
  return (name, type)

def annotations (code : Code) : List (String × String) := code.walk.filterMap code.annotated?

def typeIn (annotations : List (String × String)) (name : String) : Option String :=
  (annotations.find? fun entry => entry.1 == name).map fun entry => entry.2

def typeOf? (code : Code) (name : String) : Option String := typeIn code.annotations name

/-- The declared type of what stands left of a dot: the class around `this`, and the type declared
for a name or for the last name of a chain. -/
def receiverTypeIn (code : Code) (annotations : List (String × String)) (node : Tree)
    (above : List Tree) : Option String :=
  match node with
  | .node kind label span children =>
    match kind with
    | .thisExpression =>
      ((Site.mk (.node kind label span children) above).enclosingClass?).bind fun owner =>
        code.nameOf? owner.node
    | .identifier => typeIn annotations (code.textOf (.node kind label span children))
    | .memberExpression =>
      match (TypeScript.Tree.node kind label span children).child? .property with
      | some property =>
        if property.kind == .propertyIdentifier then typeIn annotations (code.textOf property)
        else none
      | none => none
    | .nonNullExpression => firstNamed (.node kind label span children :: above) children
    | _ => none
where
  firstNamed (above : List Tree) : List Tree → Option String
    | [] => none
    | child :: rest =>
      if child.isNamed then receiverTypeIn code annotations child above else firstNamed above rest

def receiverType? (code : Code) (annotations : List (String × String)) (receiver : Site) :
    Option String :=
  code.receiverTypeIn annotations receiver.node receiver.above

end ModuleScope.Code
