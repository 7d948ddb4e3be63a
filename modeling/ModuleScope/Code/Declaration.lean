import ModuleScope.Code.Basic
import ModuleScope.Symbol

/-!
Declarations: which identifiers introduce a name, and the definitions a document holds.
-/
namespace ModuleScope.Code

open TypeScript

/-- Whether an identifier introduces a name rather than referring to one. -/
def isDeclaration (site : Site) : Bool :=
  if site.kind == .shorthandPropertyIdentifierPattern then true
  else match site.above with
    | [] => false
    | parent :: _ =>
      if parent.kind.namesDeclaration then parent.holds .name site.node
      else if parent.kind.isParameter then parent.holds .pattern site.node
      else match parent.kind with
        | .arrowFunction => parent.holds .parameter site.node
        | .pair | .pairPattern => parent.holds .key site.node
        | .enumBody => true
        | .enumAssignment =>
          match (parent.child? .name).or parent.namedChildren.head? with
          | some name => name.sameNode site.node
          | none => false
        | _ => false

/-- Whether a variable is declared directly in the program or in an export of it. -/
def isTopLevel (declarator : Site) : Bool :=
  match declarator.above with
  | declaration :: owner :: above =>
    declaration.kind.isVariableDeclaration &&
      (if owner.kind == .exportStatement then
        match above with
        | outer :: _ => outer.kind == .program
        | [] => false
      else owner.kind == .program)
  | _ => false

/-- The kind of a class by its decorators, of which the last that says something counts. -/
def classKind (code : Code) (site : Site) : SymbolKind :=
  if site.kind == .classDeclaration || site.kind == .abstractClassDeclaration then
    (decoratorsOf site).foldl (fun kind decorator =>
      ((code.decoratorName? decorator).bind SymbolKind.ofDecorator?).getD kind) .classType
  else .classType

def ownerName? (code : Code) (member : Site) : Option String :=
  match member.above with
  | _ :: owner :: _ => if owner.kind.isTypeDeclaration then code.nameOf? owner else none
  | _ => none

def definition (code : Code) (site : Site) (name : String) (kind : SymbolKind)
    (container : Option String) : Definition :=
  { name, file := code.document.path, range := code.rangeOf site.node, kind, container }

def declarationOf? (code : Code) (site : Site) (name : String) : Option Definition :=
  let kind := site.kind
  if kind.isTypeDeclaration then some (code.definition site name (code.classKind site) none)
  else if kind.isMethod then some (code.definition site name .method (code.ownerName? site))
  else if kind.isField then some (code.definition site name .field (code.ownerName? site))
  else if kind.isFunction then some (code.definition site name .function none)
  else if kind == .variableDeclarator && isTopLevel site then
    some (code.definition site name .field none)
  else none

def declarationAt? (code : Code) (identifier : Site) (name : String) : Option Definition := do
  let parent ← identifier.parent?
  guard (parent.node.holds .name identifier.node)
  code.declarationOf? parent name

def matchesContainer (container owner : Option String) : Bool :=
  match container with
  | none => true
  | some wanted => owner == some wanted

/-- The definition that a node gives for a name; the container restricts methods and fields only. -/
def matching? (code : Code) (name : String) (container : Option String) (site : Site) :
    Option Definition :=
  let kind := site.kind
  if kind.isTypeDeclaration then
    if code.nameOf? site.node == some name then
      some (code.definition site name (code.classKind site) none)
    else none
  else if kind.isMethod || kind.isField then
    let owner := code.ownerName? site
    if code.nameOf? site.node == some name && matchesContainer container owner then
      some (code.definition site name (if kind.isMethod then .method else .field) owner)
    else none
  else if kind.isFunction then
    if code.nameOf? site.node == some name then some (code.definition site name .function none)
    else none
  else if kind == .variableDeclarator then
    match site.node.child? .name with
    | some declared =>
      if declared.kind == .identifier && code.textOf declared == name && isTopLevel site then
        some (code.definition site name .field none)
      else none
    | none => none
  else none

def declarations (code : Code) (name : String) (container : Option String) : List Definition :=
  code.walk.filterMap (code.matching? name container)

def firstDeclaration? (code : Code) (name : String) (container : Option String) :
    Option Definition :=
  code.walk.findSome? (code.matching? name container)

end ModuleScope.Code
