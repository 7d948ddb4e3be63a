import ModuleScope.Document
import ModuleScope.Path
import ModuleScope.TypeScript.Parse

/-!
Documents together with their syntax trees, and the questions about classes and decorators that
definitions, usages and modules share.
-/
namespace ModuleScope

open TypeScript

def dialectOfSuffix (suffix : String) : Option Dialect :=
  match String.ofList (suffix.toList.map Char.toLower) with
  | ".ts" => some .typescript
  | ".tsx" => some .tsx
  | _ => none

/-- The grammar for a file, chosen by its suffix in lower case. -/
def dialectOf (path : String) : Option Dialect := dialectOfSuffix (Path.ofString path).suffix

structure Code where
  document : Document
  tree : Tree

def Document.code? (document : Document) : Option Code :=
  (dialectOf document.path).map fun dialect =>
    { document, tree := parse dialect document.text.toList }

namespace Code

def bytesOf (code : Code) (node : Tree) : List UInt8 := code.document.slice node.start node.stop

def textOf (code : Code) (node : Tree) : String :=
  String.ofList (Text.Utf8.decodeLossy (code.bytesOf node))

def rangeOf (code : Code) (node : Tree) : Range := code.document.rangeOf node.start node.stop

def walk (code : Code) : List Site := code.tree.walk

def nameOf? (code : Code) (node : Tree) : Option String := (node.child? .name).map code.textOf

/-- The decorators of a class; those before `export` are children of the export statement. -/
def decoratorsOf (site : Site) : List Tree :=
  let own := site.node.children.filter fun child => child.kind == .decorator
  match site.above with
  | parent :: _ =>
    if parent.kind == .exportStatement then
      (parent.children.filter fun child => child.kind == .decorator) ++ own
    else own
  | [] => own

/-- The name of a decorator that is a plain name or a call of one. -/
def decoratorName? (code : Code) (decorator : Tree) : Option String := do
  let expression ← decorator.namedChildren.head?
  let named ←
    if expression.kind == .callExpression then expression.child? .function else some expression
  if named.kind == .identifier then some (code.textOf named) else none

def decoratorArguments (decorator : Tree) : List Tree :=
  match decorator.namedChildren.find? fun child => child.kind == .callExpression with
  | some call =>
    match call.child? .arguments with
    | some arguments => arguments.namedChildren
    | none => []
  | none => []

end Code

end ModuleScope
