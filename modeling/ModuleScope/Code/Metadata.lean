import ModuleScope.Code.Basic
import ModuleScope.Symbol

/-!
Module metadata: the object given to the decorator `@Module` of a class. Only plain names in the
arrays count; calls, spreads and provider objects are passed over.
-/
namespace ModuleScope.Code

open TypeScript

def moduleMetadata? (code : Code) (site : Site) : Option Tree :=
  (decoratorsOf site).findSome? fun decorator =>
    if code.decoratorName? decorator == some "Module" then
      (decoratorArguments decorator).head?.filter fun argument => argument.kind == .object
    else none

def propertyName (code : Code) (key : Tree) : String :=
  String.ofList (Text.trimBoth (fun c => c == '\x27' || c == '\x22') (code.textOf key).toList)

/-- The plain names in the arrays held under a property; a property may be written repeatedly. -/
def namesUnder (code : Code) (metadata : Tree) (property : String) : List String :=
  metadata.namedChildren.flatMap fun pair =>
    if pair.kind == .pair then
      match pair.child? .key, pair.child? .value with
      | some key, some value =>
        if value.kind == .array && code.propertyName key == property then
          (value.namedChildren.filter fun element => element.kind == .identifier).map code.textOf
        else []
      | _, _ => []
    else []

def moduleOf? (code : Code) (site : Site) : Option Module := do
  guard site.kind.isClass
  let name ← code.nameOf? site.node
  guard (name != "")
  let metadata ← code.moduleMetadata? site
  return {
    name
    file := code.document.path
    imports := code.namesUnder metadata "imports"
    exported := code.namesUnder metadata "exports"
    providers := code.namesUnder metadata "providers"
    controllers := code.namesUnder metadata "controllers" }

def module? (code : Code) : Option Module := code.walk.findSome? code.moduleOf?

end ModuleScope.Code
