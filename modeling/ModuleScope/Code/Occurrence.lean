import ModuleScope.Code.Declaration
import ModuleScope.Code.Receiver

/-!
Occurrences of a symbol in one document. Declarations do not count; for a member, only accesses whose
receiver is declared with the container as its type do, and for any other symbol no access does.
-/
namespace ModuleScope.Code

open TypeScript

def occursIn (part : List UInt8) : List UInt8 → Bool
  | [] => part.isEmpty
  | byte :: rest => part.isPrefixOf (byte :: rest) || occursIn part rest

def refersTo (code : Code) (annotations : List (String × String)) (container : Option String)
    (site : Site) : Bool :=
  match container, memberReceiver? site with
  | some wanted, some receiver => code.receiverType? annotations receiver == some wanted
  | some _, none => false
  | none, some _ => false
  | none, none => true

def usage (code : Code) (moduleName : Option String) (node : Tree) : Usage :=
  let range := code.rangeOf node
  { file := code.document.path
    range
    preview := String.ofList (Text.trimBoth Text.isBlank (code.document.lineText range.start.line.toNat))
    moduleName }

def occurrences (code : Code) (symbol : String) (container moduleName : Option String) :
    List Usage :=
  let name := Text.Utf8.encode symbol.toList
  let annotations := if container.isSome then code.annotations else []
  (code.walk.filter fun site =>
    site.kind.isIdentifier && code.bytesOf site.node == name && !isDeclaration site &&
      code.refersTo annotations container site).map fun site => code.usage moduleName site.node

end ModuleScope.Code

namespace ModuleScope

/-- The usages of a symbol in a document. An empty container counts as none, and a document without
the bytes of the symbol is not read at all. -/
def Document.usages (document : Document) (symbol : String) (container moduleName : Option String) :
    List Usage :=
  if Code.occursIn (Text.Utf8.encode symbol.toList) document.source then
    match document.code? with
    | some code => code.occurrences symbol (container.filter (· != "")) moduleName
    | none => []
  else []

end ModuleScope
