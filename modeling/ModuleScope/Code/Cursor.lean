import ModuleScope.Code.Declaration
import ModuleScope.Code.Receiver

/-!
The word under a cursor and what its place in the syntax tree says about it.
-/
namespace ModuleScope

open TypeScript

/-- The word under a cursor, its bytes, and the identifier that spans exactly them. -/
structure CursorWord where
  name : String
  span : Span
  site : Option Site

namespace CursorWord

def receiver? (word : CursorWord) : Option Site := word.site.bind Code.memberReceiver?

def isPropertyAccess (word : CursorWord) : Bool := word.receiver?.isSome

end CursorWord

def Document.wordAt? (document : Document) (tree : Option Tree) (position : Position) :
    Option CursorWord := do
  let range ← document.wordRangeAt position
  let name := document.textOf range
  guard (name != "")
  let span : Span := ⟨document.offsetAt range.start, document.offsetAt range.stop⟩
  return { name, span, site := tree.bind fun tree => tree.identifierAt span }

namespace Code

def wordAt? (code : Code) (position : Position) : Option CursorWord :=
  code.document.wordAt? (some code.tree) position

def receiverTypeOf? (code : Code) (word : CursorWord) : Option String :=
  word.receiver?.bind (code.receiverType? code.annotations)

def declarationAtWord? (code : Code) (word : CursorWord) : Option Definition :=
  word.site.bind fun site => code.declarationAt? site word.name

end Code

end ModuleScope
