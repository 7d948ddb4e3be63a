import ModuleScope.Code.Cursor
import ModuleScope.Work

/-!
Where the symbol under a cursor is declared: at the cursor, else in the same document, else in the
first file of the workspace that declares it.
-/
namespace ModuleScope

def Document.firstDeclaration? (document : Document) (name : String) (container : Option String) :
    Option Definition :=
  document.code?.bind fun code => code.firstDeclaration? name container

def definitionIn (name : String) (container : Option String) (file : String) :
    Work (Option Definition) := do
  match ← Work.attempt file with
  | .error failure =>
    Work.note (.candidateSkipped file failure)
    return none
  | .ok document => return document.firstDeclaration? name container

def searchDefinition (name : String) (container : Option String) :
    List String → Work (Option Definition)
  | [] => pure none
  | file :: rest => do
    match ← definitionIn name container file with
    | some found => return some found
    | none => searchDefinition name container rest

/-- What the document itself says about the word under a cursor: the definition at the cursor or
the first one of that name, and the declared type of the receiver. -/
def localDefinition? (code : Option Code) (word : CursorWord) : Option Definition :=
  code.bind fun code =>
    (code.declarationAtWord? word).or
      (code.firstDeclaration? word.name (code.receiverTypeOf? word))

/-- The definition of the symbol under a cursor. On a member access with a known receiver type, no
methods and fields of other types match. -/
def findDefinition (document : Document) (position : Position) : Work (Option Definition) :=
  let code := document.code?
  match document.wordAt? (code.map Code.tree) position with
  | none => pure none
  | some word =>
    match localDefinition? code word with
    | some found => pure (some found)
    | none => do
      let files ← Work.files sourcePatterns none
      searchDefinition word.name (code.bind fun code => code.receiverTypeOf? word)
        (files.filter fun file => file != document.path)

end ModuleScope
