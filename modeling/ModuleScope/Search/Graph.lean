import ModuleScope.Code.Metadata
import ModuleScope.ModuleGraph
import ModuleScope.Work

/-!
The module graph of a workspace, read from its module files.
-/
namespace ModuleScope

/-- Adds a module; one of the same name is replaced in its place. -/
def declareModule (modules : List Module) (added : Module) : List Module :=
  if modules.any fun each => each.name == added.name then
    modules.map fun each => if each.name == added.name then added else each
  else modules ++ [added]

def Document.module? (document : Document) : Option Module := document.code?.bind Code.module?

def addDeclared (found : List Module) : Option Module → Work (List Module)
  | none => pure found
  | some added => do
    match found.find? fun each => each.name == added.name with
    | some previous => Work.note (.moduleReplaced added.name added.file previous.file)
    | none => pure ()
    return declareModule found added

def readModule (found : List Module) (file : String) : Except Failure Document → Work (List Module)
  | .error failure => do
    Work.note (.moduleUnreadable file failure)
    return found
  | .ok document => addDeclared found document.module?

def readModules (found : List Module) : List String → Work (List Module)
  | [] => pure found
  | file :: rest => do
    let outcome ← Work.attempt file
    let found ← readModule found file outcome
    readModules found rest

def buildGraph : Work ModuleGraph := do
  let files ← Work.files modulePatterns none
  let modules ← readModules [] files
  let graph : ModuleGraph := ⟨modules⟩
  Work.note (.graphBuilt graph.size)
  return graph

end ModuleScope
