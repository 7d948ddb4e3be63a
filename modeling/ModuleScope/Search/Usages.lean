import ModuleScope.Code.Cursor
import ModuleScope.Code.Occurrence
import ModuleScope.ModuleGraph
import ModuleScope.Work

/-!
Usages of the symbol under a cursor, in the whole workspace or in the files that the cursor's module
lets see it.
-/
namespace ModuleScope

def batchSize : Nat := 10

def batches {α : Type} (size : Nat) : List α → List (List α)
  | [] => []
  | first :: rest => (first :: rest.take (size - 1)) :: batches size (rest.drop (size - 1))
termination_by files => files.length
decreasing_by simp only [List.length_drop, List.length_cons]; omega

structure Opened where
  file : String
  outcome : Except Failure Document

def Opened.usages (opened : Opened) (symbol : String) (container : Option String)
    (graph : Option ModuleGraph) : List Usage :=
  let owner := (graph.bind fun graph => graph.moduleForFile? opened.file).map fun found => found.name
  match opened.outcome with
  | .ok document => document.usages symbol container owner
  | .error _ => []

/-- Reports the files that could not be opened: those whose failure showed at once, or the others. -/
def reportUnreadable (immediate : Bool) : List Opened → Work Unit
  | [] => pure ()
  | opened :: rest => do
    match opened.outcome with
    | .ok _ => reportUnreadable immediate rest
    | .error failure =>
      if failure.isImmediate == immediate then
        Work.note (.fileUnreadable opened.file failure)
      reportUnreadable immediate rest

/-- Opens files; failures that show at once are reported at once. -/
def openAll : List String → Work (List Opened)
  | [] => pure []
  | file :: rest => do
    let outcome ← Work.attempt file
    reportUnreadable true [⟨file, outcome⟩]
    let others ← openAll rest
    return ⟨file, outcome⟩ :: others

def searchBatch (symbol : String) (container : Option String) (graph : Option ModuleGraph)
    (batch : List String) : Work (List Usage) := do
  let opened ← openAll batch
  reportUnreadable false opened
  return opened.flatMap fun each => each.usages symbol container graph

def searchBatches (symbol : String) (container : Option String) (graph : Option ModuleGraph) :
    List (List String) → Work (List Usage)
  | [] => pure []
  | batch :: rest => do
    let here ← searchBatch symbol container graph batch
    let there ← searchBatches symbol container graph rest
    return here ++ there

def Usage.comesFirst (left right : Usage) : Bool :=
  left.file < right.file || (left.file == right.file && left.line ≤ right.line)

/-- The usages in files, sorted by file and line; usages on one line keep their order. -/
def searchFiles (size : Nat) (symbol : String) (container : Option String)
    (graph : Option ModuleGraph) (files : List String) : Work (List Usage) := do
  let found ← searchBatches symbol container graph (batches size files)
  return found.mergeSort Usage.comesFirst

/-- The files to search in order: those of the scope or, without one, all source files. -/
def candidateFiles : Option (List String) → Work (List String)
  | some scope => pure (sorted scope)
  | none => Work.files sourcePatterns none

def searchUsages (symbol : String) (scope : Option (List String)) (container : Option String)
    (graph : Option ModuleGraph) : Work (List Usage) := do
  let files ← candidateFiles scope
  searchFiles batchSize symbol container graph files

/-- The module files of the given modules and all source files in their directories. -/
def filesOfModules (graph : ModuleGraph) : List String → Work (List String)
  | [] => pure []
  | name :: rest =>
    match graph.module? name with
    | none => filesOfModules graph rest
    | some found => do
      let below ← Work.files sourcePatterns (some found.directory)
      let others ← filesOfModules graph rest
      return found.file :: below ++ others

/-- The files in which a module's exports can be seen. -/
def scopeFiles (graph : ModuleGraph) (name : String) : Work (List String) := do
  let files ← filesOfModules graph (sorted (graph.accessibleModules name))
  return sortedDistinct files

def scopeOf (graph : Option ModuleGraph) (scoping : Bool) (document : Document) :
    Work (Option (List String)) :=
  match graph.filter fun _ => scoping with
  | none => pure none
  | some graph =>
    match graph.moduleForFile? document.path with
    | none => pure none
    | some found => do
      let files ← scopeFiles graph found.name
      return some files

def qualifiedName (symbol : String) (container : Option String) : String :=
  match container.filter (· != "") with
  | some container => s!"{container}.{symbol}"
  | none => symbol

/-- The container to which the usages of a word are restricted: the given one or else, on a member
access, the declared type of its receiver. None if the receiver has no declared type. -/
def containerFor? (code : Option Code) (word : CursorWord) (given : Option String) :
    Option (Option String) :=
  match given with
  | some container => some (some container)
  | none =>
    if word.isPropertyAccess then
      match code.bind fun code => code.receiverTypeOf? word with
      | some container => some (some container)
      | none => none
    else some none

def findUsages (document : Document) (position : Position) (graph : Option ModuleGraph)
    (scoping : Bool) (given : Option String) : Work (List Usage) :=
  let code := document.code?
  match document.wordAt? (code.map Code.tree) position with
  | none => pure []
  | some word =>
    match containerFor? code word given with
    | none => do
      Work.note (.receiverUntyped word.name)
      return []
    | some container => do
      let scope ← scopeOf graph scoping document
      let usages ← searchUsages word.name scope container graph
      Work.note (.usagesFound usages.length (qualifiedName word.name container) scope.isSome)
      return usages

end ModuleScope
