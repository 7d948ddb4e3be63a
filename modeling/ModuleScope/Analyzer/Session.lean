import ModuleScope.Analyzer.Basic

/-!
Calls made one after another: each is done before the next begins, so whatever a call waits for is
done on the spot.
-/
namespace ModuleScope

/-- An analyzer and what has been reported so far, the oldest first. -/
structure Session where
  analyzer : Analyzer
  notices : List Notice := []

/-- A call: it fails or gives a result, and changes the session either way. -/
abbrev Calling := ExceptT Failure (StateM Session)

namespace Session

def update (step : Analyzer → Analyzer) : Calling Unit :=
  modify fun session => { session with analyzer := step session.analyzer }

def updateNoting (step : Analyzer → Analyzer × List Notice) : Calling Unit :=
  modify fun session =>
    let (analyzer, notices) := step session.analyzer
    { session with analyzer, notices := session.notices ++ notices }

def note (notice : Notice) : Calling Unit :=
  modify fun session => { session with notices := session.notices ++ [notice] }

def work {α : Type} (host : Host) (work : Work α) : Calling α := do
  let (result, notices) := work.run host
  modify fun session => { session with notices := session.notices ++ notices }
  result

/-- Completes the build in flight; its failure is that of the call. -/
def awaitBuild (host : Host) : Calling Unit := do
  match (← get).analyzer.build with
  | none => return
  | some build =>
    let (result, notices) := build.work.run host
    modify fun session => { session with notices := session.notices ++ notices }
    updateNoting fun analyzer => analyzer.finishBuild build.began result
    discard (result : Calling ModuleGraph)

def prepare (host : Host) : Calling Unit := do
  unless (← get).analyzer.phase == .ready do
    update Analyzer.ensureBuild
    awaitBuild host

def lookUp (query : Query) : Calling (SourcedAnswer ⊕ Ticket) := do
  let session ← get
  let (analyzer, found) := session.analyzer.lookUp query
  set { session with analyzer }
  return found

def ask (host : Host) (kind : QueryKind) (file : String) (position : Position) : Calling Answer := do
  prepare host
  let query : Query := ⟨kind, (← get).analyzer.normalize file, position⟩
  match ← lookUp query with
  | .inl kept => return kept.answer
  | .inr ticket =>
    let located ← work host query.locate
    let analyzer := (← get).analyzer
    let ticket := analyzer.seeGraph ticket
    let answer ← work host (located.answer position analyzer.moduleGraph? analyzer.scoping)
    update fun analyzer => analyzer.store ticket answer
    return answer

def invalidate (file : String) : Calling Unit := updateNoting fun analyzer => analyzer.invalidate file

/-- Builds the graph anew and drops all answers. A build in flight may be older than the change that
led here, so it is awaited first. -/
def rebuild (host : Host) : Calling Unit := do
  note .rebuilding
  update Analyzer.forget
  awaitBuild host
  update Analyzer.ensureBuild
  awaitBuild host
  update Analyzer.forget
  note .rebuilt

/-- Applies a change of a file: module files lead to a new graph. -/
def applyChange (host : Host) (file : String) : Calling Unit :=
  if isModuleFile file then rebuild host else invalidate file

def perform {α : Type} (session : Session) (call : Calling α) : Except Failure α × Session :=
  (ExceptT.run call).run session

end Session

end ModuleScope
