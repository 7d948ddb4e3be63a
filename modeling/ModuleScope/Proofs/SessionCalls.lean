import Mathlib
import ModuleScope.Analyzer.World
import ModuleScope.Proofs.Results

/-!
What calls made one after another do to a session. A call either gives a value and lets the next part
go on from the session it leaves, or it fails and the rest is not done.
-/
namespace ModuleScope

namespace Session

variable {α β : Type} {session after : Session} {call : Calling α}

theorem perform_bind_ok {value : α} (next : α → Calling β)
    (done : session.perform call = (.ok value, after)) :
    session.perform (call >>= next) = after.perform (next value) := by
  unfold perform at done ⊢
  rw [ExceptT.run_bind, StateT.run_bind, done]
  rfl

theorem perform_bind_error {failure : Failure} (next : α → Calling β)
    (failed : session.perform call = (.error failure, after)) :
    session.perform (call >>= next) = (.error failure, after) := by
  unfold perform at failed ⊢
  rw [ExceptT.run_bind, StateT.run_bind, failed]
  rfl

theorem perform_tryCatch (session : Session) (call : Calling α) (handle : Failure → Calling α) :
    session.perform (tryCatch call handle) =
      match session.perform call with
      | (.ok value, after) => (.ok value, after)
      | (.error failure, after) => after.perform (handle failure) := by
  unfold perform
  rw [ExceptT.run_tryCatch, StateT.run_bind]
  rcases StateT.run (ExceptT.run call) session with ⟨outcome, after⟩
  cases outcome <;> rfl

theorem perform_pure (session : Session) (value : α) :
    session.perform (pure value) = (.ok value, session) := rfl

theorem perform_get (session : Session) : session.perform get = (.ok session, session) := rfl

theorem perform_update (session : Session) (step : Analyzer → Analyzer) :
    session.perform (update step) = (.ok (), { session with analyzer := step session.analyzer }) := rfl

theorem perform_note (session : Session) (notice : Notice) :
    session.perform (note notice) =
      (.ok (), { session with notices := session.notices ++ [notice] }) := rfl

theorem perform_lookUp (session : Session) (query : Query) :
    session.perform (lookUp query) =
      (.ok (session.analyzer.lookUp query).2,
        { session with analyzer := (session.analyzer.lookUp query).1 }) := rfl

theorem perform_work (host : Host) (session : Session) (piece : Work α) :
    session.perform (work host piece) =
      (piece.result host, { session with notices := session.notices ++ (piece.run host).2 }) := rfl

theorem perform_awaitBuild_none (host : Host) (idle : session.analyzer.build = none) :
    session.perform (awaitBuild host) = (.ok (), session) := by
  unfold awaitBuild
  rw [perform_bind_ok _ (perform_get session), idle]
  rfl

def built (host : Host) (session : Session) (build : Build) : Session :=
  let ended := session.analyzer.finishBuild build.began (build.work.result host)
  ⟨ended.1, session.notices ++ (build.work.run host).2 ++ ended.2⟩

/-- Waiting for a build in flight completes it, and fails if the build does. -/
theorem perform_awaitBuild_some (host : Host) {build : Build}
    (running : session.analyzer.build = some build) :
    session.perform (awaitBuild host) =
      ((build.work.result host).map fun _ => (), session.built host build) := by
  unfold awaitBuild
  rw [perform_bind_ok _ (perform_get session), running]
  dsimp only [Work.result, built]
  rcases build.work.run host with ⟨outcome, notices⟩
  cases outcome <;> rfl

end Session

namespace Analyzer

def withBuild (analyzer : Analyzer) (outcome : Except Failure ModuleGraph) : Analyzer :=
  (analyzer.ensureBuild.finishBuild (analyzer.clock + 1) outcome).1

end Analyzer

namespace Session

theorem perform_build (host : Host) (session : Session) (idle : session.analyzer.build = none) :
    ∃ notices, session.perform (do update Analyzer.ensureBuild; awaitBuild host) =
      ((buildGraph.result host).map fun _ => (),
        ⟨session.analyzer.withBuild (buildGraph.result host), notices⟩) := by
  rw [perform_bind_ok _ (perform_update session _)]
  let started : Session := { session with analyzer := session.analyzer.ensureBuild }
  have running : started.analyzer.build = some ⟨session.analyzer.clock + 1, do
      Work.note .initializing
      buildGraph⟩ := by
    dsimp only [started]
    rw [Analyzer.ensureBuild, idle]
    rfl
  rw [perform_awaitBuild_some host running]
  exact ⟨_, rfl⟩

def search (host : Host) (ticket : Ticket) : Calling Answer := do
  let located ← work host ticket.query.locate
  let now ← get
  let answer ← work host
    (located.answer ticket.query.position now.analyzer.moduleGraph? now.analyzer.scoping)
  update fun analyzer => analyzer.store (now.analyzer.seeGraph ticket) answer
  return answer

/-- Makes a call; what a query answers is its value. Nobody waits for a change that the watcher hands over,
so its failure is only reported. -/
def make (host : Host) : Call → Calling (Option Answer)
  | .prepare => do prepare host; return none
  | .rebuild => do rebuild host; return none
  | .invalidate file => do invalidate file; return none
  | .change file => do applyChange host file; return none
  | .ask kind file position => do return some (← ask host kind file position)
  | .apply change => do
    note (.fileChanged change)
    tryCatch (applyChange host change.path) fun failure => note (.changeFailed change.path failure)
    return none

theorem perform_map {β : Type} (session : Session) (call : Calling α) (value : α → β) :
    session.perform (do return value (← call)) =
      ((session.perform call).1.map value, (session.perform call).2) := by
  rcases performed : session.perform call with ⟨outcome, after⟩
  cases outcome with
  | ok found =>
    rw [perform_bind_ok _ performed]
    rfl
  | error failure =>
    rw [perform_bind_error _ performed]
    rfl

end Session

end ModuleScope
