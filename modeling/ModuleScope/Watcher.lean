import ModuleScope.Analyzer.World
import ModuleScope.Path

/-!
Changes of files on their way to the analyzer. A change waits until its file has been quiet for a
while; a later change of the same file takes its place and starts the wait anew. Time is counted in
milliseconds and moves only when it is told to.
-/
namespace ModuleScope

structure Pending where
  change : Change
  deadline : Nat
deriving DecidableEq, Repr

structure UnknownChangeKind where
  label : String
deriving DecidableEq, Repr

def UnknownChangeKind.message (fault : UnknownChangeKind) : String :=
  s!"Unknown change kind: {fault.label}"

/-- The quiet period, the time, the pending changes in the order in which they were notified, and the
changes that have fallen due but have not been handed over. -/
structure Watcher where
  debounce : Nat
  now : Nat := 0
  pending : List Pending := []
  due : List Change := []
deriving DecidableEq, Repr

def isWatched (path : String) : Bool :=
  !isExcludedPath path && (endsWith path ".ts" || endsWith path ".tsx")

namespace Watcher

def pendingPaths (watcher : Watcher) : List String :=
  watcher.pending.map fun each => each.change.path

def notify (watcher : Watcher) (change : Change) : Watcher :=
  if isWatched change.path then
    let others := watcher.pending.filter fun each => each.change.path != change.path
    { watcher with pending := others ++ [⟨change, watcher.now + watcher.debounce⟩] }
  else watcher

def notifyLabelled (watcher : Watcher) (path label : String) : Except UnknownChangeKind Watcher :=
  match ChangeKind.ofLabel? label with
  | some kind => .ok (watcher.notify ⟨path, kind⟩)
  | none => .error ⟨label⟩

def pass (watcher : Watcher) (duration : Nat) : Watcher :=
  let now := watcher.now + duration
  let isDue (each : Pending) : Bool := each.deadline ≤ now
  { watcher with
    now
    pending := watcher.pending.filter fun each => !isDue each
    due := watcher.due ++ (watcher.pending.filter isDue).map fun each => each.change }

def advance (watcher : Watcher) (duration : Nat) : Watcher × List Change :=
  let watcher := watcher.pass duration
  ({ watcher with due := [] }, watcher.due)

/-- Hands over everything: what has fallen due, and then the pending changes, those of one moment
together. -/
def drain (watcher : Watcher) : Watcher × List (List Change) :=
  let groups := watcher.pending.splitBy fun left right => left.deadline == right.deadline
  let now := watcher.pending.foldl (fun latest each => max latest each.deadline) watcher.now
  ({ watcher with now, pending := [], due := [] },
   watcher.due :: groups.map fun group => group.map fun each => each.change)

/-- Drops the pending changes. What has fallen due is still handed over. -/
def dispose (watcher : Watcher) : Watcher := { watcher with pending := [] }

end Watcher

namespace Session

def world (session : Session) : World :=
  { analyzer := session.analyzer, notices := session.notices }

def applyTogether (host : Host) (session : Session) (changes : List Change) : Session :=
  let world := (changes.foldl (fun world change => world.call (.apply change)) session.world).settle host
  { analyzer := world.analyzer, notices := world.notices }

end Session

end ModuleScope
