import ModuleScope.Failure

/-!
What the parts of the analyzer report while they work.
-/
namespace ModuleScope

inductive ChangeKind where
  | created
  | changed
  | deleted
deriving DecidableEq, Repr

namespace ChangeKind

def label : ChangeKind → String
  | created => "created"
  | changed => "changed"
  | deleted => "deleted"

def ofLabel? (label : String) : Option ChangeKind :=
  [created, changed, deleted].find? fun kind => kind.label == label

end ChangeKind

structure Change where
  path : String
  kind : ChangeKind
deriving DecidableEq, Repr

inductive Notice where
  | initializing
  | initialized
  | rebuilding
  | rebuilt
  | invalidated (path : String)
  | moduleReplaced (name file previous : String)
  | graphBuilt (modules : Nat)
  | moduleUnreadable (file : String) (failure : Failure)
  | candidateSkipped (file : String) (failure : Failure)
  | receiverUntyped (symbol : String)
  | usagesFound (count : Nat) (symbol : String) (limited : Bool)
  | fileUnreadable (file : String) (failure : Failure)
  | fileChanged (change : Change)
  | changeFailed (path : String) (failure : Failure)
  | watcherDisposed
deriving DecidableEq, Repr

namespace Notice

def component : Notice → String
  | initializing | initialized | rebuilding | rebuilt | invalidated _ => "Analyzer"
  | moduleReplaced _ _ _ | graphBuilt _ | moduleUnreadable _ _ => "ModuleGraph"
  | candidateSkipped _ _ => "SymbolResolver"
  | receiverUntyped _ | usagesFound _ _ _ | fileUnreadable _ _ => "UsageFinder"
  | fileChanged _ | changeFailed _ _ | watcherDisposed => "FileWatcher"

/-- The text of a report; `elapsed` is the duration of a build in milliseconds. -/
def message (elapsed : String) : Notice → String
  | initializing => "Initializing NestJS analyzer..."
  | initialized => s!"Analyzer initialized in {elapsed}ms"
  | rebuilding => "Rebuilding module graph..."
  | rebuilt => "Module graph rebuilt"
  | invalidated path => s!"Cache invalidated for: {path}"
  | moduleReplaced name file previous => s!"Duplicate module {name} in {file} replaces {previous}"
  | graphBuilt modules => s!"Built module graph with {modules} modules"
  | moduleUnreadable file failure => s!"Error parsing module {file}: {failure.message}"
  | candidateSkipped file failure => s!"Skipping {file}: {failure.message}"
  | receiverUntyped symbol =>
    s!"Receiver type of \"{symbol}\" is not annotated; no usages reported"
  | usagesFound count symbol limited =>
    let scope := if limited then " (module-scoped)" else ""
    s!"Found {count} usages of \"{symbol}\"{scope}"
  | fileUnreadable file failure => s!"Error searching file {file}: {failure.message}"
  | fileChanged change => s!"File {change.kind.label}: {change.path}"
  | changeFailed path failure => s!"Failed to apply change to {path}: {failure.message}"
  | watcherDisposed => "File watcher disposed"

def line (elapsed : String) (notice : Notice) : String :=
  s!"[{notice.component}] {notice.message elapsed}"

end Notice

end ModuleScope
