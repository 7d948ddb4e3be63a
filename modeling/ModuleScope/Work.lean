import ModuleScope.Document
import ModuleScope.Notice

/-!
Work that waits for its host. A piece of work is what remains to be done: it has finished, or it waits
for a document or for a list of files and goes on with what it gets.
-/
namespace ModuleScope

inductive Work (α : Type) where
  | finished (result : Except Failure α)
  | opening (path : String) (next : Except Failure Document → Work α)
  | listing (patterns : List String) (base : Option String)
      (next : Except Failure (List String) → Work α)
  | noting (notice : Notice) (next : Work α)

namespace Work

variable {α β : Type}

def bind : Work α → (α → Work β) → Work β
  | finished (.ok value), next => next value
  | finished (.error failure), _ => finished (.error failure)
  | opening path wait, next => opening path fun found => (wait found).bind next
  | listing patterns base wait, next => listing patterns base fun found => (wait found).bind next
  | noting notice rest, next => noting notice (rest.bind next)

instance : Monad Work where
  pure value := finished (.ok value)
  bind := bind

def attempt (path : String) : Work (Except Failure Document) :=
  opening path fun found => finished (.ok found)

def document (path : String) : Work Document := opening path finished

def files (patterns : List String) (base : Option String) : Work (List String) :=
  listing patterns base finished

def note (notice : Notice) : Work Unit := noting notice (finished (.ok ()))

def run (host : Host) : Work α → Except Failure α × List Notice
  | finished result => (result, [])
  | opening path next => (next (host.openDocument path)).run host
  | listing patterns base next => (next (host.findFiles patterns base)).run host
  | noting notice next =>
    let (result, notices) := next.run host
    (result, notice :: notices)

/-- Goes on until a document is about to be opened whose path satisfies the test. -/
def runTo (host : Host) (stop : String → Bool) : Work α → Work α × List Notice
  | finished result => (finished result, [])
  | opening path next =>
    if stop path then (opening path next, []) else (next (host.openDocument path)).runTo host stop
  | listing patterns base next => (next (host.findFiles patterns base)).runTo host stop
  | noting notice next =>
    let (rest, notices) := next.runTo host stop
    (rest, notice :: notices)

def toWait : Work α → Work α × List Notice
  | noting notice next =>
    let (rest, notices) := next.toWait
    (rest, notice :: notices)
  | work => (work, [])

def serve (host : Host) : Work α → Work α × List Notice
  | opening path next => (next (host.openDocument path)).toWait
  | listing patterns base next => (next (host.findFiles patterns base)).toWait
  | work => work.toWait

end Work

end ModuleScope
