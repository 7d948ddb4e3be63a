import Mathlib
import ModuleScope.Work

/-!
Results of work, without what is reported meanwhile. Doing one piece of work after another gives the
result of the second, unless the first fails.
-/
namespace ModuleScope

namespace Host

def oneText (text : String) : Host where
  openDocument path := .ok (Document.ofText path text)
  findFiles _ _ := .ok []

def refusing (host : Host) (refusal : String → Option Failure) : Host :=
  { host with
    openDocument := fun path =>
      match refusal path with
      | some failure => .error failure
      | none => host.openDocument path }

def readable (host : Host) (files : List String) : List Document :=
  files.filterMap fun file => (host.openDocument file).toOption

theorem exists_of_mem_readable {host : Host} {files : List String} {document : Document}
    (member : document ∈ host.readable files) :
    ∃ file ∈ files, host.openDocument file = .ok document := by
  obtain ⟨file, listed, opened⟩ := List.mem_filterMap.mp member
  cases given : host.openDocument file with
  | error failure =>
    rw [given] at opened
    cases opened
  | ok other =>
    rw [given] at opened
    obtain rfl := Option.some.inj opened
    exact ⟨file, listed, given⟩

theorem readable_of_error {host : Host} {file : String} {failure : Failure}
    (refused : host.openDocument file = .error failure) (rest : List String) :
    host.readable (file :: rest) = host.readable rest := by
  simp [readable, refused, Except.toOption]

theorem readable_of_ok {host : Host} {file : String} {document : Document}
    (opened : host.openDocument file = .ok document) (rest : List String) :
    host.readable (file :: rest) = document :: host.readable rest := by
  simp [readable, opened, Except.toOption]

end Host

namespace Work

variable {α β : Type}

def result (host : Host) (work : Work α) : Except Failure α := (work.run host).1

@[simp] theorem result_finished (host : Host) (outcome : Except Failure α) :
    (finished outcome).result host = outcome := rfl

@[simp] theorem result_pure (host : Host) (value : α) : (pure value : Work α).result host = .ok value :=
  rfl

@[simp] theorem result_opening (host : Host) (path : String)
    (next : Except Failure Document → Work α) :
    (opening path next).result host = (next (host.openDocument path)).result host := rfl

@[simp] theorem result_listing (host : Host) (patterns : List String) (base : Option String)
    (next : Except Failure (List String) → Work α) :
    (listing patterns base next).result host = (next (host.findFiles patterns base)).result host := rfl

@[simp] theorem result_noting (host : Host) (notice : Notice) (next : Work α) :
    (noting notice next).result host = next.result host := rfl

@[simp] theorem result_bind (host : Host) (work : Work α) (next : α → Work β) :
    (work >>= next).result host = (work.result host).bind fun value => (next value).result host := by
  change (work.bind next).result host = _
  induction work with
  | finished outcome => cases outcome <;> rfl
  | opening path wait ih => exact ih (host.openDocument path)
  | listing patterns base wait ih => exact ih (host.findFiles patterns base)
  | noting notice rest ih => exact ih

@[simp] theorem result_attempt (host : Host) (path : String) :
    (attempt path).result host = .ok (host.openDocument path) := rfl

@[simp] theorem result_document (host : Host) (path : String) :
    (document path).result host = host.openDocument path := rfl

@[simp] theorem result_files (host : Host) (patterns : List String) (base : Option String) :
    (files patterns base).result host = host.findFiles patterns base := rfl

@[simp] theorem result_note (host : Host) (notice : Notice) : (note notice).result host = .ok () := rfl

end Work

end ModuleScope
