import ModuleScope.Console

/-!
A log of limited length, the newest line last.
-/
namespace ModuleScope

structure Log where
  limit : Nat
  verbose : Bool := false
  lines : List String := []
deriving DecidableEq, Repr

structure NegativeLimit where
  limit : Int
deriving DecidableEq, Repr

def NegativeLimit.message (_ : NegativeLimit) : String := "maxlen must be non-negative"

namespace Log

def defaultLimit : Nat := 500

def create (limit : Int) (verbose : Bool) : Except NegativeLimit Log :=
  if limit < 0 then .error ⟨limit⟩ else .ok { limit := limit.toNat, verbose }

def line (component message : String) : String := s!"[{component}] {message}"

/-- Adds a message; the oldest lines for which there is no room are dropped. -/
def append (log : Log) (component message : String) : Log :=
  let lines := log.lines ++ [line component message]
  { log with lines := lines.drop (lines.length - log.limit) }

/-- What is written to a console when a message is added: nothing, unless the log is verbose. -/
def echoed (log : Log) (console : Console) (component message : String) : String :=
  if log.verbose then console.echo (line component message) else ""

def occursIn (fragment : List Char) : List Char → Bool
  | [] => fragment.isEmpty
  | c :: rest => fragment.isPrefixOf (c :: rest) || occursIn fragment rest

/-- The newest line that holds a text. -/
def find? (log : Log) (fragment : String) : Option String :=
  log.lines.reverse.find? fun line => occursIn fragment.toList line.toList

end Log

end ModuleScope
