import ModuleScope.FileSystem.Basic
import ModuleScope.Settings.Dotenv
import ModuleScope.Text.Basic
import ModuleScope.Text.Integer
import ModuleScope.Text.Quoted

/-!
Options, which are read from environment variables each time they are needed. Loading them sets the
variables of the workspace's file, those set already excepted, and reads every option once.
-/
namespace ModuleScope

inductive OptionFault where
  | notInteger (name raw : String)
  | notBoolean (name raw : String)
  | belowOne (name : String) (value : Int)
  | negative (name : String) (value : Int)
deriving DecidableEq, Repr

namespace OptionFault

def message : OptionFault → String
  | notInteger name raw => s!"{name} must be an integer, got {Text.quoted raw}"
  | notBoolean name raw => s!"{name} must be a boolean, got {Text.quoted raw}"
  | belowOne name value => s!"{name} must be at least 1, got {value}"
  | negative name value => s!"{name} must not be negative, got {value}"

end OptionFault

namespace Options

def cacheSizeName : String := "NEST_SCOPE_CACHE_SIZE"
def inlineUsagesName : String := "NEST_SCOPE_MAX_INLINE_USAGES"
def debounceName : String := "NEST_SCOPE_DEBOUNCE_MS"
def scopingName : String := "NEST_SCOPE_ENABLE_MODULE_SCOPING"
def verboseName : String := "NEST_SCOPE_VERBOSE"

def names : List String := [cacheSizeName, inlineUsagesName, debounceName, scopingName, verboseName]

/-- The value of a variable; a blank one counts as none. -/
def raw? (environment : Environment) (name : String) : Option String :=
  (environment.get? name).filter fun raw => Text.trim raw != ""

def integer (environment : Environment) (name : String) (default : Int) : Except OptionFault Int :=
  match raw? environment name with
  | none => .ok default
  | some raw =>
    match Text.integer? raw with
    | some value => .ok value
    | none => .error (.notInteger name raw)

def truth? (raw : String) : Option Bool :=
  let word := String.ofList ((Text.trim raw).toList.map Char.toLower)
  if ["1", "true", "yes", "on"].contains word then some true
  else if ["0", "false", "no", "off"].contains word then some false
  else none

def boolean (environment : Environment) (name : String) (default : Bool) : Except OptionFault Bool :=
  match raw? environment name with
  | none => .ok default
  | some raw =>
    match truth? raw with
    | some value => .ok value
    | none => .error (.notBoolean name raw)

def cacheSize (environment : Environment) : Except OptionFault Int :=
  integer environment cacheSizeName 100

def inlineUsages (environment : Environment) : Except OptionFault Int :=
  integer environment inlineUsagesName 5

/-- How long a file has to be quiet before a change of it counts, in milliseconds. -/
def debounce (environment : Environment) : Except OptionFault Int :=
  integer environment debounceName 300

def scoping (environment : Environment) : Except OptionFault Bool :=
  boolean environment scopingName true

def verbose (environment : Environment) : Except OptionFault Bool :=
  boolean environment verboseName false

/-- Reads every option; the first fault counts. -/
def validate (environment : Environment) : Except OptionFault Unit := do
  let size ← cacheSize environment
  if size < 1 then throw (.belowOne cacheSizeName size)
  let inline ← inlineUsages environment
  if inline < 0 then throw (.negative inlineUsagesName inline)
  let quiet ← debounce environment
  if quiet < 0 then throw (.negative debounceName quiet)
  discard (scoping environment)
  discard (verbose environment)

inductive LoadFault where
  | undecodable (fault : Text.Utf8.Fault)
  | unsettable (fault : Dotenv.Fault)
  | option (fault : OptionFault)
deriving DecidableEq, Repr

namespace LoadFault

def message : LoadFault → String
  | undecodable fault => fault.message
  | unsettable fault => fault.message
  | option fault => fault.message

end LoadFault

def fileName : String := ".env"

def bindingsIn (files : FileSystem) (root : Path) : Except Text.Utf8.Fault (List Dotenv.Binding) :=
  match files.entryAt? (root.parts ++ [fileName]) with
  | some (.file bytes) => do
    let text ← Text.Utf8.decode bytes
    return Dotenv.bindings (Text.normalizeNewlines (Text.dropByteOrderMark text))
  | _ => .ok []

def settle (environment : Environment) (bindings : List Dotenv.Binding) :
    Environment × Except LoadFault Unit :=
  match Dotenv.apply environment (Dotenv.values environment bindings) with
  | (environment, .error fault) => (environment, .error (.unsettable fault))
  | (environment, .ok ()) => (environment, (validate environment).mapError .option)

def load (environment : Environment) (files : FileSystem) (root : Path) :
    Environment × Except LoadFault Unit :=
  match bindingsIn files root with
  | .error fault => (environment, .error (.undecodable fault))
  | .ok bindings => settle environment bindings

end Options

/-- Options that are kept once they have been loaded; `version` tells one loading from the next. -/
structure KeptOptions where
  loaded : Option Nat := none
  version : Nat := 0
deriving DecidableEq, Repr

namespace KeptOptions

def get (kept : KeptOptions) (environment : Environment) (files : FileSystem) (root : Path) :
    KeptOptions × Environment × Except Options.LoadFault Nat :=
  match kept.loaded with
  | some version => (kept, environment, .ok version)
  | none =>
    match Options.load environment files root with
    | (environment, .error fault) => (kept, environment, .error fault)
    | (environment, .ok ()) =>
      (⟨some kept.version, kept.version + 1⟩, environment, .ok kept.version)

def reset (kept : KeptOptions) : KeptOptions := { kept with loaded := none }

end KeptOptions

end ModuleScope
