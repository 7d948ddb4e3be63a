import ModuleScope.FileSystem.Basic
import ModuleScope.Position
import ModuleScope.Text.Integer

/-!
What the arguments of the command line ask for. Arguments that make no sense ask for nothing.
-/
namespace ModuleScope.CommandLine

inductive Command where
  | version
  | modules (directory : String)
  | definition (file : String) (position : Position)
  | usages (file : String) (position : Position) (scoping : Option Bool) (all : Bool)
  | hover (file : String) (position : Position)
  | watch (directory : String)
  | help
deriving DecidableEq, Repr

structure Arguments where
  positional : List String := []
  options : List String := []
deriving DecidableEq, Repr

/-- Tells options from other arguments; after `--` there are none. -/
def sortArguments : List String → Arguments
  | [] => {}
  | "--" :: rest => { positional := rest }
  | argument :: rest =>
    let sorted := sortArguments rest
    match argument.toList with
    | '-' :: _ :: _ => { sorted with options := argument :: sorted.options }
    | _ => { sorted with positional := argument :: sorted.positional }

def existingDirectory? (files : FileSystem) (path : String) : Option String :=
  if files.entryAsWritten? path == some .directory then some path else none

def directory? (files : FileSystem) : List String → Option String
  | [] => existingDirectory? files "."
  | [path] => existingDirectory? files path
  | _ => none

/-- A line or column counted from one, as one counted from zero. -/
def coordinate? (text : String) : Option Int :=
  match Text.integer? text with
  | some value => if 1 ≤ value then some (value - 1) else none
  | none => none

def place? (files : FileSystem) : List String → Option (String × Position)
  | [file, line, column] => do
    let entry ← files.entryAsWritten? file
    guard entry.isFile
    let line ← coordinate? line
    let column ← coordinate? column
    return (file, ⟨line, column⟩)
  | _ => none

structure UsageOptions where
  scoping : Option Bool := none
  all : Bool := false

/-- Reads the options of the search for usages; the last of two that contradict each other counts. -/
def usageOptions? (found : UsageOptions) : List String → Option UsageOptions
  | [] => some found
  | "--scoping" :: rest => usageOptions? { found with scoping := some true } rest
  | "--no-scoping" :: rest => usageOptions? { found with scoping := some false } rest
  | "--all" :: rest => usageOptions? { found with all := true } rest
  | _ => none

def commandNamed? (files : FileSystem) (name : String) (arguments : Arguments) : Option Command :=
  let plain (command : Option Command) : Option Command :=
    if arguments.options.isEmpty then command else none
  match name with
  | "version" => plain (if arguments.positional.isEmpty then some .version else none)
  | "modules" => plain ((directory? files arguments.positional).map .modules)
  | "watch" => plain ((directory? files arguments.positional).map .watch)
  | "definition" =>
    plain ((place? files arguments.positional).map fun (file, position) => .definition file position)
  | "hover" =>
    plain ((place? files arguments.positional).map fun (file, position) => .hover file position)
  | "usages" => do
    let options ← usageOptions? {} arguments.options
    let (file, position) ← place? files arguments.positional
    return .usages file position options.scoping options.all
  | _ => none

def commandNames : List String := ["version", "modules", "definition", "usages", "hover", "watch"]

def commandFrom? (files : FileSystem) (name : String) (rest : List String) : Option Command :=
  let arguments := sortArguments rest
  let asked := arguments.options.contains "--help"
  let others := arguments.options.filter (· != "--help")
  if asked && commandNames.contains name && (usageOptions? {} others).isSome then some .help
  else commandNamed? files name arguments

/-- The command that arguments ask for; none if they make no sense. A `--` before the name of the
command is passed over. -/
def command? (files : FileSystem) : List String → Option Command
  | [] => none
  | "--help" :: _ => some .help
  | ["--"] => none
  | "--" :: name :: rest => commandFrom? files name rest
  | name :: rest => commandFrom? files name rest

end ModuleScope.CommandLine
