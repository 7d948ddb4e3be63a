import ModuleScope.CommandLine.Run

/-!
The program: it takes the files and variables that a command can need from the system, runs the
command on them and writes what comes of it.
-/
namespace ModuleScope.Main

def depthLimit : Nat := 64

/-- Whether the bytes of a file can matter to a command that is not about the file itself. -/
def isRead (name : String) : Bool := (dialectOf name).isSome || name == Options.fileName

/-- What is at a path, taken from the system; the bytes of a file are left out unless they are read. -/
def entryOf (read : Bool) (directory : Path) (name : String) : IO (Option Entry) := do
  let path := (← IO.currentDir) / (directory.join (Path.ofString name)).toString
  if ← path.isDir then return some .directory
  else if !(← path.pathExists) then return none
  else if !read then return some (.file [])
  else return some (.file (← IO.FS.readBinFile path).toList)

def take (read : Bool) (files : FileSystem) (directory : Path) (name : String) : IO FileSystem := do
  match ← entryOf read directory name with
  | some entry => return files.insert (directory.join (Path.ofString name)) entry
  | none => return files

/-- Adds a directory with the files below it, without excluded directories. -/
def takeBelow : Nat → FileSystem → Path → IO FileSystem
  | 0, files, _ => return files
  | depth + 1, files, directory => do
    let path := (← IO.currentDir) / directory.toString
    (← path.readDir).foldlM (fun files found => do
      let files ← take (isRead found.fileName) files directory found.fileName
      let below := directory.join (Path.ofString found.fileName)
      if files.isDirectory below && !excludedDirectories.contains found.fileName then
        takeBelow depth files below
      else return files) files

def takeProject (files : FileSystem) (argument : String) : IO FileSystem := do
  let named := files.resolve argument
  let files ← take true files named.parent named.name
  if (files.entryAt? named.parts).isNone then return files
  let start := if files.isDirectory named then named else named.parent
  let files ← start.selfAndParents.foldlM (fun files directory =>
    projectMarkers.foldlM (fun files marker => take false files directory marker) files) files
  let files ← takeBelow depthLimit files (files.projectRoot start)
  take true files named.parent named.name

def environmentOf (names : List String) : IO Environment :=
  names.foldlM (fun environment name => do
    match ← IO.getEnv name with
    | some value => return environment.set name value
    | none => return environment) {}

def variableNames (files : FileSystem) : List String :=
  Options.names ++ files.entries.flatMap fun (parts, _) =>
    match Options.bindingsIn files ⟨1, parts⟩ with
    | .ok bindings => bindings.flatMap Dotenv.Binding.names
    | .error _ => []

/-- The arguments that may be paths; the current directory stands for none. -/
def pathArguments (arguments : List String) : List String :=
  match (CommandLine.sortArguments arguments.tail).positional with
  | [] => ["."]
  | paths => paths

def run (arguments : List String) : IO UInt32 := do
  let working := Path.ofString (← IO.currentDir).toString
  let empty := (FileSystem.empty working).insert working .directory
  let files ← (pathArguments arguments).foldlM takeProject empty
  let environment ← environmentOf (variableNames files)
  let began ← IO.monoMsNow
  let transcript := CommandLine.run { files, environment, console := Console.ofEncoding none } arguments
  IO.print transcript.output
  let elapsed := (← IO.monoMsNow) - began
  IO.eprint (transcript.errorText (toString elapsed))
  match transcript.fault with
  | some fault => IO.eprintln fault.message
  | none => if transcript.exitCode == 2 then IO.eprintln "Usage: nest-scope COMMAND [ARGS]..."
  return UInt32.ofNat transcript.exitCode

end ModuleScope.Main

def main (arguments : List String) : IO UInt32 := ModuleScope.Main.run arguments
