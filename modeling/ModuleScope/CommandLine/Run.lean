import ModuleScope.Analyzer.Session
import ModuleScope.CommandLine.Command
import ModuleScope.Report.Hover
import ModuleScope.Report.Layout
import ModuleScope.Settings.Options

/-!
What a command does with the files and the environment: what it writes and reports, and how it ends.
-/
namespace ModuleScope.CommandLine

def version : String := "1.0.0"

inductive Fault where
  | reading (failure : Failure)
  | options (fault : Options.LoadFault)
  | option (fault : OptionFault)
  | root (fault : RootNotDirectory)
  | cache (fault : CapacityTooSmall)
  | markup (fault : Text.MarkupError)
deriving DecidableEq, Repr

namespace Fault

def message : Fault → String
  | .reading failure => failure.message
  | .options fault => fault.message
  | .option fault => fault.message
  | .root fault => fault.message
  | .cache fault => fault.message
  | .markup fault => fault.message

end Fault

/-- How a command ends before its last line: with an exit code, or with a fault. -/
inductive Stop where
  | exit (code : Nat)
  | fault (fault : Fault)
deriving DecidableEq, Repr

structure Output where
  text : String := ""
  notices : List Notice := []
  verbose : Bool := false

abbrev Running := ExceptT Stop (StateM Output)

structure Setting where
  files : FileSystem
  environment : Environment
  console : Console
  canWatch : Bool := true

structure Loaded where
  environment : Environment
  workspace : Workspace
  session : Session

def check {α ε : Type} (fault : ε → Fault) : Except ε α → Running α
  | .ok value => pure value
  | .error error => throw (.fault (fault error))

def write (setting : Setting) (text : String) : Running Unit := do
  let shown ← check .markup (setting.console.print true " " "\n" [text])
  modify fun output => { output with text := output.text ++ shown }

def writeLines (lines : List String) : Running Unit :=
  modify fun output => { output with text := output.text ++ String.join (lines.map (· ++ "\n")) }

def analyzerFor (environment : Environment) (working : Path) : Except Fault Analyzer := do
  let size ← (Options.cacheSize environment).mapError .option
  let cache ← (Cache.create size).mapError .cache
  let scoping ← (Options.scoping environment).mapError .option
  return Analyzer.create working cache scoping

def load (setting : Setting) (path : String) : Running Loaded := do
  let given := Path.ofString path
  let files := setting.files
  let start := if files.isDirectory (files.resolve path) then given else given.parent
  let root := files.projectRoot start
  let (environment, loaded) := Options.load setting.environment files root
  check .options loaded
  let workspace ← check .root (Workspace.at? files root.toString)
  let analyzer ← check id (analyzerFor environment files.working)
  let verbose ← check .option (Options.verbose environment)
  modify fun output => { output with verbose }
  return { environment, workspace, session := { analyzer } }

def perform {α : Type} (loaded : Loaded) (call : Calling α) : Running (α × Loaded) := do
  let (result, session) := loaded.session.perform call
  modify fun output => { output with notices := output.notices ++ session.notices }
  let value ← check .reading result
  return (value, { loaded with session := { session with notices := [] } })

def plain (markup : String) : Running String := check .markup (Text.render markup)

def listed (names : List String) : String :=
  if names.isEmpty then "-" else ", ".intercalate names

def writeTable (title : String) (columns : List Column) (rows : List (List String)) : Running Unit := do
  let title ← plain title
  let columns ← columns.mapM fun column => do
    let heading ← plain column.heading
    return { column with heading }
  let rows ← rows.mapM fun row => row.mapM plain
  writeLines (Table.lines { title, columns, rows })

def moduleRow (graph : ModuleGraph) (root : Path) (found : Module) : List String :=
  [found.name, relativeText found.file root, listed (sorted (graph.importsOf found.name)),
   listed (sorted (graph.importersOf found.name)), listed found.providers].map Text.escape

def modules (setting : Setting) (directory : String) : Running Unit := do
  let loaded ← load setting directory
  let ((), loaded) ← perform loaded (Session.prepare loaded.workspace.host)
  let graph := loaded.session.analyzer.moduleGraph?.getD ⟨[]⟩
  let rows := (sorted graph.names).filterMap fun name =>
    (graph.module? name).map (moduleRow graph loaded.workspace.root)
  writeTable s!"{graph.size} module(s)"
    [⟨"Module", .left⟩, ⟨"File", .left⟩, ⟨"Imports", .left⟩, ⟨"Imported by", .left⟩,
     ⟨"Providers", .left⟩] rows

def askDefinition (loaded : Loaded) (file : String) (position : Position) :
    Running (Option Definition × Loaded) := do
  let (answer, loaded) ←
    perform loaded (Session.ask loaded.workspace.host .definition file position)
  match answer with
  | .definition found => return (found, loaded)
  | .usages _ => return (none, loaded)

def askUsages (loaded : Loaded) (file : String) (position : Position) :
    Running (List Usage × Loaded) := do
  let (answer, loaded) ← perform loaded (Session.ask loaded.workspace.host .usages file position)
  match answer with
  | .usages found => return (found, loaded)
  | .definition _ => return ([], loaded)

def definition (setting : Setting) (file : String) (position : Position) : Running Unit := do
  let loaded ← load setting file
  let (found, loaded) ← askDefinition loaded file position
  match found with
  | none =>
    write setting "[yellow]No definition found[/yellow]"
    throw (.exit 1)
  | some found =>
    let place := placeText loaded.workspace.root found.file found.range.start.line
    let container := match present found.container with
      | some container => s!" in {Text.escape container}"
      | none => ""
    write setting (s!"{found.kind.icon} [bold]{Text.escape found.name}[/bold] " ++
      s!"[italic]{found.kind.label}[/italic]{container} → [cyan]{Text.escape place}[/cyan]")

def usageRow (root : Path) (usage : Usage) : List String :=
  let owner := (present usage.moduleName).getD "-"
  [Text.escape (relativeText usage.file root), toString (usage.line + 1), Text.escape owner,
   Text.escape (truncate usage.preview 80)]

def usages (setting : Setting) (file : String) (position : Position) (scoping : Option Bool)
    (all : Bool) : Running Unit := do
  let loaded ← load setting file
  let analyzer := loaded.session.analyzer
  let analyzer := { analyzer with scoping := scoping.getD analyzer.scoping }
  let (found, loaded) ← askUsages { loaded with session := { analyzer } } file position
  if found.isEmpty then write setting noUsages
  else
    let limit ← check .option (Options.inlineUsages loaded.environment)
    let shown := if all then found else takeSigned limit found
    writeTable s!"{shown.length} usage(s)"
      [⟨setting.console.safe true "📄 File", .left⟩, ⟨"Line", .right⟩, ⟨"Module", .left⟩,
       ⟨"Preview", .left⟩]
      (shown.map (usageRow loaded.workspace.root))
    if shown.length < found.length then
      write setting s!"[dim]{found.length - shown.length} more; use --all to list every usage[/dim]"

def keywords : List String :=
  ["if", "else", "for", "while", "return", "const", "let", "var", "function", "class", "import",
   "export", "from", "async", "await", "true", "false", "null", "undefined", "this", "new", "throw",
   "try", "catch", "finally", "typeof", "instanceof"]

/-- The word at a place of a file, whose line ends may be those of any system. -/
def wordIn (files : FileSystem) (path : String) (position : Position) : Except Failure String := do
  let bytes ← files.read path
  match Text.Utf8.decode bytes with
  | .error fault => throw (.undecodable fault)
  | .ok text =>
    let document := Document.ofText path (String.ofList (Text.normalizeNewlines text))
    return ((document.wordRangeAt position).map document.textOf).getD ""

def hover (setting : Setting) (file : String) (position : Position) : Running Unit := do
  let loaded ← load setting file
  let path := (setting.files.resolve file).toString
  let symbol ← check .reading (wordIn setting.files path position)
  if symbol.toList.length < 2 || keywords.contains symbol then return
  let (definition, loaded) ← askDefinition loaded path position
  let (usages, loaded) ← askUsages loaded path position
  let limit ← check .option (Options.inlineUsages loaded.environment)
  let lines := Hover.lines loaded.workspace.root symbol definition usages
    (loaded.session.analyzer.moduleForFile? path) limit
  let body ← plain (setting.console.safe true ("\n".intercalate lines))
  let title ← plain (Text.escape symbol)
  writeLines (framed title ((splitAt (· == '\n') body.toList).map String.ofList))

def watch (setting : Setting) (directory : String) : Running Unit := do
  if !setting.canWatch then
    write setting "[red]✗[/red] watchdog is not installed."
    throw (.exit 1)
  let loaded ← load setting directory
  modify fun output => { output with verbose := true }
  let ((), loaded) ← perform loaded (Session.prepare loaded.workspace.host)
  let count := (loaded.session.analyzer.moduleGraph?.map ModuleGraph.size).getD 0
  let quiet ← check .option (Options.debounce loaded.environment)
  write setting s!"\n[bold green]👀 Watching[/bold green] [cyan]{Text.escape loaded.workspace.root.toString}[/cyan]"
  write setting s!"[dim]  Modules:   {count}"
  write setting s!"  Debounce:  {quiet}ms"
  write setting "  Press Ctrl+C to stop[/dim]\n"

def execute (setting : Setting) : Command → Running Unit
  | .version => write setting s!"nest-scope {version}"
  | .modules directory => modules setting directory
  | .definition file position => definition setting file position
  | .usages file position scoping all => usages setting file position scoping all
  | .hover file position => hover setting file position
  | .watch directory => watch setting directory
  | .help => writeLines ["Usage: nest-scope COMMAND [ARGS]...", "",
      "Commands: " ++ ", ".intercalate commandNames]

/-- What has come of a command: its exit code, what it wrote, what it reported if that is shown, and
the fault that ended it. -/
structure Transcript where
  exitCode : Nat
  output : String := ""
  reports : List Notice := []
  fault : Option Fault := none

def Transcript.errorText (transcript : Transcript) (elapsed : String) : String :=
  String.join (transcript.reports.map fun notice => Console.echo ⟨false⟩ (notice.line elapsed))

/-- Runs the program with arguments. Arguments that make no sense end it with exit code 2. -/
def run (setting : Setting) (arguments : List String) : Transcript :=
  match command? setting.files arguments with
  | none => { exitCode := 2 }
  | some command =>
    let (result, output) := (ExceptT.run (execute setting command)).run {}
    let reports := if output.verbose then output.notices else []
    match result with
    | .ok () => { exitCode := 0, output := output.text, reports }
    | .error (.exit code) => { exitCode := code, output := output.text, reports }
    | .error (.fault fault) => { exitCode := 1, output := output.text, reports, fault := some fault }

end ModuleScope.CommandLine
