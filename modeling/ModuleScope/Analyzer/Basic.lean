import ModuleScope.Cache
import ModuleScope.Path
import ModuleScope.Search.Definition
import ModuleScope.Search.Graph
import ModuleScope.Search.Usages

/-!
The analyzer's shared state and the steps that change it. The module graph is built when a query first
needs it; a build in flight is shared by all callers. A generation counts the changes after which
results found before may be stale, and a query stores its result only if it has not moved meanwhile.

A logical clock orders what happens: every step that reads or changes shared state advances it. No
answer depends on it.
-/
namespace ModuleScope

inductive Phase where
  | uninitialized
  | initializing
  | ready
deriving DecidableEq, Repr

namespace Phase

def label : Phase → String
  | uninitialized => "uninitialized"
  | initializing => "initializing"
  | ready => "ready"

end Phase

inductive QueryKind where
  | usages
  | definition
deriving DecidableEq, Repr

namespace QueryKind

def label : QueryKind → String
  | usages => "usages"
  | definition => "definition"

end QueryKind

structure Query where
  kind : QueryKind
  path : String
  position : Position
deriving DecidableEq, Repr

namespace Query

def key (query : Query) : String :=
  queryKey query.kind.label query.path query.position.line query.position.character

end Query

inductive Answer where
  | usages (found : List Usage)
  | definition (found : Option Definition)
deriving DecidableEq, Repr

namespace Answer

/-- Whether an answer is kept: all usages are, even if there are none, and every definition found. -/
def isKept : Answer → Bool
  | usages _ => true
  | definition found => found.isSome

end Answer

/-- Where an answer comes from: the moment at which its query read the generation, and the moment at
which the build of the graph it saw began. -/
structure Provenance where
  asked : Nat
  graphBegan : Option Nat
deriving DecidableEq, Repr

structure SourcedAnswer where
  answer : Answer
  provenance : Provenance
deriving DecidableEq, Repr

structure Build where
  began : Nat
  work : Work ModuleGraph

structure BuiltGraph where
  graph : ModuleGraph
  began : Nat
deriving DecidableEq, Repr

/-- The state that all callers share. Relative paths are read from the working directory. -/
structure Analyzer where
  working : Path
  scoping : Bool
  cache : Cache SourcedAnswer
  phase : Phase := .uninitialized
  graph : Option BuiltGraph := none
  generation : Nat := 0
  build : Option Build := none
  clock : Nat := 0

/-- What a query needs to store its answer. -/
structure Ticket where
  query : Query
  generation : Nat
  asked : Nat
  graphBegan : Option Nat := none
deriving DecidableEq, Repr

def Ticket.sourced (ticket : Ticket) (answer : Answer) : SourcedAnswer :=
  ⟨answer, ⟨ticket.asked, ticket.graphBegan⟩⟩

/-- What the first part of a query finds out: a definition, which is the whole answer, or the document
to search from and the container of the symbol. -/
inductive Located where
  | definition (found : Option Definition)
  | symbol (document : Document) (container : Option String)

namespace Query

/-- Opens the document of a query and resolves the symbol under its cursor. The container of a member
access is left to the search for usages. -/
def locate (query : Query) : Work Located := do
  let document ← Work.document query.path
  match query.kind with
  | .definition =>
    let found ← findDefinition document query.position
    return .definition found
  | .usages =>
    match document.wordAt? (document.code?.map Code.tree) query.position with
    | none => return .symbol document none
    | some word =>
      if word.isPropertyAccess then return .symbol document none
      else
        let found ← findDefinition document query.position
        return .symbol document (found.bind fun found => found.container)

end Query

namespace Located

def answer (located : Located) (position : Position) (graph : Option ModuleGraph) (scoping : Bool) :
    Work Answer :=
  match located with
  | definition found => pure (.definition found)
  | symbol document container => do
    let usages ← findUsages document position graph scoping container
    return .usages usages

end Located

namespace Analyzer

def create (working : Path) (cache : Cache SourcedAnswer) (scoping : Bool) : Analyzer :=
  { working, scoping, cache }

def tick (analyzer : Analyzer) : Analyzer := { analyzer with clock := analyzer.clock + 1 }

def normalize (analyzer : Analyzer) (file : String) : String :=
  (analyzer.working.resolve (Path.ofString file)).toString

def moduleGraph? (analyzer : Analyzer) : Option ModuleGraph :=
  analyzer.graph.map fun built => built.graph

def moduleForFile? (analyzer : Analyzer) (file : String) : Option String :=
  (analyzer.moduleGraph?.bind fun graph => graph.moduleForFile? (analyzer.normalize file)).map
    fun found => found.name

def ensureBuild (analyzer : Analyzer) : Analyzer :=
  match analyzer.build with
  | some _ => analyzer
  | none =>
    let analyzer := analyzer.tick
    let work := do
      Work.note .initializing
      buildGraph
    { analyzer with phase := .initializing, build := some ⟨analyzer.clock, work⟩ }

/-- Ends the build that began at a moment. If it failed, the graph and the cache stay as they were. -/
def finishBuild (analyzer : Analyzer) (began : Nat) :
    Except Failure ModuleGraph → Analyzer × List Notice
  | .ok graph =>
    ({ analyzer with build := none, phase := .ready, graph := some ⟨graph, began⟩ }, [.initialized])
  | .error _ => ({ analyzer with build := none, phase := .uninitialized }, [])

def lookUp (analyzer : Analyzer) (query : Query) : Analyzer × (SourcedAnswer ⊕ Ticket) :=
  let analyzer := analyzer.tick
  let (found, cache) := analyzer.cache.get query.key
  match found with
  | some kept => ({ analyzer with cache }, .inl kept)
  | none => (analyzer, .inr { query, generation := analyzer.generation, asked := analyzer.clock })

def seeGraph (analyzer : Analyzer) (ticket : Ticket) : Ticket :=
  { ticket with graphBegan := analyzer.graph.map fun built => built.began }

/-- Stores an answer unless the generation has moved since the query read it. -/
def store (analyzer : Analyzer) (ticket : Ticket) (answer : Answer) : Analyzer :=
  if answer.isKept && ticket.generation == analyzer.generation then
    { analyzer with cache := analyzer.cache.insert ticket.query.key (ticket.sourced answer) }
  else analyzer

def invalidate (analyzer : Analyzer) (file : String) : Analyzer × List Notice :=
  let path := analyzer.normalize file
  let analyzer := analyzer.tick
  let cache := (analyzer.cache.invalidate (fileKey QueryKind.usages.label path)).2
  let cache := (cache.invalidate (fileKey QueryKind.definition.label path)).2
  ({ analyzer with generation := analyzer.generation + 1, cache }, [.invalidated path])

def forget (analyzer : Analyzer) : Analyzer :=
  let analyzer := analyzer.tick
  { analyzer with cache := analyzer.cache.clear, generation := analyzer.generation + 1 }

end Analyzer

end ModuleScope
