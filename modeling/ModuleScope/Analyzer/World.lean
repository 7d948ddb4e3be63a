import ModuleScope.Analyzer.Session

/-!
Calls made at the same time. Each call is a task that runs until it has to wait, for the build in
flight or for its host; between two waits nothing else happens. What happens next, and what the host
answers, is for the surroundings to choose, so a run is a list of events with a host for each.
-/
namespace ModuleScope

inductive Call where
  | prepare
  | rebuild
  | invalidate (file : String)
  | change (file : String)
  | ask (kind : QueryKind) (file : String) (position : Position)
  /-- A change that the watcher hands over. Nobody waits for it, so its failure is only reported. -/
  | apply (change : Change)
deriving DecidableEq, Repr

/-- Why a task waits for a build. -/
inductive Goal where
  | prepared
  | answer (kind : QueryKind) (file : String) (position : Position)
  /-- A build older than the rebuild has to end first. -/
  | olderBuild
  /-- The build that the rebuild is about. -/
  | ownBuild
deriving DecidableEq, Repr

inductive Stage where
  | awaiting (goal : Goal)
  | woken (goal : Goal) (outcome : Except Failure Unit)
  | locating (ticket : Ticket) (work : Work Located)
  | answering (ticket : Ticket) (work : Work Answer)
  | finished (result : Except Failure (Option SourcedAnswer))

/-- A call in progress; `change` is the change that the watcher handed over, if it is one. -/
structure Task where
  change : Option Change
  stage : Stage

/-- The shared state, what has been reported, and all calls made so far in their order. -/
structure World where
  analyzer : Analyzer
  notices : List Notice := []
  tasks : List Task := []

inductive Event where
  | call (call : Call)
  | build
  | work (task : Nat)
  | wake (task : Nat)
deriving DecidableEq, Repr

/-- How far work is taken in one go. -/
structure Pace where
  take : {α : Type} → Work α → Work α × List Notice

namespace Pace

def single (host : Host) : Pace := ⟨Work.serve host⟩

def upTo (host : Host) (stop : String → Bool) : Pace := ⟨Work.runTo host stop⟩

end Pace

structure Move where
  analyzer : Analyzer
  notices : List Notice := []
  stage : Stage

namespace Analyzer

def conclude (analyzer : Analyzer) (ticket : Ticket) : Except Failure Answer → Move
  | .ok answer =>
    { analyzer := analyzer.store ticket answer
      stage := .finished (.ok (some (ticket.sourced answer))) }
  | .error failure => { analyzer, stage := .finished (.error failure) }

def goOnAnswering (analyzer : Analyzer) (ticket : Ticket) (work : Work Answer)
    (notices : List Notice) : Move :=
  match work with
  | .finished result =>
    let move := analyzer.conclude ticket result
    { move with notices }
  | work => { analyzer, notices, stage := .answering ticket work }

/-- Goes on with the first part of a query; when it ends, the second begins with the graph and the
scoping of the moment. -/
def goOnLocating (analyzer : Analyzer) (ticket : Ticket) (work : Work Located)
    (notices : List Notice) : Move :=
  match work with
  | .finished (.error failure) => { analyzer, notices, stage := .finished (.error failure) }
  | .finished (.ok located) =>
    let ticket := analyzer.seeGraph ticket
    let (work, more) :=
      (located.answer ticket.query.position analyzer.moduleGraph? analyzer.scoping).toWait
    analyzer.goOnAnswering ticket work (notices ++ more)
  | work => { analyzer, notices, stage := .locating ticket work }

def beginQuery (analyzer : Analyzer) (kind : QueryKind) (file : String) (position : Position) : Move :=
  let query : Query := ⟨kind, analyzer.normalize file, position⟩
  match analyzer.lookUp query with
  | (analyzer, .inl kept) => { analyzer, stage := .finished (.ok (some kept)) }
  | (analyzer, .inr ticket) =>
    let (work, notices) := query.locate.toWait
    analyzer.goOnLocating ticket work notices

def beginOwnBuild (analyzer : Analyzer) : Move :=
  { analyzer := analyzer.ensureBuild, stage := .awaiting .ownBuild }

def goOn (analyzer : Analyzer) (goal : Goal) : Except Failure Unit → Move
  | .error failure => { analyzer, stage := .finished (.error failure) }
  | .ok () =>
    match goal with
    | .prepared => { analyzer, stage := .finished (.ok none) }
    | .answer kind file position => analyzer.beginQuery kind file position
    | .olderBuild => analyzer.beginOwnBuild
    | .ownBuild =>
      { analyzer := analyzer.forget, notices := [.rebuilt], stage := .finished (.ok none) }

def whenReady (analyzer : Analyzer) (goal : Goal) : Move :=
  if analyzer.phase == .ready then analyzer.goOn goal (.ok ())
  else { analyzer := analyzer.ensureBuild, stage := .awaiting goal }

def beginRebuild (analyzer : Analyzer) : Move :=
  let analyzer := analyzer.forget
  let move : Move := match analyzer.build with
    | some _ => { analyzer, stage := .awaiting .olderBuild }
    | none => analyzer.beginOwnBuild
  { move with notices := .rebuilding :: move.notices }

def dropFile (analyzer : Analyzer) (file : String) : Move :=
  let (analyzer, notices) := analyzer.invalidate file
  { analyzer, notices, stage := .finished (.ok none) }

def beginChange (analyzer : Analyzer) (file : String) : Move :=
  if isModuleFile file then analyzer.beginRebuild else analyzer.dropFile file

def begin (analyzer : Analyzer) : Call → Move
  | .prepare => analyzer.whenReady .prepared
  | .rebuild => analyzer.beginRebuild
  | .invalidate file => analyzer.dropFile file
  | .change file => analyzer.beginChange file
  | .ask kind file position => analyzer.whenReady (.answer kind file position)
  | .apply change =>
    let move := analyzer.beginChange change.path
    { move with notices := .fileChanged change :: move.notices }

end Analyzer

namespace Call

def change? : Call → Option Change
  | .apply handed => some handed
  | _ => none

end Call

namespace Move

def reporting (move : Move) (change : Option Change) : Move :=
  match change, move.stage with
  | some change, .finished (.error failure) =>
    { move with
      notices := move.notices ++ [.changeFailed change.path failure]
      stage := .finished (.ok none) }
  | _, _ => move

end Move

namespace World

def apply (world : World) (index : Nat) (task : Task) (move : Move) : World :=
  let move := move.reporting task.change
  { analyzer := move.analyzer
    notices := world.notices ++ move.notices
    tasks := world.tasks.set index { task with stage := move.stage } }

/-- Makes a call, which runs until it first has to wait. -/
def call (world : World) (call : Call) : World :=
  let move := (world.analyzer.begin call).reporting call.change?
  { analyzer := move.analyzer
    notices := world.notices ++ move.notices
    tasks := world.tasks ++ [{ change := call.change?, stage := move.stage }] }

def hear (outcome : Except Failure Unit) (task : Task) : Task :=
  match task.stage with
  | .awaiting goal => { task with stage := .woken goal outcome }
  | _ => task

/-- Takes the build in flight further. When it ends, every task that waits for it may go on. -/
def build (world : World) (pace : Pace) : World :=
  match world.analyzer.build with
  | none => world
  | some build =>
    let (work, notices) := pace.take build.work
    match work with
    | .finished result =>
      let (analyzer, more) := world.analyzer.finishBuild build.began result
      { analyzer
        notices := world.notices ++ notices ++ more
        tasks := world.tasks.map (hear (result.map fun _ => ())) }
    | work =>
      { world with
        analyzer := { world.analyzer with build := some { build with work } }
        notices := world.notices ++ notices }

def work (world : World) (pace : Pace) (index : Nat) : World :=
  match world.tasks[index]? with
  | none => world
  | some task =>
    match task.stage with
    | .locating ticket work =>
      let (work, notices) := pace.take work
      world.apply index task (world.analyzer.goOnLocating ticket work notices)
    | .answering ticket work =>
      let (work, notices) := pace.take work
      world.apply index task (world.analyzer.goOnAnswering ticket work notices)
    | _ => world

def wake (world : World) (index : Nat) : World :=
  match world.tasks[index]? with
  | none => world
  | some task =>
    match task.stage with
    | .woken goal outcome => world.apply index task (world.analyzer.goOn goal outcome)
    | _ => world

/-- The world after an event; an event for which nothing is ready changes nothing. -/
def step (host : Host) (world : World) : Event → World
  | .call call => world.call call
  | .build => world.build (.single host)
  | .work index => world.work (.single host) index
  | .wake index => world.wake index

def run (world : World) (events : List (Host × Event)) : World :=
  events.foldl (fun world (host, event) => world.step host event) world

/-- Takes every task further that waits for its host, then the build, and lets go on what waits for
it. -/
def round (world : World) (pace : Pace) : World :=
  let indices := List.range world.tasks.length
  let world := indices.foldl (fun world index => world.work pace index) world
  let world := world.build pace
  indices.foldl (fun world index => world.wake index) world

def rounds (world : World) (pace : Pace) : Nat → World
  | 0 => world
  | count + 1 => (world.round pace).rounds pace count

/-- Enough rounds for all tasks to come to their end: a rebuild waits for two builds, and a query for
a build and for two pieces of work. -/
def enoughRounds (world : World) : Nat := 4 * (world.tasks.length + 1)

def heldAt? (world : World) (stop : String → Bool) : Option Nat :=
  let waits {α : Type} : Work α → Bool
    | .opening path _ => stop path
    | _ => false
  world.tasks.findIdx? fun task =>
    match task.stage with
    | .locating _ work => waits work
    | .answering _ work => waits work
    | _ => false

/-- Goes on for a number of rounds, but no further than to the moment at which a task is about to open
a document whose path satisfies the test. -/
def goUpTo (world : World) (host : Host) (stop : String → Bool) : Nat → World
  | 0 => world
  | count + 1 =>
    let pace := Pace.upTo host stop
    let indices := List.range world.tasks.length
    let moves : List (World → World) :=
      indices.map (fun index world => world.work pace index) ++ [fun world => world.build pace] ++
        indices.map (fun index world => world.wake index)
    let world := moves.foldl (fun world move =>
      if (world.heldAt? stop).isSome then world else move world) world
    world.goUpTo host stop count

/-- Goes on for a number of rounds while one task is held. Tasks whose build has ended come first, so
that a build they start is under way before other work is done. -/
def goBeside (world : World) (host : Host) (held : Nat) : Nat → World
  | 0 => world
  | count + 1 =>
    let pace := Pace.upTo host fun _ => false
    let indices := (List.range world.tasks.length).filter (· != held)
    let world := indices.foldl (fun world index => world.wake index) world
    let world := world.build pace
    let world := indices.foldl (fun world index => world.work pace index) world
    world.goBeside host held count

def settleTo (world : World) (host : Host) (stop : String → Bool) : World :=
  world.rounds (.upTo host stop) world.enoughRounds

def settle (world : World) (host : Host) : World := world.settleTo host fun _ => false

def results (world : World) : List (Option (Except Failure (Option Answer))) :=
  world.tasks.map fun task =>
    match task.stage with
    | .finished result => some (result.map fun found => found.map SourcedAnswer.answer)
    | _ => none

def isPaused (world : World) : Bool :=
  let waits {α : Type} : Work α → Bool
    | .opening _ _ => true
    | _ => false
  (match world.analyzer.build with
    | some build => waits build.work
    | none => false) ||
  world.tasks.any fun task =>
    match task.stage with
    | .locating _ work => waits work
    | .answering _ work => waits work
    | _ => false

end World

end ModuleScope
