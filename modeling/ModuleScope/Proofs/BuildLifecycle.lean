import Mathlib
import ModuleScope.Proofs.RebuildFreshness

/-!
The life of builds. A build begins only when none is in flight, and it stays the one in flight until it
ends; whoever comes meanwhile waits for it. So the phase tells whether a build is in flight, the graph
is that of the last build that ended well, and a rebuild returns with a graph that is newer than its call.
-/
namespace ModuleScope

namespace Analyzer

variable {before after : Analyzer} {origin : Origin} {stage : Stage}

/-- The phase tells whether a build is in flight and whether there is a graph. -/
structure Settled (analyzer : Analyzer) : Prop where
  initializing : analyzer.phase = .initializing ↔ ∃ began, analyzer.began? = some began
  ready : analyzer.phase = .ready → ∃ built, analyzer.graph = some built

theorem Settled.onward (settled : before.Settled) (onward : before.Onward after) : after.Settled := by
  rcases onward.build with ⟨same, phase⟩ | ⟨began, started, _, phase⟩
  · refine ⟨?_, ?_⟩
    · rw [phase, same]
      exact settled.initializing
    · rw [phase, onward.graph]
      exact settled.ready
  · refine ⟨?_, ?_⟩
    · simp [phase, started]
    · simp [phase]

theorem finishBuild_settled (before : Analyzer) (began : Nat) (result : Except Failure ModuleGraph) :
    (before.finishBuild began result).1.Settled := by
  cases result with
  | ok graph => exact ⟨by simp [finishBuild, began?], fun _ => ⟨⟨graph, began⟩, rfl⟩⟩
  | error failure => exact ⟨by simp [finishBuild, began?], by simp [finishBuild]⟩

theorem ensureBuild_began?_cases (analyzer : Analyzer) :
    analyzer.ensureBuild.began? = analyzer.began? ∨
      analyzer.began? = none ∧ analyzer.ensureBuild.began? = some analyzer.ensureBuild.clock := by
  unfold ensureBuild
  cases running : analyzer.build with
  | some build => exact Or.inl rfl
  | none => exact Or.inr ⟨by rw [began?, running]; rfl, rfl⟩

theorem Advance.began?_cases (advance : Advance before origin after stage) :
    after.began? = before.began? ∨ before.began? = none ∧ after.began? = some after.clock := by
  cases advance with
  | prepared | locates | locatingFails | raises | reads => exact Or.inl rfl
  | waits | ownBuilds => exact ensureBuild_began?_cases before
  | hits reached found =>
    rw [lookUp_hit found]
    exact Or.inl rfl
  | searches searches answers =>
    cases answers with
    | waits | fails => exact Or.inl rfl
    | ends answer =>
      unfold store
      split <;> exact Or.inl rfl
  | rebuildWaits | rebuilt | invalidates => exact Or.inl rfl
  | rebuildBuilds => exact ensureBuild_began?_cases before.forget

theorem Advance.waits_of_called {call : Call} {goal : Goal} (wanted : call.goal? = some goal)
    (unready : before.phase ≠ .ready) (advance : Advance before (.called call) after stage) :
    stage = .awaiting goal ∧ after = before.ensureBuild := by
  have idle : call.startsRebuild = false ∧ call.invalidated? = none := by
    cases call <;> simp_all [Call.goal?, Call.startsRebuild, Call.invalidated?]
  cases advance with
  | prepared reached | hits reached found | reads reached missed =>
    cases reached with
    | atOnce _ ready => exact absurd ready unready
  | waits same _ =>
    obtain rfl := Option.some.inj (wanted.symm.trans same)
    exact ⟨rfl, rfl⟩
  | searches searches answers => cases searches
  | rebuildWaits starts | rebuildBuilds starts =>
    rw [idle.1] at starts
    cases starts
  | invalidates dropped =>
    rw [idle.2] at dropped
    cases dropped

end Analyzer

namespace Run

variable {run : Run} {moment began : Nat}

/-- At a moment a build begins; it is known by the time of the clock at which it does. -/
def BuildBegins (run : Run) (moment began : Nat) : Prop :=
  (run.world moment).analyzer.began? ≠ some began ∧
    (run.world (moment + 1)).analyzer.began? = some began

def BuildEnds (run : Run) (moment began : Nat) (result : Except Failure ModuleGraph) : Prop :=
  ∃ host build, run.events[moment]? = some (host, .build) ∧
    (run.world moment).analyzer.build = some build ∧ build.began = began ∧
    (build.work.serve host).1 = .finished result

def InFlight (run : Run) (moment began : Nat) : Prop :=
  ∃ first < moment, run.BuildBegins first began ∧
    ∀ between, first < between → between < moment → ∀ result, ¬ run.BuildEnds between began result

theorem BuildEnds.began? {result : Except Failure ModuleGraph}
    (ends : run.BuildEnds moment began result) :
    (run.world moment).analyzer.began? = some began := by
  obtain ⟨host, build, _, running, rfl, _⟩ := ends
  exact Analyzer.began?_of_build running

theorem BuildEnds.result_eq {other : Nat} {result result' : Except Failure ModuleGraph}
    (ends : run.BuildEnds moment began result) (ends' : run.BuildEnds moment other result') :
    result = result' := by
  obtain ⟨host, build, occurs, running, _, done⟩ := ends
  obtain ⟨host', build', occurs', running', _, done'⟩ := ends'
  obtain ⟨rfl, _⟩ := Prod.mk.inj (Option.some.inj (occurs.symm.trans occurs'))
  obtain rfl := Option.some.inj (running.symm.trans running')
  exact Work.finished.inj (done.symm.trans done')

theorem BuildEnds.next {result : Except Failure ModuleGraph}
    (ends : run.BuildEnds moment began result) :
    (run.world (moment + 1)).analyzer = ((run.world moment).analyzer.finishBuild began result).1 ∧
      ∀ index, (run.world (moment + 1)).stage? index =
        ((run.world moment).stage? index).map (Stage.heard (result.map fun _ => ())) := by
  obtain ⟨host, build, occurs, running, rfl, done⟩ := ends
  have stepped : run.world (moment + 1) = (run.world moment).build (.single host) := by
    rw [world_succ, occurs]
    rfl
  have taken : ((Pace.single host).take build.work).1 = .finished result := done
  rw [stepped, World.build, running]
  dsimp only
  rw [taken]
  exact ⟨rfl, World.stage?_hear _ _⟩

theorem buildEnds_of_idle {build : Build} (occurs : run.event? moment = some .build)
    (running : (run.world moment).analyzer.build = some build)
    (idle : (run.world (moment + 1)).analyzer.build = none) :
    ∃ result, run.BuildEnds moment build.began result := by
  obtain ⟨⟨host, event⟩, present, rfl⟩ := Option.map_eq_some_iff.mp occurs
  have stepped : run.world (moment + 1) = (run.world moment).build (.single host) := by
    rw [world_succ, present]
    rfl
  cases left : (build.work.serve host).1 with
  | finished result => exact ⟨result, host, build, present, running, rfl, left⟩
  | opening | listing | noting =>
    have taken : ((Pace.single host).take build.work).1 = _ := left
    simp only [stepped, World.build, running, taken] at idle
    cases idle

/-- Unless a build ends, the state goes on, a build begins only if none is in flight, and tasks that wait
for one keep waiting. -/
theorem next_of_not_ends (continues : ¬ ∃ began result, run.BuildEnds moment began result) :
    (run.world moment).analyzer.Onward (run.world (moment + 1)).analyzer ∧
      ((run.world (moment + 1)).analyzer.began? = (run.world moment).analyzer.began? ∨
        (run.world moment).analyzer.began? = none ∧
          (run.world (moment + 1)).analyzer.began? =
            some (run.world (moment + 1)).analyzer.clock) ∧
      ∀ index goal, (run.world moment).stage? index = some (.awaiting goal) →
        (run.world (moment + 1)).stage? index = some (.awaiting goal) := by
  rcases run.next moment with ⟨event, occurs, happens⟩ | ⟨same, _⟩
  · cases happens with
    | @advanced moved origin reached moves advance here elsewhere =>
      refine ⟨advance.onward, advance.began?_cases, fun index goal present => ?_⟩
      have other : index ≠ moved := by
        rintro rfl
        cases moves with
        | calls call new => simp [World.stage?_eq_none_iff.mpr new.ge] at present
        | resumes held due =>
          obtain rfl := Option.some.inj (held.symm.trans present)
          cases due
      exact (elsewhere index other).trans present
    | built running rest _ state stages =>
      rw [state]
      refine ⟨Analyzer.built_onward running rest, Or.inl ?_, fun index goal present => ?_⟩
      · rw [Analyzer.began?_of_build running]
        rfl
      · exact (stages index).trans present
    | ended running result same state stages =>
      subst same
      have idle : (run.world (moment + 1)).analyzer.build = none := by
        rw [state]
        cases result <;> rfl
      obtain ⟨result, ends⟩ := buildEnds_of_idle occurs running idle
      exact absurd ⟨_, result, ends⟩ continues
  · rw [same]
    exact ⟨.refl _, Or.inl rfl, fun _ _ => id⟩

theorem settled (run : Run) (moment : Nat) : (run.world moment).analyzer.Settled := by
  induction moment with
  | zero => exact ⟨by simp [world, World.run, start, Analyzer.create, Analyzer.began?],
      by simp [world, World.run, start, Analyzer.create]⟩
  | succ moment ih =>
    by_cases ended : ∃ began result, run.BuildEnds moment began result
    · obtain ⟨began, result, ends⟩ := ended
      rw [ends.next.1]
      exact Analyzer.finishBuild_settled _ began result
    · exact ih.onward (next_of_not_ends ended).1

theorem BuildEnds.idle {result : Except Failure ModuleGraph}
    (ends : run.BuildEnds moment began result) :
    (run.world (moment + 1)).analyzer.began? = none := by
  rw [ends.next.1]
  cases result <;> rfl

theorem began?_succ (running : (run.world moment).analyzer.began? = some began)
    (continues : ∀ result, ¬ run.BuildEnds moment began result) :
    (run.world (moment + 1)).analyzer.began? = some began := by
  have none : ¬ ∃ other result, run.BuildEnds moment other result := by
    rintro ⟨other, result, ends⟩
    obtain rfl := Option.some.inj (ends.began?.symm.trans running)
    exact continues result ends
  rcases (next_of_not_ends none).2.1 with same | ⟨idle, _⟩
  · exact same.trans running
  · simp [running] at idle

theorem InFlight.began? (flight : run.InFlight moment began) :
    (run.world moment).analyzer.began? = some began := by
  obtain ⟨first, before, ⟨_, begins⟩, continues⟩ := flight
  induction moment, before using Nat.le_induction with
  | base => exact begins
  | succ moment since ih =>
    have earlier := ih fun between after below => continues between after (by omega)
    exact began?_succ earlier (continues moment since (by omega))

theorem inFlight_of_began? (running : (run.world moment).analyzer.began? = some began) :
    run.InFlight moment began := by
  induction moment with
  | zero => simp [world, World.run, start, Analyzer.create, Analyzer.began?] at running
  | succ moment ih =>
    by_cases before : (run.world moment).analyzer.began? = some began
    · obtain ⟨first, order, begins, continues⟩ := ih before
      refine ⟨first, by omega, begins, fun between after below result ends => ?_⟩
      rcases Nat.lt_succ_iff_lt_or_eq.mp below with earlier | rfl
      · exact continues between after earlier result ends
      · simp [ends.idle] at running
    · exact ⟨moment, by omega, ⟨before, running⟩, fun between after below => by omega⟩

theorem inFlight_iff : run.InFlight moment began ↔
    (run.world moment).analyzer.began? = some began :=
  ⟨InFlight.began?, inFlight_of_began?⟩

theorem BuildBegins.clock (begins : run.BuildBegins moment began) :
    began = (run.world (moment + 1)).analyzer.clock ∧ (run.world moment).analyzer.clock < began := by
  obtain ⟨unlike, running⟩ := begins
  have continues : ¬ ∃ other result, run.BuildEnds moment other result := by
    rintro ⟨other, result, ends⟩
    simp [ends.idle] at running
  obtain ⟨onward, same | ⟨_, started⟩, _⟩ := next_of_not_ends continues
  · exact absurd (same.symm.trans running) unlike
  · obtain rfl := Option.some.inj (started.symm.trans running)
    rcases onward.build with ⟨same, _⟩ | ⟨new, present, later, _⟩
    · exact absurd (same.symm.trans running) unlike
    · obtain rfl := Option.some.inj (present.symm.trans started)
      exact ⟨rfl, later⟩

theorem InFlight.le_clock (flight : run.InFlight moment began) :
    began ≤ (run.world moment).analyzer.clock := by
  obtain ⟨first, before, begins, _⟩ := flight
  rw [begins.clock.1]
  exact (run.later (Nat.succ_le_of_lt before)).clock

theorem BuildEnds.moment_eq {other : Nat} {result result' : Except Failure ModuleGraph}
    (ends : run.BuildEnds moment began result) (ends' : run.BuildEnds other began result') :
    moment = other := by
  -- Otherwise the build would have to begin again after its first end, at a time that has passed.
  have once {first second : Nat} {result result' : Except Failure ModuleGraph}
      (ends : run.BuildEnds first began result) (ends' : run.BuildEnds second began result') :
      ¬ first < second := by
    intro order
    obtain ⟨start, before, begins, continues⟩ := inFlight_of_began? ends'.began?
    have passed := (inFlight_of_began? ends.began?).le_clock
    rcases Nat.lt_trichotomy start first with earlier | rfl | later
    · exact continues first earlier order result ends
    · exact begins.1 ends.began?
    · have clock := (run.later later.le).clock
      have new := begins.clock.2
      omega
  have first := once ends ends'
  have second := once ends' ends
  omega

/-- The last build that has ended well before a moment, with the moment of its end. -/
def LastBuilt (run : Run) (moment last : Nat) (built : BuiltGraph) : Prop :=
  last < moment ∧ run.BuildEnds last built.began (.ok built.graph) ∧
    ∀ between, last < between → between < moment →
      ∀ began graph, ¬ run.BuildEnds between began (.ok graph)

theorem LastBuilt.succ {last : Nat} {built : BuiltGraph} (lastBuilt : run.LastBuilt moment last built)
    (fails : ∀ began graph, ¬ run.BuildEnds moment began (.ok graph)) :
    run.LastBuilt (moment + 1) last built := by
  obtain ⟨before, ends, none⟩ := lastBuilt
  refine ⟨by omega, ends, fun between after below => ?_⟩
  rcases Nat.lt_succ_iff_lt_or_eq.mp below with earlier | rfl
  · exact none between after earlier
  · exact fails

theorem lastBuilt_of_graph {built : BuiltGraph}
    (present : (run.world moment).analyzer.graph = some built) :
    ∃ last, run.LastBuilt moment last built := by
  induction moment generalizing built with
  | zero => simp [world, World.run, start, Analyzer.create] at present
  | succ moment ih =>
    by_cases ended : ∃ began result, run.BuildEnds moment began result
    · obtain ⟨began, result, ends⟩ := ended
      rw [ends.next.1] at present
      cases result with
      | ok graph =>
        obtain rfl := Option.some.inj present
        exact ⟨moment, by omega, ends, fun between after below => by omega⟩
      | error failure =>
        obtain ⟨last, lastBuilt⟩ := ih present
        refine ⟨last, lastBuilt.succ fun _ _ ends' => ?_⟩
        cases ends.result_eq ends'
    · rw [(next_of_not_ends ended).1.graph] at present
      obtain ⟨last, lastBuilt⟩ := ih present
      exact ⟨last, lastBuilt.succ fun began graph ends => ended ⟨began, _, ends⟩⟩

theorem uninitialized_since {failure : Failure} (ends : run.BuildEnds moment began (.error failure))
    {later : Nat} (after : moment < later)
    (idle : ∀ between, moment < between → between < later → ∀ other, ¬ run.BuildBegins between other) :
    (run.world later).analyzer.phase = .uninitialized ∧ (run.world later).analyzer.began? = none := by
  induction later, after using Nat.le_induction with
  | base =>
    refine ⟨?_, ends.idle⟩
    rw [ends.next.1]
    rfl
  | succ later since ih =>
    obtain ⟨phase, none⟩ := ih fun between after below => idle between after (by omega)
    have continues : ¬ ∃ began result, run.BuildEnds later began result := by
      rintro ⟨other, result, ends⟩
      simp [ends.began?] at none
    rcases (next_of_not_ends continues).1.build with ⟨same, unchanged⟩ | ⟨new, started, _, _⟩
    · exact ⟨unchanged.trans phase, same.trans none⟩
    · exact absurd ⟨by simp [none], started⟩ (idle later since (by omega) new)

theorem buildBegins_of_call {call : Call} {goal : Goal} (occurs : run.event? moment = some (.call call))
    (wanted : call.goal? = some goal) (unready : (run.world moment).analyzer.phase ≠ .ready)
    (idle : (run.world moment).analyzer.began? = none) :
    (∃ began, run.BuildBegins moment began) ∧
      (run.world (moment + 1)).stage? (run.taskAt moment) = some (.awaiting goal) := by
  obtain ⟨stage, advance, here⟩ := (happens occurs trivial).of_called
  obtain ⟨rfl, state⟩ := advance.waits_of_called wanted unready
  obtain ⟨began, running⟩ := Analyzer.ensureBuild_began? (run.world moment).analyzer
  exact ⟨⟨began, by simp [idle], by rw [state]; exact running⟩, here⟩

theorem awaiting_since {task : Nat} {goal : Goal}
    (waits : (run.world moment).stage? task = some (.awaiting goal))
    (running : (run.world moment).analyzer.began? = some began) {later : Nat} (order : moment ≤ later)
    (continues : ∀ between, moment ≤ between → between < later →
      ∀ result, ¬ run.BuildEnds between began result) :
    (run.world later).stage? task = some (.awaiting goal) ∧
      (run.world later).analyzer.began? = some began := by
  induction later, order using Nat.le_induction with
  | base => exact ⟨waits, running⟩
  | succ later since ih =>
    obtain ⟨still, running⟩ := ih fun between after below => continues between after (by omega)
    have unended := continues later since (by omega)
    have none : ¬ ∃ other result, run.BuildEnds later other result := by
      rintro ⟨other, result, ends⟩
      obtain rfl := Option.some.inj (ends.began?.symm.trans running)
      exact unended result ends
    exact ⟨(next_of_not_ends none).2.2 task goal still, began?_succ running unended⟩

end Run

/-- With what goal a call waits for a build that it finds in flight, if it does. -/
def Call.joins? (call : Call) : Option Goal :=
  if call.startsRebuild then some .olderBuild else call.goal?

namespace Run

variable {run : Run} {moment began : Nat}

theorem joins_of_call {call : Call} {goal : Goal} (occurs : run.event? moment = some (.call call))
    (joins : call.joins? = some goal)
    (running : (run.world moment).analyzer.began? = some began) :
    (run.world (moment + 1)).stage? (run.taskAt moment) = some (.awaiting goal) ∧
      (run.world (moment + 1)).analyzer.began? = some began := by
  obtain ⟨stage, advance, here⟩ := (happens occurs trivial).of_called
  have still : (run.world (moment + 1)).analyzer.began? = some began := by
    rcases advance.began?_cases with same | ⟨idle, _⟩
    · exact same.trans running
    · simp [running] at idle
  refine ⟨?_, still⟩
  unfold Call.joins? at joins
  split at joins
  · next starts =>
    obtain rfl := Option.some.inj joins
    rcases advance.called_cases (Call.goal?_eq_none (Or.inl starts)) with
      ⟨_, rfl, _⟩ | ⟨_, idle, _, _⟩ | ⟨file, dropped, _⟩
    · exact here
    · simp [Analyzer.began?, idle] at running
    · simp [Call.invalidated?_eq_none starts] at dropped
  · have unready : (run.world moment).analyzer.phase ≠ .ready := by
      rw [(run.settled moment).initializing.mpr ⟨began, running⟩]
      simp
    obtain ⟨rfl, _⟩ := advance.waits_of_called joins unready
    exact here

end Run

namespace World

def change? (world : World) (index : Nat) : Option (Option Change) :=
  world.tasks[index]?.map Task.change

theorem change?_apply {world : World} {index : Nat} {task : Task}
    (present : world.tasks[index]? = some task) (move : Move) (other : Nat) :
    (world.apply index task move).change? other = world.change? other := by
  by_cases same : other = index
  · subst same
    obtain ⟨bound, rfl⟩ := List.getElem?_eq_some_iff.mp present
    simp [World.apply, change?, bound]
  · simp [World.apply, change?, List.getElem?_set_ne (Ne.symm same)]

theorem change?_step {world : World} {index : Nat} {change : Option Change} (host : Host)
    (event : Event) (held : world.change? index = some change) :
    (world.step host event).change? index = some change := by
  cases event with
  | call call =>
    obtain ⟨task, present, _⟩ := Option.map_eq_some_iff.mp held
    obtain ⟨bound, _⟩ := List.getElem?_eq_some_iff.mp present
    rwa [change?, step, World.call, List.getElem?_append_left bound]
  | build =>
    rw [step, World.build]
    split
    · exact held
    · dsimp only
      split
      · have kept (outcome : Except Failure Unit) (task : Task) :
            (hear outcome task).change = task.change := by
          unfold hear
          split <;> rfl
        simpa [change?, Function.comp_def, kept] using held
      · exact held
  | work moved =>
    rw [step, World.work]
    split
    · exact held
    · next task present =>
      split
      · exact (change?_apply present _ index).trans held
      · exact (change?_apply present _ index).trans held
      · exact held
  | wake moved =>
    rw [step, World.wake]
    split
    · exact held
    · next task present =>
      split
      · exact (change?_apply present _ index).trans held
      · exact held

theorem stage?_wake_of_failed {world : World} {index : Nat} {goal : Goal} {failure : Failure}
    (present : world.stage? index = some (.woken goal (.error failure)))
    (awaited : world.change? index = some none) :
    (world.wake index).stage? index = some (.finished (.error failure)) := by
  obtain ⟨⟨change, stage⟩, held, rfl⟩ := Option.map_eq_some_iff.mp present
  obtain ⟨bound, _⟩ := List.getElem?_eq_some_iff.mp held
  have unhanded : change = none := by simpa [change?, held] using awaited
  subst unhanded
  rw [World.wake, held]
  simp [World.apply, Analyzer.goOn, Move.reporting, stage?, bound]

end World

namespace Run

variable {run : Run}

theorem change?_taskAt {called moment : Nat} {call : Call}
    (occurs : run.event? called = some (.call call)) (order : called < moment) :
    (run.world moment).change? (run.taskAt called) = some call.change? := by
  induction moment, order using Nat.le_induction with
  | base =>
    obtain ⟨⟨host, event⟩, present, rfl⟩ := Option.map_eq_some_iff.mp occurs
    rw [world_succ, present]
    simp [World.step, World.call, World.change?, taskAt]
  | succ moment since ih =>
    rw [world_succ]
    split
    · exact World.change?_step _ _ ih
    · exact ih

def Returns (run : Run) (moment task : Nat) : Prop :=
  (∀ result, (run.world moment).stage? task ≠ some (.finished result)) ∧
    ∃ found, (run.world (moment + 1)).stage? task = some (.finished (.ok found))

theorem Returns.called_lt {called returned : Nat} {call : Call}
    (occurs : run.event? called = some (.call call)) (starts : call.startsRebuild = true)
    (returns : run.Returns returned (run.taskAt called)) : called < returned := by
  obtain ⟨_, found, present⟩ := returns
  have bound : called < returned + 1 := lt_of_stage? le_rfl present
  refine lt_of_le_of_ne (Nat.lt_succ_iff.mp bound) ?_
  rintro rfl
  obtain ⟨goal, waits, _⟩ := rebuild_starts occurs starts
  simp [waits] at present

theorem Returns.graphSince {called returned : Nat} {call : Call}
    (occurs : run.event? called = some (.call call)) (starts : call.startsRebuild = true)
    (awaited : call.change? = none) (returns : run.Returns returned (run.taskAt called)) :
    (run.world (returned + 1)).analyzer.GraphSince (run.world called).analyzer.clock := by
  have after := returns.called_lt occurs starts
  obtain ⟨unfinished, found, finished⟩ := returns
  obtain ⟨stage, present, held⟩ := rebuildAt_since occurs starts after
  rcases run.next returned with ⟨event, happening, happens⟩ | ⟨same, _⟩
  · rcases happens.stage_cases finished with before | ⟨_, _, _, heard, _⟩ | ⟨origin, moves, advance⟩
    · exact absurd before (unfinished _)
    · cases heard
    · cases moves with
      | calls _ new => simp [World.stage?_eq_none_iff.mpr new.ge] at present
      | resumes same due =>
        obtain rfl := Option.some.inj (same.symm.trans present)
        rcases held.ends advance with rfl | ⟨goal, failure, rfl⟩
        · cases held with
          | ownEnded build graph => exact graph.onward advance.onward
        · -- A failure would have been given to whoever waits.
          obtain rfl := Option.some.inj due
          obtain ⟨⟨host, _⟩, listed, rfl⟩ := Option.map_eq_some_iff.mp happening
          have unhanded := (change?_taskAt occurs after).trans (congrArg some awaited)
          have fails := World.stage?_wake_of_failed present unhanded
          rw [world_succ, listed] at finished
          cases fails.symm.trans finished
  · rw [same] at finished
    exact absurd finished (unfinished _)

/-- The law of builds: what holds of them at every moment of a run. -/
structure OrderlyBuilds (run : Run) : Prop where
  /-- At most one build is in flight. -/
  single : ∀ moment first second, run.InFlight moment first → run.InFlight moment second →
    first = second
  initializing : ∀ moment, (run.world moment).analyzer.phase = .initializing ↔
    ∃ began, run.InFlight moment began
  /-- When there is a graph to answer from, it is that of the last build that ended well. -/
  ready : ∀ moment, (run.world moment).analyzer.phase = .ready →
    ∃ built last, (run.world moment).analyzer.graph = some built ∧ run.LastBuilt moment last built
  /-- A build that fails changes neither the graph nor the cache. -/
  failed : ∀ moment began failure, run.BuildEnds moment began (.error failure) →
    (run.world (moment + 1)).analyzer.graph = (run.world moment).analyzer.graph ∧
      (run.world (moment + 1)).analyzer.cache = (run.world moment).analyzer.cache ∧
      (run.world (moment + 1)).analyzer.phase = .uninitialized
  /-- After a failed build, the next query starts a build and waits for it. -/
  retried : ∀ moment began failure later call goal, run.BuildEnds moment began (.error failure) →
    moment < later → run.event? later = some (.call call) → call.goal? = some goal →
    (∀ between, moment < between → between < later → ∀ other, ¬ run.BuildBegins between other) →
    (∃ other, run.BuildBegins later other) ∧
      (run.world (later + 1)).stage? (run.taskAt later) = some (.awaiting goal)
  /-- Whoever comes while a build is in flight starts none, waits as long as it takes, and hears how it
  ended. -/
  shared : ∀ moment began call goal, run.InFlight moment began →
    run.event? moment = some (.call call) → call.joins? = some goal →
    (∀ other, ¬ run.BuildBegins moment other) ∧
      (∀ later, moment < later →
        (∀ between, moment < between → between < later →
          ∀ result, ¬ run.BuildEnds between began result) →
        (run.world later).stage? (run.taskAt moment) = some (.awaiting goal)) ∧
      ∀ last result, moment < last → run.BuildEnds last began result →
        (run.world (last + 1)).stage? (run.taskAt moment) =
          some (.woken goal (result.map fun _ => ()))
  /-- A rebuild returns with the graph of a build that began after its call. -/
  renewed : ∀ called returned call, run.event? called = some (.call call) →
    call.startsRebuild = true → call.change? = none →
    run.Returns returned (run.taskAt called) →
    ∃ built first last, (run.world (returned + 1)).analyzer.graph = some built ∧
      run.LastBuilt (returned + 1) last built ∧ called ≤ first ∧ first < last ∧
      run.BuildBegins first built.began

theorem shared_build {moment began : Nat} {call : Call} {goal : Goal}
    (flight : run.InFlight moment began) (occurs : run.event? moment = some (.call call))
    (joins : call.joins? = some goal) {later : Nat} (after : moment < later)
    (continues : ∀ between, moment < between → between < later →
      ∀ result, ¬ run.BuildEnds between began result) :
    (run.world later).stage? (run.taskAt moment) = some (.awaiting goal) := by
  obtain ⟨waits, running⟩ := joins_of_call occurs joins flight.began?
  exact (awaiting_since waits running after continues).1

/-- However calls are interleaved and builds end, builds are orderly. -/
theorem orderly_builds (run : Run) : run.OrderlyBuilds where
  single moment first second flight flight' :=
    Option.some.inj (flight.began?.symm.trans flight'.began?)
  initializing moment := by
    simp only [inFlight_iff]
    exact (run.settled moment).initializing
  ready moment ready := by
    obtain ⟨built, present⟩ := (run.settled moment).ready ready
    obtain ⟨last, lastBuilt⟩ := lastBuilt_of_graph present
    exact ⟨built, last, present, lastBuilt⟩
  failed moment began failure ends := by
    rw [ends.next.1]
    exact ⟨rfl, rfl, rfl⟩
  retried moment began failure later call goal ends after occurs wanted idle := by
    obtain ⟨phase, none⟩ := uninitialized_since ends after idle
    exact buildBegins_of_call occurs wanted (by simp [phase]) none
  shared moment began call goal flight occurs joins := by
    refine ⟨fun other begins => ?_, fun later => shared_build flight occurs joins,
      fun last result after ends => ?_⟩
    · obtain ⟨_, running⟩ := joins_of_call occurs joins flight.began?
      obtain rfl := Option.some.inj (begins.2.symm.trans running)
      exact begins.1 flight.began?
    · have waits := shared_build flight occurs joins after fun between _ below _ ends' => by
        have same := ends.moment_eq ends'
        omega
      rw [ends.next.2, waits]
      rfl
  renewed called returned call occurs starts awaited returns := by
    obtain ⟨built, present, since⟩ := returns.graphSince occurs starts awaited
    obtain ⟨last, lastBuilt⟩ := lastBuilt_of_graph present
    obtain ⟨first, before, begins, _⟩ := inFlight_of_began? lastBuilt.2.1.began?
    refine ⟨built, first, last, present, lastBuilt, ?_, before, begins⟩
    by_contra early
    have clock := (run.later (show first + 1 ≤ called by omega)).clock
    rw [← begins.clock.1] at clock
    omega

/-- A build that two callers share fails; the next caller has it tried again, and a rebuild that comes
during that build starts one more. -/
def retrying : Run :=
  let host := Host.oneText ""
  let broken : Host := { host with findFiles := fun _ _ => .error (.unavailable "offline") }
  { working := ⟨1, ["w"]⟩, capacity := 1, scoping := true
    events := [(host, .call .prepare), (host, .call (.ask .usages "a.ts" ⟨0, 0⟩)), (broken, .build),
      (broken, .build), (host, .call .prepare), (host, .call .rebuild), (host, .build),
      (host, .build), (host, .wake 3), (host, .build), (host, .build), (host, .wake 3)] }

theorem orderly_builds_retrying :
    retrying.InFlight 1 1 ∧ retrying.BuildEnds 3 1 (.error (.unavailable "offline")) ∧
      (retrying.world 4).stage? 1 =
        some (.woken (.answer .usages "a.ts" ⟨0, 0⟩) (.error (.unavailable "offline"))) ∧
      (∃ other, retrying.BuildBegins 4 other) ∧ retrying.Returns 11 3 ∧
      ∃ built first last, (retrying.world 12).analyzer.graph = some built ∧
        retrying.LastBuilt 12 last built ∧ 5 ≤ first ∧ first < last ∧
        retrying.BuildBegins first built.began := by
  have orderly := orderly_builds retrying
  have flight : retrying.InFlight 1 1 :=
    ⟨0, by decide, ⟨by decide, rfl⟩, fun between _ _ => by omega⟩
  have ends : retrying.BuildEnds 3 1 (.error (.unavailable "offline")) :=
    ⟨_, _, rfl, rfl, rfl, rfl⟩
  have returns : retrying.Returns 11 3 := by
    refine ⟨fun result present => ?_, none, rfl⟩
    cases present
  have shared := orderly.shared 1 1 (.ask .usages "a.ts" ⟨0, 0⟩) _ flight rfl rfl
  have retried := orderly.retried 3 1 _ 4 .prepare .prepared ends (by decide) rfl rfl
    fun between _ _ => by omega
  exact ⟨flight, ends, shared.2.2 3 _ (by decide) ends, retried.1, returns,
    orderly.renewed 5 11 .rebuild rfl rfl rfl returns⟩

end Run

end ModuleScope
