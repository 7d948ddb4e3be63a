import Mathlib
import ModuleScope.Analyzer.World
import ModuleScope.Proofs.AnalyzerSteps

/-!
What a task may do between two waits, as a relation: one case for each way in which it can go on.
Every event of a world is then nothing at all, progress of the build in flight, its end, or one such
advance of one task.
-/
namespace ModuleScope

namespace Call

def startsRebuild : Call → Bool
  | .rebuild => true
  | .change file => isModuleFile file
  | .apply handed => isModuleFile handed.path
  | _ => false

def invalidated? : Call → Option String
  | .invalidate file => some file
  | .change file => if isModuleFile file then none else some file
  | .apply handed => if isModuleFile handed.path then none else some handed.path
  | _ => none

def goal? : Call → Option Goal
  | .prepare => some .prepared
  | .ask kind file position => some (.answer kind file position)
  | _ => none

theorem invalidated?_eq_none {call : Call} (starts : call.startsRebuild = true) :
    call.invalidated? = none := by
  cases call <;> simp_all [startsRebuild, invalidated?]

theorem goal?_eq_none {call : Call} (acts : call.startsRebuild = true ∨ call.invalidated?.isSome) :
    call.goal? = none := by
  cases call <;> simp_all [startsRebuild, invalidated?, goal?]

end Call

/-- What sets a task in motion: its call, or the end of the wait that it is in. -/
inductive Origin where
  | called (call : Call)
  | resumed (stage : Stage)

namespace Analyzer

def queryFor (analyzer : Analyzer) (kind : QueryKind) (file : String) (position : Position) : Query :=
  ⟨kind, analyzer.normalize file, position⟩

inductive Reaches (analyzer : Analyzer) : Origin → Goal → Prop
  | atOnce {call : Call} {goal : Goal} (wanted : call.goal? = some goal)
      (ready : analyzer.phase = .ready) : Reaches analyzer (.called call) goal
  | afterBuild {goal : Goal} : Reaches analyzer (.resumed (.woken goal (.ok ()))) goal

/-- A task goes on with the second part of its query: it has just located its symbol and takes the
graph of the moment, or has taken one before. -/
inductive Searches (before : Analyzer) : Origin → Ticket → Prop
  | first {ticket : Ticket} {work : Work Located} :
      Searches before (.resumed (.locating ticket work)) (before.seeGraph ticket)
  | further {ticket : Ticket} {work : Work Answer} :
      Searches before (.resumed (.answering ticket work)) ticket

inductive Answers (before : Analyzer) (ticket : Ticket) : Analyzer → Stage → Prop
  | waits (work : Work Answer) : Answers before ticket before (.answering ticket work)
  | fails {result : Except Failure (Option SourcedAnswer)}
      (nothing : ∀ found, result ≠ .ok (some found)) :
      Answers before ticket before (.finished result)
  | ends (answer : Answer) :
      Answers before ticket (before.store ticket answer)
        (.finished (.ok (some (ticket.sourced answer))))

/-- How a task goes on until its next wait: the shared state and the stage it leaves. -/
inductive Advance (before : Analyzer) : Origin → Analyzer → Stage → Prop
  | prepared {origin : Origin} (reached : before.Reaches origin .prepared) :
      Advance before origin before (.finished (.ok none))
  | waits {call : Call} {goal : Goal} (wanted : call.goal? = some goal)
      (unready : before.phase ≠ .ready) :
      Advance before (.called call) before.ensureBuild (.awaiting goal)
  | hits {origin : Origin} {kind : QueryKind} {file : String} {position : Position}
      {kept : SourcedAnswer} (reached : before.Reaches origin (.answer kind file position))
      (found : before.cache.peek? (before.queryFor kind file position).key = some kept) :
      Advance before origin (before.lookUp (before.queryFor kind file position)).1
        (.finished (.ok (some kept)))
  | reads {origin : Origin} {kind : QueryKind} {file : String} {position : Position}
      (reached : before.Reaches origin (.answer kind file position))
      (missed : before.cache.peek? (before.queryFor kind file position).key = none) :
      Advance before origin before.tick
        (.locating (before.ticketFor (before.queryFor kind file position))
          (before.queryFor kind file position).locate)
  | locates {ticket : Ticket} {work : Work Located} (rest : Work Located) :
      Advance before (.resumed (.locating ticket work)) before (.locating ticket rest)
  | locatingFails {ticket : Ticket} {work : Work Located}
      {result : Except Failure (Option SourcedAnswer)}
      (nothing : ∀ found, result ≠ .ok (some found)) :
      Advance before (.resumed (.locating ticket work)) before (.finished result)
  | searches {origin : Origin} {ticket : Ticket} {after : Analyzer} {stage : Stage}
      (searches : before.Searches origin ticket) (answers : before.Answers ticket after stage) :
      Advance before origin after stage
  | raises {goal : Goal} {failure : Failure} {result : Except Failure (Option SourcedAnswer)}
      (nothing : ∀ found, result ≠ .ok (some found)) :
      Advance before (.resumed (.woken goal (.error failure))) before (.finished result)
  | rebuildWaits {call : Call} {build : Build} (starts : call.startsRebuild = true)
      (running : before.build = some build) :
      Advance before (.called call) before.forget (.awaiting .olderBuild)
  | rebuildBuilds {call : Call} (starts : call.startsRebuild = true) (idle : before.build = none) :
      Advance before (.called call) before.forget.ensureBuild (.awaiting .ownBuild)
  | ownBuilds :
      Advance before (.resumed (.woken .olderBuild (.ok ()))) before.ensureBuild (.awaiting .ownBuild)
  | rebuilt :
      Advance before (.resumed (.woken .ownBuild (.ok ()))) before.forget (.finished (.ok none))
  | invalidates {call : Call} {file : String} (dropped : call.invalidated? = some file) :
      Advance before (.called call) (before.invalidate file).1 (.finished (.ok none))

namespace Advance

variable {before after : Analyzer} {origin : Origin}

theorem reported {failure : Failure}
    (advance : Advance before origin after (.finished (.error failure))) :
    Advance before origin after (.finished (.ok none)) := by
  -- Whatever can end with a failure may as well end without an answer.
  cases advance with
  | locatingFails => exact .locatingFails (by simp)
  | searches searches answers =>
    cases answers
    exact .searches searches (.fails (by simp))
  | raises => exact .raises (by simp)

theorem reporting {move : Move} (change : Option Change)
    (advance : Advance before origin move.analyzer move.stage) :
    Advance before origin (move.reporting change).analyzer (move.reporting change).stage := by
  unfold Move.reporting
  split
  · next failed =>
      rw [failed] at advance
      exact advance.reported
  · exact advance

end Advance

theorem Answers.onward {before after : Analyzer} {ticket : Ticket} {stage : Stage}
    (answers : before.Answers ticket after stage) : before.Onward after := by
  cases answers with
  | waits => exact .refl before
  | fails => exact .refl before
  | ends answer => exact store_onward before ticket answer

theorem conclude_answers (before : Analyzer) (ticket : Ticket) (result : Except Failure Answer) :
    before.Answers ticket (before.conclude ticket result).analyzer
      (before.conclude ticket result).stage := by
  cases result with
  | ok answer => exact .ends answer
  | error failure => exact .fails (by simp)

theorem goOnAnswering_answers (before : Analyzer) (ticket : Ticket) (work : Work Answer)
    (notices : List Notice) :
    before.Answers ticket (before.goOnAnswering ticket work notices).analyzer
      (before.goOnAnswering ticket work notices).stage := by
  cases work with
  | finished result => exact conclude_answers before ticket result
  | opening path next => exact .waits _
  | listing patterns base next => exact .waits _
  | noting notice next => exact .waits _

theorem goOnLocating_advance (before : Analyzer) (ticket : Ticket) (work rest : Work Located)
    (notices : List Notice) :
    Advance before (.resumed (.locating ticket work))
      (before.goOnLocating ticket rest notices).analyzer
      (before.goOnLocating ticket rest notices).stage := by
  cases rest with
  | finished result =>
    cases result with
    | ok located => exact .searches .first (goOnAnswering_answers _ _ _ _)
    | error failure => exact .locatingFails (by simp)
  | opening path next => exact .locates _
  | listing patterns base next => exact .locates _
  | noting notice next => exact .locates _

theorem beginQuery_advance {before : Analyzer} {origin : Origin} {kind : QueryKind} {file : String}
    {position : Position} (reached : before.Reaches origin (.answer kind file position)) :
    Advance before origin (before.beginQuery kind file position).analyzer
      (before.beginQuery kind file position).stage := by
  cases found : before.cache.peek? (before.queryFor kind file position).key with
  | some kept =>
    have looked := lookUp_hit found
    have advance := Advance.hits reached found
    rw [queryFor] at looked
    rw [queryFor, looked] at advance
    rw [beginQuery, looked]
    exact advance
  | none =>
    -- What it will find is not known yet: its document is opened at the next event.
    have looked := lookUp_miss found
    rw [queryFor] at looked
    rw [beginQuery, looked]
    exact .reads reached found

theorem goOn_advance (before : Analyzer) (goal : Goal) (outcome : Except Failure Unit) :
    Advance before (.resumed (.woken goal outcome)) (before.goOn goal outcome).analyzer
      (before.goOn goal outcome).stage := by
  cases outcome with
  | error failure => exact .raises (by simp)
  | ok _ =>
    cases goal with
    | prepared => exact .prepared .afterBuild
    | answer kind file position => exact beginQuery_advance .afterBuild
    | olderBuild => exact .ownBuilds
    | ownBuild => exact .rebuilt

theorem whenReady_advance (before : Analyzer) {call : Call} {goal : Goal}
    (wanted : call.goal? = some goal) :
    Advance before (.called call) (before.whenReady goal).analyzer (before.whenReady goal).stage := by
  unfold whenReady
  by_cases ready : before.phase = .ready
  · rw [if_pos (by simp [ready])]
    cases call with
    | prepare =>
      cases wanted
      exact .prepared (.atOnce rfl ready)
    | ask kind file position =>
      cases wanted
      exact beginQuery_advance (.atOnce rfl ready)
    | rebuild | invalidate | change | apply => cases wanted
  · rw [if_neg (by simp [ready])]
    exact .waits wanted ready

theorem beginRebuild_advance (before : Analyzer) {call : Call}
    (starts : call.startsRebuild = true) :
    Advance before (.called call) before.beginRebuild.analyzer before.beginRebuild.stage := by
  have kept : before.forget.build = before.build := rfl
  unfold beginRebuild
  cases running : before.build with
  | some build =>
    simp only [kept, running]
    exact .rebuildWaits starts running
  | none =>
    simp only [kept, running]
    exact .rebuildBuilds starts running

theorem beginChange_advance (before : Analyzer) {call : Call} {file : String}
    (starts : call.startsRebuild = isModuleFile file)
    (dropped : call.invalidated? = if isModuleFile file then none else some file) :
    Advance before (.called call) (before.beginChange file).analyzer
      (before.beginChange file).stage := by
  unfold beginChange
  cases isModule : isModuleFile file with
  | true => exact beginRebuild_advance before (starts.trans isModule)
  | false => exact .invalidates (by rw [dropped, isModule]; rfl)

theorem begin_advance (before : Analyzer) (call : Call) :
    Advance before (.called call) (before.begin call).analyzer (before.begin call).stage := by
  cases call with
  | prepare => exact whenReady_advance before rfl
  | rebuild => exact beginRebuild_advance before rfl
  | invalidate file => exact .invalidates rfl
  | change file => exact beginChange_advance before rfl rfl
  | ask kind file position => exact whenReady_advance before rfl
  | apply handed => exact beginChange_advance before rfl rfl

namespace Advance

variable {before after : Analyzer} {origin : Origin} {stage : Stage}

theorem onward (advance : Advance before origin after stage) : before.Onward after := by
  cases advance with
  | prepared => exact .refl before
  | waits => exact ensureBuild_onward before
  | hits => exact lookUp_onward before _
  | reads => exact tick_onward before
  | locates => exact .refl before
  | locatingFails => exact .refl before
  | searches searches answers => exact answers.onward
  | raises => exact .refl before
  | rebuildWaits => exact forget_onward before
  | rebuildBuilds => exact (forget_onward before).trans (ensureBuild_onward _)
  | ownBuilds => exact ensureBuild_onward before
  | rebuilt => exact forget_onward before
  | invalidates => exact invalidate_onward before _

theorem called_cases {call : Call} (unwanted : call.goal? = none)
    (advance : Advance before (.called call) after stage) :
    call.startsRebuild = true ∧ stage = .awaiting .olderBuild ∧ after = before.forget ∨
      call.startsRebuild = true ∧ before.build = none ∧ stage = .awaiting .ownBuild ∧
        after = before.forget.ensureBuild ∨
      ∃ file, call.invalidated? = some file ∧ after = (before.invalidate file).1 := by
  cases advance with
  | prepared reached | hits reached hit | reads reached missed =>
    cases reached with
    | atOnce wanted ready => simp [unwanted] at wanted
  | waits wanted unready => simp [unwanted] at wanted
  | searches searches answers => cases searches
  | rebuildWaits starts running => exact Or.inl ⟨starts, rfl, rfl⟩
  | rebuildBuilds starts idle => exact Or.inr (Or.inl ⟨starts, idle, rfl, rfl⟩)
  | invalidates dropped => exact Or.inr (Or.inr ⟨_, dropped, rfl⟩)

theorem locating_cases {ticket : Ticket} {work : Work Located}
    (advance : Advance before origin after (.locating ticket work)) :
    (∃ kind file position, before.Reaches origin (.answer kind file position) ∧
        (before.lookUp ticket.query).2 = .inr ticket ∧ work = ticket.query.locate) ∨
      ∃ earlier, origin = .resumed (.locating ticket earlier) := by
  cases advance with
  | reads reached missed =>
    refine Or.inl ⟨_, _, _, reached, ?_, rfl⟩
    rw [ticketFor, lookUp_miss missed]
    rfl
  | @locates _ earlier rest => exact Or.inr ⟨earlier, rfl⟩
  | searches searches answers => cases answers

theorem answering_cases {ticket : Ticket} {work : Work Answer}
    (advance : Advance before origin after (.answering ticket work)) :
    before.Searches origin ticket := by
  cases advance with
  | searches searches answers =>
    cases answers
    exact searches

theorem not_woken {goal : Goal} {outcome : Except Failure Unit}
    (advance : Advance before origin after (.woken goal outcome)) : False := by
  cases advance with
  | searches searches answers => cases answers

theorem found_cases {found : SourcedAnswer}
    (advance : Advance before origin after (.finished (.ok (some found)))) :
    (∃ query : Query, before.cache.peek? query.key = some found) ∨
      ∃ ticket answer, before.Searches origin ticket ∧ found = ticket.sourced answer := by
  cases advance with
  | hits reached hit => exact Or.inl ⟨_, hit⟩
  | locatingFails nothing => exact absurd rfl (nothing found)
  | @searches _ ticket _ _ searches answers =>
    cases answers with
    | fails nothing => exact absurd rfl (nothing found)
    | ends answer => exact Or.inr ⟨ticket, answer, searches, rfl⟩
  | raises nothing => exact absurd rfl (nothing found)

/-- An entry of the cache was there before, or it is the answer of a search that read the generation
as it still is. -/
theorem mem_cache_cases {entry : String × SourcedAnswer}
    (advance : Advance before origin after stage) (member : entry ∈ after.cache.entries) :
    entry ∈ before.cache.entries ∨
      ∃ ticket answer, before.Searches origin ticket ∧ ticket.generation = before.generation ∧
        stage = .finished (.ok (some (ticket.sourced answer))) ∧
        entry = (ticket.query.key, ticket.sourced answer) := by
  have emptied {state : Analyzer} : entry ∉ state.forget.cache.entries := Cache.not_mem_clear
  cases advance with
  | prepared | locates | locatingFails | raises => exact Or.inl member
  | waits | ownBuilds => exact Or.inl (by rwa [ensureBuild_cache] at member)
  | hits reached hit =>
    rw [lookUp_hit hit] at member
    exact Or.inl (Cache.mem_of_mem_get member)
  | reads => exact Or.inl member
  | @searches _ ticket _ _ searches answers =>
    cases answers with
    | waits | fails => exact Or.inl member
    | ends answer =>
      rcases mem_of_mem_store member with ⟨rfl, same⟩ | earlier
      · exact Or.inr ⟨ticket, answer, searches, same, rfl, rfl⟩
      · exact Or.inl earlier
  | rebuildWaits | rebuilt => exact absurd member emptied
  | rebuildBuilds => exact absurd (by rwa [ensureBuild_cache] at member) emptied
  | invalidates =>
    exact Or.inl (Cache.mem_invalidate.mp (Cache.mem_invalidate.mp member).1).1

end Advance

end Analyzer

def Event.task? : Event → Option Nat
  | .work index => some index
  | .wake index => some index
  | _ => none

namespace Stage

def resumedBy (stage : Stage) (index : Nat) : Option Event :=
  match stage with
  | .woken _ _ => some (.wake index)
  | .locating _ _ => some (.work index)
  | .answering _ _ => some (.work index)
  | .awaiting _ => none
  | .finished _ => none

theorem task?_of_resumedBy {stage : Stage} {index : Nat} {event : Event}
    (due : stage.resumedBy index = some event) : event.task? = some index := by
  cases stage <;> cases due <;> rfl

def heard (outcome : Except Failure Unit) : Stage → Stage
  | .awaiting goal => .woken goal outcome
  | stage => stage

end Stage

namespace World

def stage? (world : World) (index : Nat) : Option Stage := world.tasks[index]?.map Task.stage

def Due (world : World) : Event → Prop
  | .call _ => True
  | .build => ∃ build, world.analyzer.build = some build
  | .work index => ∃ stage, world.stage? index = some stage ∧
      stage.resumedBy index = some (.work index)
  | .wake index => ∃ stage, world.stage? index = some stage ∧
      stage.resumedBy index = some (.wake index)

inductive Moves (world : World) (index : Nat) : Event → Origin → Prop
  | calls (call : Call) (new : index = world.tasks.length) :
      Moves world index (.call call) (.called call)
  | resumes {stage : Stage} {event : Event} (present : world.stage? index = some stage)
      (due : stage.resumedBy index = some event) : Moves world index event (.resumed stage)

/-- What an event does to a world if it is due: one task advances, or the build in flight does, or the
build ends and all tasks that wait for it hear of it. -/
inductive Happens (world : World) (event : Event) (after : World) : Prop
  | advanced {index : Nat} {origin : Origin} {stage : Stage} (moves : world.Moves index event origin)
      (advance : world.analyzer.Advance origin after.analyzer stage)
      (here : after.stage? index = some stage)
      (elsewhere : ∀ other, other ≠ index → after.stage? other = world.stage? other)
  | built {build : Build} (running : world.analyzer.build = some build) (rest : Work ModuleGraph)
      (same : event = .build)
      (state : after.analyzer = { world.analyzer with build := some { build with work := rest } })
      (stages : ∀ index, after.stage? index = world.stage? index)
  | ended {build : Build} (running : world.analyzer.build = some build)
      (result : Except Failure ModuleGraph) (same : event = .build)
      (state : after.analyzer = (world.analyzer.finishBuild build.began result).1)
      (stages : ∀ index,
        after.stage? index = (world.stage? index).map (Stage.heard (result.map fun _ => ())))

theorem stage?_hear (world : World) (outcome : Except Failure Unit) (index : Nat) :
    (world.tasks.map (hear outcome))[index]?.map Task.stage =
      (world.stage? index).map (Stage.heard outcome) := by
  rw [stage?, List.getElem?_map, Option.map_map, Option.map_map]
  congr 1
  funext task
  rcases task with ⟨change, stage⟩
  cases stage <;> rfl

theorem called_happens (world : World) (call : Call) : world.Happens (.call call) (world.call call) := by
  refine .advanced (.calls call rfl) ((Analyzer.begin_advance _ call).reporting call.change?) ?_ ?_
  · simp [World.call, stage?]
  · intro other different
    rcases Nat.lt_or_ge other world.tasks.length with bound | beyond
    · rw [stage?, stage?, World.call, List.getElem?_append_left bound]
    · have past : world.tasks.length < other := by omega
      simp [World.call, stage?, beyond, past]

theorem apply_happens {world : World} {index : Nat} {task : Task} {event : Event} {move : Move}
    (present : world.tasks[index]? = some task) (due : task.stage.resumedBy index = some event)
    (advance : world.analyzer.Advance (.resumed task.stage) move.analyzer move.stage) :
    world.Happens event (world.apply index task move) := by
  obtain ⟨bound, _⟩ := List.getElem?_eq_some_iff.mp present
  refine .advanced (.resumes (by rw [stage?, present]; rfl) due) (advance.reporting task.change) ?_ ?_
  · simp [World.apply, stage?, bound]
  · intro other different
    simp [World.apply, stage?, List.getElem?_set_ne different.symm]

theorem build_happens {world : World} {running : Build}
    (present : world.analyzer.build = some running) (pace : Pace) :
    world.Happens .build (world.build pace) := by
  unfold build
  rw [present]
  dsimp only
  generalize (pace.1 running.work).1 = rest
  cases rest with
  | finished result => exact .ended present result rfl rfl (stage?_hear world _)
  | opening path next => exact .built present _ rfl rfl fun _ => rfl
  | listing patterns base next => exact .built present _ rfl rfl fun _ => rfl
  | noting notice next => exact .built present _ rfl rfl fun _ => rfl

theorem work_cases (world : World) (pace : Pace) (index : Nat) :
    world.Happens (.work index) (world.work pace index) ∨
      world.work pace index = world ∧ ¬ world.Due (.work index) := by
  unfold work
  cases present : world.tasks[index]? with
  | none => exact Or.inr ⟨rfl, by simp [Due, stage?, present]⟩
  | some task =>
    rcases task with ⟨change, stage⟩
    cases stage with
    | awaiting | woken | finished =>
      exact Or.inr ⟨rfl, by simp [Due, stage?, present, Stage.resumedBy]⟩
    | locating ticket work =>
      exact Or.inl (apply_happens present rfl (Analyzer.goOnLocating_advance _ ticket work _ _))
    | answering ticket work =>
      exact Or.inl (apply_happens present rfl (.searches .further (Analyzer.goOnAnswering_answers _ _ _ _)))

theorem wake_cases (world : World) (index : Nat) :
    world.Happens (.wake index) (world.wake index) ∨
      world.wake index = world ∧ ¬ world.Due (.wake index) := by
  unfold wake
  cases present : world.tasks[index]? with
  | none => exact Or.inr ⟨rfl, by simp [Due, stage?, present]⟩
  | some task =>
    rcases task with ⟨change, stage⟩
    cases stage with
    | awaiting | locating | answering | finished =>
      exact Or.inr ⟨rfl, by simp [Due, stage?, present, Stage.resumedBy]⟩
    | woken goal outcome =>
      exact Or.inl (apply_happens present rfl (Analyzer.goOn_advance _ goal outcome))

/-- An event that is due happens, and any other changes nothing. -/
theorem step_cases (host : Host) (world : World) (event : Event) :
    world.Happens event (world.step host event) ∨
      world.step host event = world ∧ ¬ world.Due event := by
  cases event with
  | call call => exact Or.inl (called_happens world call)
  | build =>
    cases running : world.analyzer.build with
    | none => exact Or.inr ⟨by simp [step, build, running], by simp [Due, running]⟩
    | some _ => exact Or.inl (build_happens running (.single host))
  | work index => exact work_cases world (.single host) index
  | wake index => exact wake_cases world index

variable {world after : World} {event : Event}

/-- An event leaves the graph and the build as they are, or starts a build, or ends the one in
flight. -/
theorem Happens.analyzer_cases (happens : world.Happens event after) :
    world.analyzer.Onward after.analyzer ∨
      ∃ build result, world.analyzer.build = some build ∧
        after.analyzer = (world.analyzer.finishBuild build.began result).1 := by
  cases happens with
  | advanced moves advance here elsewhere => exact Or.inl advance.onward
  | built running rest same state stages => exact Or.inl (state ▸ Analyzer.built_onward running rest)
  | ended running result same state stages => exact Or.inr ⟨_, result, running, state⟩

theorem Happens.later (happens : world.Happens event after) :
    world.analyzer.Later after.analyzer := by
  rcases happens.analyzer_cases with onward | ⟨build, result, _, state⟩
  · exact onward.toLater
  · rw [state]
    exact Analyzer.finishBuild_later _ _ _

/-- How a task has come to its stage: it is still in it, or the build it waited for has ended, or it
has advanced. -/
theorem Happens.stage_cases (happens : world.Happens event after) {index : Nat} {stage : Stage}
    (now : after.stage? index = some stage) :
    world.stage? index = some stage ∨
      (∃ goal build result, stage = .woken goal (result.map fun _ => ()) ∧
        world.stage? index = some (.awaiting goal) ∧ world.analyzer.build = some build ∧
        after.analyzer = (world.analyzer.finishBuild build.began result).1) ∨
      ∃ origin, world.Moves index event origin ∧
        world.analyzer.Advance origin after.analyzer stage := by
  cases happens with
  | @advanced moved origin reached moves advance here elsewhere =>
    by_cases acting : index = moved
    · subst acting
      obtain rfl := Option.some.inj (here.symm.trans now)
      exact Or.inr (Or.inr ⟨origin, moves, advance⟩)
    · exact Or.inl ((elsewhere index acting).symm.trans now)
  | built running rest same state stages => exact Or.inl ((stages index).symm.trans now)
  | ended running result same state stages =>
    -- Of all tasks, only those that wait for the build change their stage.
    rw [stages index] at now
    obtain ⟨earlier, present, rfl⟩ := Option.map_eq_some_iff.mp now
    cases earlier with
    | awaiting goal => exact Or.inr (Or.inl ⟨goal, _, result, rfl, present, running, state⟩)
    | woken | locating | answering | finished => exact Or.inl present

theorem Happens.of_resumed (happens : world.Happens event after) {index : Nat} {stage : Stage}
    (present : world.stage? index = some stage) (due : stage.resumedBy index = some event) :
    ∃ next, world.analyzer.Advance (.resumed stage) after.analyzer next ∧
      after.stage? index = some next := by
  have acting := Stage.task?_of_resumedBy due
  cases happens with
  | @advanced moved _ _ moves advance here elsewhere =>
    cases moves with
    | calls call new => cases acting
    | resumes held awaited =>
      obtain rfl := Option.some.inj ((Stage.task?_of_resumedBy awaited).symm.trans acting)
      obtain rfl := Option.some.inj (held.symm.trans present)
      exact ⟨_, advance, here⟩
  | built _ _ same =>
    subst same
    cases acting
  | ended _ _ same =>
    subst same
    cases acting

theorem Happens.of_called {call : Call} (happens : world.Happens (.call call) after) :
    ∃ stage, world.analyzer.Advance (.called call) after.analyzer stage ∧
      after.stage? world.tasks.length = some stage := by
  cases happens with
  | advanced moves advance here elsewhere =>
    cases moves with
    | calls _ new => exact ⟨_, advance, new ▸ here⟩
    | @resumes stage _ present due => cases stage <;> cases due
  | built _ _ same => cases same
  | ended _ _ same => cases same

theorem stage?_eq_none_iff {index : Nat} :
    world.stage? index = none ↔ world.tasks.length ≤ index := by
  simp [stage?]

theorem stage?_isSome_iff {index : Nat} :
    (world.stage? index).isSome ↔ index < world.tasks.length := by
  simp [stage?]

theorem Happens.stage?_isSome (happens : world.Happens event after) {index : Nat}
    (present : (world.stage? index).isSome) : (after.stage? index).isSome := by
  cases happens with
  | @advanced moved origin reached moves advance here elsewhere =>
    by_cases acting : index = moved
    · rw [acting, here]
      rfl
    · rwa [elsewhere index acting]
  | built running rest same state stages => rwa [stages index]
  | ended running result same state stages => simpa [stages index] using present

end World

end ModuleScope
