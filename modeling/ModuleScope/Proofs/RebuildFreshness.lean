import Mathlib
import ModuleScope.Proofs.KeptAnswers

/-!
What a rebuild guarantees to later queries. Once it has ended, no graph can come to be used whose build
began before the rebuild. Answers from such a graph are gone if the rebuild has succeeded; if it has
failed, a query that was called before its end may have kept one.
-/
namespace ModuleScope

namespace Analyzer

def BuildSince (clock : Nat) (analyzer : Analyzer) : Prop :=
  ∀ began, analyzer.began? = some began → clock < began

def GraphSince (clock : Nat) (analyzer : Analyzer) : Prop :=
  ∃ built, analyzer.graph = some built ∧ clock < built.began

/-- Only a graph whose build began after a moment of the clock can come to be used. -/
structure Renewed (clock : Nat) (analyzer : Analyzer) : Prop where
  passed : clock ≤ analyzer.clock
  build : analyzer.BuildSince clock
  ready : analyzer.phase = .ready → analyzer.GraphSince clock

variable {clock : Nat} {before after : Analyzer}

theorem BuildSince.onward (since : before.BuildSince clock) (passed : clock ≤ before.clock)
    (onward : before.Onward after) : after.BuildSince clock := by
  intro began running
  rcases onward.build with ⟨same, _⟩ | ⟨new, started, later, _⟩
  · exact since began (same.symm.trans running)
  · obtain rfl := Option.some.inj (started.symm.trans running)
    omega

theorem GraphSince.onward (since : before.GraphSince clock) (onward : before.Onward after) :
    after.GraphSince clock := by
  obtain ⟨built, present, later⟩ := since
  exact ⟨built, onward.graph.trans present, later⟩

theorem Renewed.onward (renewed : before.Renewed clock) (onward : before.Onward after) :
    after.Renewed clock where
  passed := renewed.passed.trans onward.clock
  build := renewed.build.onward renewed.passed onward
  ready ready := by
    rcases onward.build with ⟨_, phase⟩ | ⟨_, _, _, phase⟩
    · exact (renewed.ready (phase.symm.trans ready)).onward onward
    · rw [phase] at ready
      cases ready

theorem finishBuild_buildSince (before : Analyzer) (began : Nat)
    (result : Except Failure ModuleGraph) :
    (before.finishBuild began result).1.BuildSince clock := by
  intro other running
  cases result <;> cases running

theorem finishBuild_graphSince {began : Nat} (later : clock < began) (graph : ModuleGraph) :
    (before.finishBuild began (.ok graph)).1.GraphSince clock :=
  ⟨⟨graph, began⟩, rfl, later⟩

theorem GraphSince.finishBuild (since : before.GraphSince clock) {began : Nat}
    (later : clock < began) (result : Except Failure ModuleGraph) :
    (before.finishBuild began result).1.GraphSince clock := by
  cases result with
  | ok graph => exact finishBuild_graphSince later graph
  | error failure => exact since

theorem finishBuild_renewed (passed : clock ≤ before.clock) {began : Nat} (later : clock < began)
    (result : Except Failure ModuleGraph) :
    (before.finishBuild began result).1.Renewed clock where
  passed := passed.trans (finishBuild_later before began result).clock
  build := finishBuild_buildSince before began result
  ready ready := by
    cases result with
    | ok graph => exact finishBuild_graphSince later graph
    | error failure => cases ready

/-- A build that fails leaves no graph to be used, however old it was. -/
theorem finishBuild_failed_renewed (passed : clock ≤ before.clock) (began : Nat) (failure : Failure) :
    (before.finishBuild began (.error failure)).1.Renewed clock where
  passed := passed
  build := finishBuild_buildSince before began (.error failure)
  ready ready := by cases ready

/-- What holds of the shared state while a rebuild that began at a moment of the clock is in a stage:
the build it finds in flight may be older, and whatever follows is newer than the rebuild. -/
inductive RebuildAt (clock : Nat) (analyzer : Analyzer) : Stage → Prop
  | waitsForOlder : RebuildAt clock analyzer (.awaiting .olderBuild)
  | waitsForOwn {began : Nat} (running : analyzer.began? = some began) (later : clock < began) :
      RebuildAt clock analyzer (.awaiting .ownBuild)
  | olderEnded (build : analyzer.BuildSince clock) :
      RebuildAt clock analyzer (.woken .olderBuild (.ok ()))
  | ownEnded (build : analyzer.BuildSince clock) (graph : analyzer.GraphSince clock) :
      RebuildAt clock analyzer (.woken .ownBuild (.ok ()))
  | failed {goal : Goal} {failure : Failure} (renewed : analyzer.Renewed clock) :
      RebuildAt clock analyzer (.woken goal (.error failure))
  | ended {result : Except Failure (Option SourcedAnswer)} (renewed : analyzer.Renewed clock) :
      RebuildAt clock analyzer (.finished result)

namespace RebuildAt

variable {stage next : Stage}

theorem onward (held : before.RebuildAt clock stage) (passed : clock ≤ before.clock)
    (onward : before.Onward after) : after.RebuildAt clock stage := by
  cases held with
  | waitsForOlder => exact .waitsForOlder
  | waitsForOwn running later =>
    rcases onward.build with ⟨same, _⟩ | ⟨new, started, since, _⟩
    · exact .waitsForOwn (same.trans running) later
    · exact .waitsForOwn started (by omega)
  | olderEnded build => exact .olderEnded (build.onward passed onward)
  | ownEnded build graph => exact .ownEnded (build.onward passed onward) (graph.onward onward)
  | failed renewed => exact .failed (renewed.onward onward)
  | ended renewed => exact .ended (renewed.onward onward)

/-- The end of a build: the rebuild's own is newer than the rebuild, and after any other none is in
flight. -/
theorem heard (held : before.RebuildAt clock stage) (passed : clock ≤ before.clock)
    {build : Build} (running : before.build = some build) (result : Except Failure ModuleGraph) :
    (before.finishBuild build.began result).1.RebuildAt clock
      (stage.heard (result.map fun _ => ())) := by
  have began := began?_of_build running
  have idle : (before.finishBuild build.began result).1.BuildSince clock :=
    finishBuild_buildSince before build.began result
  cases held with
  | waitsForOlder =>
    cases result with
    | ok graph => exact .olderEnded idle
    | error failure => exact .failed (finishBuild_failed_renewed passed _ failure)
  | waitsForOwn own later =>
    obtain rfl := Option.some.inj (own.symm.trans began)
    cases result with
    | ok graph => exact .ownEnded idle (finishBuild_graphSince later graph)
    | error failure => exact .failed (finishBuild_failed_renewed passed _ failure)
  | olderEnded since => exact .olderEnded idle
  | ownEnded since graph => exact .ownEnded idle (graph.finishBuild (since _ began) result)
  | failed renewed => exact .failed (finishBuild_renewed passed (renewed.build _ began) result)
  | ended renewed => exact .ended (finishBuild_renewed passed (renewed.build _ began) result)

theorem advance (held : before.RebuildAt clock stage) (passed : clock ≤ before.clock)
    (advance : Advance before (.resumed stage) after next) : after.RebuildAt clock next := by
  have onward := advance.onward
  -- A rebuild waits for builds only, so it is in none of the stages of a query.
  cases advance with
  | prepared reached | hits reached hit | reads reached missed => cases reached; cases held
  | locates | locatingFails => cases held
  | searches searches answers => cases searches <;> cases held
  | raises nothing =>
    cases held with
    | failed renewed => exact .ended renewed
  | ownBuilds =>
    cases held with
    | olderEnded build =>
      have since := build.onward passed onward
      obtain ⟨began, running⟩ := ensureBuild_began? before
      exact .waitsForOwn running (since began running)
  | rebuilt =>
    cases held with
    | ownEnded build graph =>
      exact .ended ⟨passed.trans onward.clock, build.onward passed onward,
        fun _ => graph.onward onward⟩

theorem ends (held : before.RebuildAt clock stage) {result : Except Failure (Option SourcedAnswer)}
    (advance : Advance before (.resumed stage) after (.finished result)) :
    stage = .woken .ownBuild (.ok ()) ∨ ∃ goal failure, stage = .woken goal (.error failure) := by
  cases advance with
  | prepared reached | hits reached hit => cases reached; cases held
  | locatingFails => cases held
  | searches searches answers => cases searches <;> cases held
  | raises nothing => exact Or.inr ⟨_, _, rfl⟩
  | rebuilt => exact Or.inl rfl

theorem of_called {call : Call} (starts : call.startsRebuild = true)
    (advance : Advance before (.called call) after stage) :
    (∃ goal, stage = .awaiting goal) ∧ after.RebuildAt before.clock stage := by
  rcases advance.called_cases (Call.goal?_eq_none (Or.inl starts)) with
    ⟨_, rfl, rfl⟩ | ⟨_, idle, rfl, rfl⟩ | ⟨file, dropped, _⟩
  · exact ⟨⟨_, rfl⟩, .waitsForOlder⟩
  · obtain ⟨began, running⟩ := ensureBuild_began? before.forget
    have none : before.forget.BuildSince before.clock := by
      intro other running
      simp [began?, forget, tick, idle] at running
    have since := none.onward (forget_onward before).clock (ensureBuild_onward before.forget)
    exact ⟨⟨_, rfl⟩, .waitsForOwn running (since began running)⟩
  · simp [Call.invalidated?_eq_none starts] at dropped

end RebuildAt

end Analyzer

namespace World

variable {world after : World} {event : Event} {clock : Nat}

theorem Happens.renewed (happens : world.Happens event after)
    (renewed : world.analyzer.Renewed clock) : after.analyzer.Renewed clock := by
  rcases happens.analyzer_cases with onward | ⟨build, result, running, state⟩
  · exact renewed.onward onward
  · rw [state]
    exact Analyzer.finishBuild_renewed renewed.passed
      (renewed.build _ (Analyzer.began?_of_build running)) result

theorem Happens.graphSince (happens : world.Happens event after)
    (renewed : world.analyzer.Renewed clock) (graph : world.analyzer.GraphSince clock) :
    after.analyzer.GraphSince clock := by
  rcases happens.analyzer_cases with onward | ⟨build, result, running, state⟩
  · exact graph.onward onward
  · rw [state]
    exact graph.finishBuild (renewed.build _ (Analyzer.began?_of_build running)) result

theorem Happens.rebuildAt (happens : world.Happens event after) {index : Nat} {stage : Stage}
    (present : world.stage? index = some stage) (held : world.analyzer.RebuildAt clock stage)
    (passed : clock ≤ world.analyzer.clock) :
    ∃ next, after.stage? index = some next ∧ after.analyzer.RebuildAt clock next := by
  cases happens with
  | @advanced moved origin reached moves advance here elsewhere =>
    by_cases acting : index = moved
    · subst acting
      cases moves with
      | calls call new =>
        rw [stage?_eq_none_iff.mpr new.ge] at present
        cases present
      | resumes same due =>
        obtain rfl := Option.some.inj (same.symm.trans present)
        exact ⟨reached, here, held.advance passed advance⟩
    · exact ⟨stage, (elsewhere index acting).trans present, held.onward passed advance.onward⟩
  | built running rest same state stages =>
    refine ⟨stage, (stages index).trans present, ?_⟩
    rw [state]
    exact held.onward passed (Analyzer.built_onward running rest)
  | ended running result same state stages =>
    refine ⟨_, by rw [stages index, present]; rfl, ?_⟩
    rw [state]
    exact held.heard passed running result

end World

def Stage.HasGraph : Stage → Prop
  | .woken _ (.ok _) => True
  | .locating _ _ => True
  | _ => False

namespace World

/-- Only a graph whose build began after a moment of the clock can come to be used, and for the tasks
from one on it already is such a graph that they find. -/
structure RenewedFrom (clock first : Nat) (world : World) : Prop where
  renewed : world.analyzer.Renewed clock
  supplied : ∀ index stage, first ≤ index → world.stage? index = some stage → stage.HasGraph →
    world.analyzer.GraphSince clock

theorem Happens.renewedFrom {world after : World} {event : Event} {clock first : Nat}
    (happens : world.Happens event after) (held : world.RenewedFrom clock first) :
    after.RenewedFrom clock first where
  renewed := happens.renewed held.renewed
  supplied := by
    intro index stage late present has
    rcases happens.stage_cases present with
      before | ⟨goal, build, result, rfl, waiting, running, state⟩ | ⟨origin, moves, advance⟩
    · exact happens.graphSince held.renewed (held.supplied index stage late before has)
    · cases result with
      | ok graph =>
        rw [state]
        exact Analyzer.finishBuild_graphSince
          (held.renewed.build _ (Analyzer.began?_of_build running)) graph
      | error failure => exact has.elim
    · -- A task finds a graph at its call, or has waited until there is one.
      have found : world.analyzer.GraphSince clock := by
        cases stage with
        | locating ticket work =>
          rcases advance.locating_cases with ⟨_, _, _, reached, _⟩ | ⟨earlier, rfl⟩
          · cases reached with
            | atOnce wanted ready => exact held.renewed.ready ready
            | afterBuild =>
              cases moves with
              | resumes before due => exact held.supplied index _ late before trivial
          · cases moves with
            | resumes before due => exact held.supplied index _ late before trivial
        | woken goal outcome => exact advance.not_woken.elim
        | awaiting | answering | finished => exact has.elim
      exact found.onward advance.onward

end World

def SourcedAnswer.Since (found : SourcedAnswer) (clock : Nat) : Prop :=
  ∃ began, found.provenance.graphBegan = some began ∧ clock < began

theorem Course.Computes.since_iff {course : Course} {run : Run} {query : Query}
    {found : SourcedAnswer} {clock : Nat} (computes : course.Computes run query found) :
    found.Since clock ↔ (run.world course.searched).analyzer.GraphSince clock := by
  rw [SourcedAnswer.Since, computes.source]
  constructor
  · rintro ⟨began, same, later⟩
    obtain ⟨built, present, rfl⟩ := Option.map_eq_some_iff.mp same
    exact ⟨built, present, later⟩
  · rintro ⟨built, present, later⟩
    exact ⟨built.began, by rw [present]; rfl, later⟩

namespace Run

def taskAt (run : Run) (moment : Nat) : Nat := (run.world moment).tasks.length

/-- A rebuild is called at a moment, and it has ended, well or not, by another. -/
structure RebuildOver (run : Run) (began ended : Nat) : Prop where
  starts : ∃ call, run.event? began = some (.call call) ∧ call.startsRebuild = true
  ends : ∃ result, (run.world ended).stage? (run.taskAt began) = some (.finished result)

def RebuildFailed (run : Run) (began ended : Nat) : Prop :=
  ∃ moment goal failure, moment < ended ∧
    (run.world moment).stage? (run.taskAt began) = some (.woken goal (.error failure))

def RebuildDone (run : Run) (began moment : Nat) : Prop :=
  run.event? moment = some (.wake (run.taskAt began)) ∧
    (run.world moment).stage? (run.taskAt began) = some (.woken .ownBuild (.ok ()))

variable {run : Run} {began : Nat}

theorem rebuild_starts {call : Call} (occurs : run.event? began = some (.call call))
    (starts : call.startsRebuild = true) :
    ∃ goal, (run.world (began + 1)).stage? (run.taskAt began) = some (.awaiting goal) ∧
      (run.world (began + 1)).analyzer.RebuildAt (run.world began).analyzer.clock
        (.awaiting goal) := by
  obtain ⟨stage, advance, present⟩ := (happens occurs trivial).of_called
  obtain ⟨⟨goal, rfl⟩, held⟩ := Analyzer.RebuildAt.of_called starts advance
  exact ⟨goal, present, held⟩

theorem rebuildAt_since {call : Call} (occurs : run.event? began = some (.call call))
    (starts : call.startsRebuild = true) {moment : Nat} (order : began < moment) :
    ∃ stage, (run.world moment).stage? (run.taskAt began) = some stage ∧
      (run.world moment).analyzer.RebuildAt (run.world began).analyzer.clock stage := by
  obtain ⟨goal, present, held⟩ := rebuild_starts occurs starts
  refine holds_since
    (P := fun world => ∃ stage, world.stage? (run.taskAt began) = some stage ∧
      world.analyzer.RebuildAt (run.world began).analyzer.clock stage)
    ⟨_, present, held⟩ ?_ (Nat.succ_le_of_lt order)
  rintro moment event since _ happens ⟨stage, present, held⟩
  exact happens.rebuildAt present held (run.later (by omega)).clock

theorem rebuild_ends {call : Call} (occurs : run.event? began = some (.call call))
    (starts : call.startsRebuild = true) {moment : Nat}
    {result : Except Failure (Option SourcedAnswer)}
    (ended : (run.world moment).stage? (run.taskAt began) = some (.finished result)) :
    (∃ done, began < done ∧ done < moment ∧ run.RebuildDone began done) ∨
      run.RebuildFailed began moment := by
  obtain ⟨last, before, event, origin, happening, moves, advance, here⟩ :=
    advancesTo_of_stage? (by simp) ended
  have later : began < last := by
    have since : began < last + 1 := lt_of_stage? le_rfl here
    refine lt_of_le_of_ne (Nat.lt_succ_iff.mp since) ?_
    rintro rfl
    obtain ⟨goal, present, _⟩ := rebuild_starts occurs starts
    rw [present] at here
    cases here
  obtain ⟨stage, present, held⟩ := rebuildAt_since occurs starts later
  cases moves with
  | calls call new =>
    rw [World.stage?_eq_none_iff.mpr new.ge] at present
    cases present
  | resumes same due =>
    obtain rfl := Option.some.inj (same.symm.trans present)
    rcases held.ends advance with rfl | ⟨goal, failure, rfl⟩
    · obtain rfl := Option.some.inj due
      exact Or.inl ⟨last, later, before, happening, present⟩
    · exact Or.inr ⟨last, goal, failure, before, present⟩

theorem RebuildDone.graphSince {call : Call} (occurs : run.event? began = some (.call call))
    (starts : call.startsRebuild = true) {done moment : Nat} (closes : run.RebuildDone began done)
    (after : began < done) (order : done ≤ moment) :
    (run.world moment).analyzer.GraphSince (run.world began).analyzer.clock := by
  obtain ⟨stage, present, held⟩ := rebuildAt_since occurs starts after
  obtain rfl := Option.some.inj (closes.2.symm.trans present)
  cases held with
  | ownEnded build graph =>
    have now : (run.world done).analyzer.Renewed (run.world began).analyzer.clock :=
      ⟨(run.later after.le).clock, build, fun _ => graph⟩
    refine (holds_since
      (P := fun world => world.analyzer.Renewed (run.world began).analyzer.clock ∧
        world.analyzer.GraphSince (run.world began).analyzer.clock) ⟨now, graph⟩ ?_ order).2
    rintro _ _ _ _ happens ⟨renewed, graph⟩
    exact ⟨happens.renewed renewed, happens.graphSince renewed graph⟩

namespace RebuildOver

variable {ended : Nat}

theorem began_lt_ended (rebuilt : run.RebuildOver began ended) : began < ended := by
  obtain ⟨result, present⟩ := rebuilt.ends
  exact lt_of_stage? le_rfl present

theorem renewedFrom (rebuilt : run.RebuildOver began ended) {moment : Nat} (order : ended ≤ moment) :
    (run.world moment).RenewedFrom (run.world began).analyzer.clock (run.taskAt ended) := by
  obtain ⟨call, occurs, starts⟩ := rebuilt.starts
  obtain ⟨result, present⟩ := rebuilt.ends
  obtain ⟨stage, same, held⟩ := rebuildAt_since occurs starts rebuilt.began_lt_ended
  obtain rfl := Option.some.inj (present.symm.trans same)
  cases held with
  | ended renewed =>
    refine holds_since ⟨renewed, ?_⟩ (fun _ _ _ _ happens held => happens.renewedFrom held) order
    intro index stage late present
    rw [World.stage?_eq_none_iff.mpr late] at present
    cases present

theorem graphSince_of_late (rebuilt : run.RebuildOver began ended) {course : Course}
    (searches : course.Searches run) (late : run.taskAt ended ≤ course.task) :
    (run.world course.searched).analyzer.GraphSince (run.world began).analyzer.clock := by
  obtain ⟨_, ⟨work, present⟩, _⟩ := searches.searches
  have after : ended < course.searched := lt_of_stage? late present
  exact (rebuilt.renewedFrom after.le).supplied _ _ late present trivial

end RebuildOver

structure UsagesFound (run : Run) (asked answered : Nat) (found : SourcedAnswer) : Prop where
  asks : ∃ file position, run.event? asked = some (.call (.ask .usages file position))
  gives : (run.world answered).stage? (run.taskAt asked) = some (.finished (.ok (some found)))

/-- An answer escapes a rebuild: the rebuild failed, and the answer was computed by a query that was
called before its end, read the generation after its beginning, and took a graph that is not newer. -/
def Escapes (run : Run) (began ended : Nat) (found : SourcedAnswer) : Prop :=
  run.RebuildFailed began ended ∧ ∃ (course : Course) (query : Query),
    course.Computes run query found ∧ began < course.read ∧ course.task < run.taskAt ended ∧
      ∀ built, (run.world course.searched).analyzer.graph = some built →
        built.began ≤ (run.world began).analyzer.clock

theorem since_or_escapes_of_kept {ended hit : Nat} {query : Query} {found : SourcedAnswer}
    (rebuilt : run.RebuildOver began ended) (order : ended ≤ hit)
    (kept : run.KeptSince hit query found) :
    found.Since (run.world began).analyzer.clock ∨ run.Escapes began ended found := by
  obtain ⟨course, computes, _, undropped⟩ := kept
  obtain ⟨call, occurs, starts⟩ := rebuilt.starts
  obtain ⟨result, present⟩ := rebuilt.ends
  have bound := rebuilt.began_lt_ended
  have opened := computes.read_lt_opened
  have searched := computes.opened_le_searched
  -- Whatever was read before the rebuild has been dropped at its beginning.
  have after : began < course.read := by
    by_contra early
    exact undropped began (by omega) (by omega) (.called occurs (Or.inl starts))
  rw [computes.since_iff]
  rcases rebuild_ends occurs starts present with ⟨done, later, earlier, closes⟩ | failed
  · -- A rebuild that is done has dropped all answers once more at its end.
    have read : done < course.read := by
      by_contra early
      exact undropped done (by omega) (by omega) (.rebuilt closes.1 closes.2)
    exact Or.inl (closes.graphSince occurs starts later (by omega))
  · by_cases late : run.taskAt ended ≤ course.task
    · exact Or.inl (rebuilt.graphSince_of_late computes.toSearches late)
    · by_cases since : (run.world course.searched).analyzer.GraphSince (run.world began).analyzer.clock
      · exact Or.inl since
      · refine Or.inr ⟨failed, course, query, computes, after, by omega, fun built present => ?_⟩
        by_contra newer
        exact since ⟨built, present, by omega⟩

/-- A query for usages that is called after a rebuild has ended, well or not, is answered from a graph
whose build began after the rebuild did, unless the answer escapes the rebuild. -/
theorem usages_since_rebuild_iff (run : Run) (began ended asked answered : Nat)
    (found : SourcedAnswer) (rebuilt : run.RebuildOver began ended) (order : ended ≤ asked)
    (asks : run.UsagesFound asked answered found) :
    found.Since (run.world began).analyzer.clock ↔ ¬ run.Escapes began ended found := by
  constructor
  · rintro since ⟨_, course, query, computes, _, _, older⟩
    obtain ⟨built, present, later⟩ := computes.since_iff.mp since
    have bound := older built present
    omega
  · intro caught
    have late : run.taskAt ended ≤ run.taskAt asked := run.tasks_length_mono order
    rcases answer_cases asks.gives with ⟨course, query, computes, same⟩ | ⟨hit, ⟨query, kept⟩, present⟩
    · exact computes.since_iff.mpr (rebuilt.graphSince_of_late computes.toSearches (same ▸ late))
    · have bound : ended < hit + 1 := lt_of_stage? late present
      obtain ⟨other, _, kept⟩ := keptSince_of_mem (Cache.mem_of_peek? kept)
      exact (since_or_escapes_of_kept rebuilt (by omega) kept).resolve_right caught

/-- A query is in flight while a rebuild succeeds; the next query for the same place searches anew. -/
def renewing : Run :=
  onHost (.oneText "") [.call (.ask .usages "a.ts" ⟨0, 0⟩), .build, .build, .call .rebuild, .wake 0,
    .work 0, .build, .build, .wake 1, .call (.ask .usages "a.ts" ⟨0, 0⟩), .work 2]

theorem usages_since_renewing :
    renewing.RebuildOver 3 9 ∧ renewing.UsagesFound 9 11 ⟨.usages [], ⟨6, some 3⟩⟩ ∧
      (SourcedAnswer.Since ⟨.usages [], ⟨6, some 3⟩⟩ (renewing.world 3).analyzer.clock ↔
        ¬ renewing.Escapes 3 9 ⟨.usages [], ⟨6, some 3⟩⟩) := by
  have rebuilt : renewing.RebuildOver 3 9 := ⟨⟨.rebuild, rfl, rfl⟩, ⟨.ok none, rfl⟩⟩
  have asks : renewing.UsagesFound 9 11 ⟨.usages [], ⟨6, some 3⟩⟩ :=
    ⟨⟨"a.ts", ⟨0, 0⟩, rfl⟩, rfl⟩
  exact ⟨rebuilt, asks, usages_since_rebuild_iff renewing 3 9 9 11 _ rebuilt le_rfl asks⟩

/-- A query goes on while a rebuild is in flight, and keeps its answer; then the rebuild fails because
files cannot be listed, and the same query is made once more. -/
def escaping : Run :=
  let host := Host.oneText ""
  let broken : Host := { host with findFiles := fun _ _ => .error (.unavailable "offline") }
  { working := ⟨1, ["w"]⟩, capacity := 1, scoping := true
    events := [(host, .call (.ask .usages "a.ts" ⟨0, 0⟩)), (host, .build), (host, .build),
      (host, .call .rebuild), (host, .wake 0), (host, .work 0), (broken, .build), (broken, .build),
      (host, .wake 1), (host, .call (.ask .usages "a.ts" ⟨0, 0⟩)), (host, .build), (host, .build),
      (host, .wake 2)] }

/-- A failed rebuild leaves an answer behind that is older than the rebuild. -/
theorem usages_older_than_failed_rebuild :
    escaping.RebuildOver 3 9 ∧ escaping.UsagesFound 9 13 ⟨.usages [], ⟨4, some 1⟩⟩ ∧
      ¬ SourcedAnswer.Since ⟨.usages [], ⟨4, some 1⟩⟩ (escaping.world 3).analyzer.clock := by
  refine ⟨⟨⟨.rebuild, rfl, rfl⟩, ⟨.error (.unavailable "offline"), rfl⟩⟩,
    ⟨⟨"a.ts", ⟨0, 0⟩, rfl⟩, rfl⟩, ?_⟩
  rintro ⟨began, same, later⟩
  obtain rfl := Option.some.inj same
  exact absurd later (by decide)

end Run

end ModuleScope
