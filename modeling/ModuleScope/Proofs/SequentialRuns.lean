import Mathlib
import ModuleScope.Proofs.AnalyzerSteps
import ModuleScope.Proofs.SessionCalls

/-!
Calls made one after another as a run. A session does on the spot what a task of a world waits for. So if
the world goes on with a task's build and work until the task has finished, and no other call is made
meanwhile, it comes to the state that the session is in after the call, with the same reports and the same
result.
-/
namespace ModuleScope

namespace Work

variable {α : Type} {host : Host}

theorem run_toWait (host : Host) (work : Work α) :
    work.run host = ((work.toWait.1.run host).1, work.toWait.2 ++ (work.toWait.1.run host).2) := by
  induction work with
  | noting notice next ih => rw [run, ih]; rfl
  | finished | opening | listing => rfl

/-- Work comes to its end when one wait after the other is served. -/
inductive Ends (host : Host) : Work α → List Notice → Except Failure α → Prop
  | last {work : Work α} {notices : List Notice} {result : Except Failure α}
      (served : work.serve host = (.finished result, notices)) : Ends host work notices result
  | wait {work rest : Work α} {notices more : List Notice} {result : Except Failure α}
      (served : work.serve host = (rest, notices)) (waits : ∀ result, rest ≠ .finished result)
      (further : Ends host rest more result) : Ends host work (notices ++ more) result

theorem Ends.of_serve {work : Work α} (next : Work α) (served : work.serve host = next.toWait)
    (further : (∃ result, next.toWait.1 = .finished result) ∨
      Ends host next.toWait.1 (next.toWait.1.run host).2 (next.toWait.1.run host).1) :
    Ends host work (next.run host).2 (next.run host).1 := by
  rw [run_toWait]
  by_cases finished : ∃ result, next.toWait.1 = .finished result
  · obtain ⟨result, finished⟩ := finished
    rw [finished, run, List.append_nil]
    exact .last (served.trans (Prod.ext finished rfl))
  · exact .wait served (fun result same => finished ⟨result, same⟩) (further.resolve_left finished)

theorem toWait_ends (host : Host) (work : Work α) :
    (∃ result, work.toWait.1 = .finished result) ∨
      Ends host work.toWait.1 (work.toWait.1.run host).2 (work.toWait.1.run host).1 := by
  induction work with
  | finished result => exact Or.inl ⟨result, rfl⟩
  | noting notice next ih => exact ih
  | opening path next ih => exact Or.inr (.of_serve (next _) rfl (ih (host.openDocument path)))
  | listing patterns base next ih => exact Or.inr (.of_serve (next _) rfl (ih (host.findFiles patterns base)))

theorem ends_run (host : Host) (work : Work α) : Ends host work (work.run host).2 (work.run host).1 := by
  cases work with
  | finished result => exact .last rfl
  | noting notice next => exact .of_serve _ rfl (toWait_ends host (noting notice next))
  | opening path next => exact .of_serve (next _) rfl (toWait_ends host (next (host.openDocument path)))
  | listing patterns base next =>
    exact .of_serve (next _) rfl (toWait_ends host (next (host.findFiles patterns base)))

end Work

def Event.call? : Event → Option Call
  | .call made => some made
  | _ => none

namespace World

variable {host : Host} {first middle last : World}

/-- A world comes to another without a further call, while one host answers. -/
def Reaches (host : Host) (world after : World) : Prop :=
  ∃ events : List Event, (∀ event ∈ events, event.call? = none) ∧
    world.run (events.map fun event => (host, event)) = after

namespace Reaches

theorem refl (host : Host) (world : World) : world.Reaches host world := ⟨[], by simp, rfl⟩

theorem trans (earlier : first.Reaches host middle) (later : middle.Reaches host last) :
    first.Reaches host last := by
  obtain ⟨events, silent, rfl⟩ := earlier
  obtain ⟨more, quiet, rfl⟩ := later
  refine ⟨events ++ more, ?_, ?_⟩
  · rw [List.forall_mem_append]
    exact ⟨silent, quiet⟩
  · rw [run, run, run, List.map_append, List.foldl_append]

theorem step {event : Event} (silent : event.call? = none)
    (later : (first.step host event).Reaches host last) :
    first.Reaches host last :=
  trans ⟨[event], by simpa using silent, rfl⟩ later

end Reaches

end World

theorem Move.reporting_of_waits {move : Move} {change : Option Change}
    (waits : ∀ result, move.stage ≠ .finished result) : move.reporting change = move := by
  rw [Move.reporting]
  intro _ failure _ failed
  exact waits _ failed

namespace Session

def during (session : Session) (earlier : List Task) (change : Option Change) (stage : Stage) : World :=
  ⟨session.analyzer, session.notices, earlier ++ [⟨change, stage⟩]⟩

def moved (session : Session) (move : Move) : Session := ⟨move.analyzer, session.notices ++ move.notices⟩

/-- What comes of a call. The failure of a change for which nobody waits is only reported. -/
def reporting (change : Option Change) (outcome : Except Failure (Option Answer) × Session) :
    Except Failure (Option Answer) × Session :=
  match change, outcome with
  | some change, (.error failure, session) =>
    (.ok none, { session with notices := session.notices ++ [.changeFailed change.path failure] })
  | _, _ => outcome

/-- After a move a task comes to its end without a further call, and this is what comes of it. -/
def Comes (host : Host) (earlier : List Task) (change : Option Change) (session : Session) (move : Move)
    (outcome : Except Failure (Option Answer) × Session) : Prop :=
  ∃ result, (result.map fun found => found.map SourcedAnswer.answer) = (reporting change outcome).1 ∧
    ((session.moved (move.reporting change)).during earlier change (move.reporting change).stage).Reaches host
      ((reporting change outcome).2.during earlier change (.finished result))

section Moves

variable {host : Host} {session : Session} {earlier : List Task} {change : Option Change} {move next : Move}
  {outcome : Except Failure (Option Answer) × Session}

theorem comes_finished {result : Except Failure (Option SourcedAnswer)}
    (finished : move.stage = .finished result) :
    Comes host earlier change session move
      (result.map fun found => found.map SourcedAnswer.answer, session.moved move) := by
  rcases move with ⟨analyzer, notices, stage⟩
  obtain rfl : stage = .finished result := finished
  cases change with
  | none => exact ⟨result, rfl, .refl host _⟩
  | some change =>
    cases result with
    | ok found => exact ⟨.ok found, rfl, .refl host _⟩
    | error failure =>
      refine ⟨.ok none, rfl, ?_⟩
      simp only [moved, Move.reporting, reporting, during, Except.map, List.append_assoc]
      exact .refl host _

theorem Comes.step (later : Comes host earlier change (session.moved move) next outcome) {event : Event}
    (silent : event.call? = none) (waits : ∀ result, move.stage ≠ .finished result)
    (stepped : ((session.moved move).during earlier change move.stage).step host event =
      ((session.moved move).during earlier change move.stage).apply earlier.length ⟨change, move.stage⟩ next) :
    Comes host earlier change session move outcome := by
  have applied : ((session.moved move).during earlier change move.stage).apply earlier.length
      ⟨change, move.stage⟩ next = ((session.moved move).moved (next.reporting change)).during earlier change
        (next.reporting change).stage := by
    simp [World.apply, during, moved]
  obtain ⟨result, same, reaches⟩ := later
  refine ⟨result, same, ?_⟩
  rw [Move.reporting_of_waits waits]
  exact .step silent (by rwa [stepped, applied])

theorem getElem?_during (session : Session) (stage : Stage) :
    (session.during earlier change stage).tasks[earlier.length]? = some ⟨change, stage⟩ := by
  simp [during]

/-- Where the tasks before have finished, the end of the build is heard by the last one only. -/
theorem reaches_built (settled : ∀ task ∈ earlier, ∃ result, task.stage = .finished result) {goal : Goal}
    {began : Nat} {work : Work ModuleGraph} {notices : List Notice} {result : Except Failure ModuleGraph}
    (ends : work.Ends host notices result) (running : session.analyzer.build = some ⟨began, work⟩) :
    (session.during earlier change (.awaiting goal)).Reaches host
      (during ⟨(session.analyzer.finishBuild began result).1,
          session.notices ++ notices ++ (session.analyzer.finishBuild began result).2⟩
        earlier change (.woken goal (result.map fun _ => ()))) := by
  have deaf (outcome : Except Failure Unit) : earlier.map (World.hear outcome) = earlier := by
    conv_rhs => rw [← List.map_id earlier]
    apply List.map_congr_left
    intro task member
    obtain ⟨result, finished⟩ := settled task member
    rw [World.hear, finished]
    rfl
  induction ends generalizing session with
  | @last work notices result served =>
    refine .step (show Event.build.call? = none from rfl) ?_
    simp only [World.step, World.build, during, running, Pace.single, served, List.map_append, deaf, List.map_cons,
      World.hear, List.map_nil]
    exact .refl host _
  | @wait work rest notices more result served waits _ ih =>
    refine .step (show Event.build.call? = none from rfl) ?_
    let further : Session :=
      ⟨{ session.analyzer with build := some ⟨began, rest⟩ }, session.notices ++ notices⟩
    have stepped : (session.during earlier change (.awaiting goal)).step host .build =
        further.during earlier change (.awaiting goal) := by
      simp only [World.step, World.build, during, running, Pace.single, served]
      cases rest with
      | finished result => exact absurd rfl (waits result)
      | opening | listing | noting => rfl
    -- The end of a build does not depend on how far it had come.
    have ended : further.analyzer.finishBuild began result = session.analyzer.finishBuild began result := by
      cases result <;> rfl
    have reaches := @ih further rfl
    rw [ended] at reaches
    rw [stepped, ← List.append_assoc]
    exact reaches

theorem comes_awaiting (settled : ∀ task ∈ earlier, ∃ result, task.stage = .finished result) {goal : Goal}
    {build : Build} (awaits : move.stage = .awaiting goal) (running : move.analyzer.build = some build)
    (later : Comes host earlier change ((session.moved move).built host build)
      (((session.moved move).built host build).analyzer.goOn goal ((build.work.result host).map fun _ => ()))
      outcome) : Comes host earlier change session move outcome := by
  let woken : Move := ⟨((session.moved move).built host build).analyzer, (build.work.run host).2 ++
    ((session.moved move).analyzer.finishBuild build.began (build.work.result host)).2,
    .woken goal ((build.work.result host).map fun _ => ())⟩
  have built : (session.moved move).moved woken = (session.moved move).built host build := by
    simp [moved, woken, Session.built]
  have goesOn : Comes host earlier change (session.moved move) woken outcome := by
    rw [← built] at later
    refine later.step (show (Event.wake earlier.length).call? = none from rfl) (by rintro _ ⟨⟩) ?_
    rw [World.step, World.wake, getElem?_during]
    rfl
  obtain ⟨result, same, reaches⟩ := goesOn
  refine ⟨result, same, ?_⟩
  rw [Move.reporting_of_waits (by rw [awaits]; rintro _ ⟨⟩), awaits]
  rw [Move.reporting_of_waits (by rintro _ ⟨⟩), built] at reaches
  exact (reaches_built settled (build.work.ends_run host) running).trans reaches

end Moves

section Queries

variable {host : Host} {session : Session} {earlier : List Task} {ticket : Ticket} {analyzer : Analyzer}
  {before notices : List Notice}

/-- A part of a query, while no other call is made: a task that has to wait is in the stage of this part,
and serving the wait takes the task further. -/
structure GoesOn (host : Host) (earlier : List Task) (analyzer : Analyzer) {α : Type}
    (stage : Work α → Stage) (goOn : Work α → List Notice → Move) : Prop where
  waits : ∀ {work notices}, (∀ result, work ≠ .finished result) →
    goOn work notices = ⟨analyzer, notices, stage work⟩
  unfinished : ∀ work result, stage work ≠ .finished result
  serves : ∀ {work rest notices} (reported : List Notice), work.serve host = (rest, notices) →
    (during ⟨analyzer, reported⟩ earlier none (stage work)).step host (.work earlier.length) =
      (during ⟨analyzer, reported⟩ earlier none (stage work)).apply earlier.length ⟨none, stage work⟩
        (goOn rest notices)

namespace GoesOn

variable {α : Type} {stage : Work α → Stage} {goOn : Work α → List Notice → Move}
  (on : GoesOn host earlier analyzer stage goOn) {result : Except Failure α} {work : Work α}
  {outcome : List Notice → Except Failure (Option Answer) × Session}
include on

theorem comes_of_ends (ends : work.Ends host notices result)
    (finished : ∀ session notices, Comes host earlier none session (goOn (.finished result) notices)
      (outcome (session.notices ++ notices))) :
    Comes host earlier none session ⟨analyzer, before, stage work⟩
      (outcome (session.notices ++ before ++ notices)) := by
  induction ends generalizing session before with
  | last served =>
    exact (finished _ _).step rfl (on.unfinished _) (on.serves _ served)
  | @wait work rest notices more result served waits _ ih =>
    have later := @ih (session.moved ⟨analyzer, before, stage work⟩) notices finished
    rw [← on.waits waits] at later
    rw [← List.append_assoc]
    exact later.step rfl (on.unfinished work) (on.serves _ served)

theorem comes_toWait (work : Work α)
    (finished : ∀ session notices, Comes host earlier none session
      (goOn (.finished (work.run host).1) notices) (outcome (session.notices ++ notices))) :
    Comes host earlier none session (goOn work.toWait.1 (before ++ work.toWait.2))
      (outcome (session.notices ++ before ++ (work.run host).2)) := by
  rw [work.run_toWait host] at finished ⊢
  rw [← List.append_assoc, List.append_assoc session.notices]
  by_cases ended : ∃ result, work.toWait.1 = .finished result
  · obtain ⟨result, ended⟩ := ended
    rw [ended] at finished ⊢
    rw [Work.run, List.append_nil]
    exact finished session _
  · rw [on.waits fun result same => ended ⟨result, same⟩]
    exact on.comes_of_ends ((work.toWait_ends host).resolve_left ended) finished

end GoesOn

def answered (analyzer : Analyzer) (ticket : Ticket) (result : Except Failure Answer)
    (notices : List Notice) : Except Failure (Option Answer) × Session :=
  (result.map some, ⟨(analyzer.conclude ticket result).analyzer, notices⟩)

theorem comes_answered (result : Except Failure Answer) :
    Comes host earlier none session (analyzer.goOnAnswering ticket (.finished result) notices)
      (answered analyzer ticket result (session.notices ++ notices)) := by
  cases result with
  | ok answer => exact @comes_finished host session earlier none _ (.ok (some (ticket.sourced answer))) rfl
  | error failure => exact @comes_finished host session earlier none _ (.error failure) rfl

theorem goesOn_answering :
    GoesOn host earlier analyzer (.answering ticket) (analyzer.goOnAnswering ticket) where
  waits {work notices} waits := by
    cases work with
    | finished result => exact absurd rfl (waits result)
    | opening | listing | noting => rfl
  unfinished _ _ := by rintro ⟨⟩
  serves reported served := by
    rw [World.step, World.work, getElem?_during]
    simp only [Pace.single, served]
    rfl

def located (host : Host) (analyzer : Analyzer) (ticket : Ticket) :
    Except Failure Located → List Notice → Except Failure (Option Answer) × Session
  | .error failure, notices => (.error failure, ⟨analyzer, notices⟩)
  | .ok located, notices =>
    let ticket := analyzer.seeGraph ticket
    let work := located.answer ticket.query.position analyzer.moduleGraph? analyzer.scoping
    answered analyzer ticket (work.run host).1 (notices ++ (work.run host).2)

theorem comes_located (result : Except Failure Located) :
    Comes host earlier none session (analyzer.goOnLocating ticket (.finished result) notices)
      (located host analyzer ticket result (session.notices ++ notices)) := by
  cases result with
  | error failure => exact @comes_finished host session earlier none _ (.error failure) rfl
  | ok found => exact goesOn_answering.comes_toWait _ fun _ _ => comes_answered _

theorem goesOn_locating :
    GoesOn host earlier analyzer (.locating ticket) (analyzer.goOnLocating ticket) where
  waits {work notices} waits := by
    cases work with
    | finished result => exact absurd rfl (waits result)
    | opening | listing | noting => rfl
  unfinished _ _ := by rintro ⟨⟩
  serves reported served := by
    rw [World.step, World.work, getElem?_during]
    simp only [Pace.single, served]
    rfl

theorem comes_locate (work : Work Located) :
    Comes host earlier none session (analyzer.goOnLocating ticket work.toWait.1 work.toWait.2)
      (located host analyzer ticket (work.run host).1 (session.notices ++ (work.run host).2)) := by
  have comes := @GoesOn.comes_toWait host session earlier analyzer [] _ _ _
    (@goesOn_locating host earlier ticket analyzer) _ work fun _ _ => comes_located _
  simpa only [List.nil_append, List.append_nil] using comes

end Queries

section Calls

variable {host : Host} {session : Session} {earlier : List Task} {change : Option Change} {move : Move}
  {outcome : Except Failure (Option Answer) × Session}

theorem Comes.noting {before : List Notice}
    (comes : Comes host earlier change { session with notices := session.notices ++ before } move outcome) :
    Comes host earlier change session { move with notices := before ++ move.notices } outcome := by
  have reported : Move.reporting { move with notices := before ++ move.notices } change =
      { move.reporting change with notices := before ++ (move.reporting change).notices } := by
    rcases move with ⟨analyzer, notices, stage⟩
    cases change with
    | none => rfl
    | some change =>
      rcases stage with _ | _ | _ | _ | (failure | found)
      all_goals simp [Move.reporting]
  obtain ⟨result, same, reaches⟩ := comes
  refine ⟨result, same, ?_⟩
  rw [reported]
  simpa only [moved, List.append_assoc] using reaches

theorem comes_at_once {result : Except Failure (Option SourcedAnswer)} :
    Comes host earlier change session ⟨session.analyzer, [], .finished result⟩
      (result.map fun found => found.map SourcedAnswer.answer, session) := by
  have comes := @comes_finished host session earlier change ⟨session.analyzer, [], .finished result⟩ result rfl
  simpa only [moved, List.append_nil] using comes

variable (settled : ∀ task ∈ earlier, ∃ result, task.stage = .finished result)
include settled

/-- A call that waits for a build goes on as the session does after completing it. -/
theorem comes_after_build {goal : Goal} (next : Calling (Option Answer)) {build : Build}
    (awaits : move.stage = .awaiting goal) (running : move.analyzer.build = some build)
    (later : ∀ session, Comes host earlier change session (session.analyzer.goOn goal (.ok ()))
      (session.perform next)) :
    Comes host earlier change session move ((session.moved move).perform (do awaitBuild host; next)) := by
  refine comes_awaiting settled awaits running ?_
  have awaited := @perform_awaitBuild_some (session.moved move) host build running
  cases built : build.work.result host with
  | error failure =>
    rw [built] at awaited
    rw [perform_bind_error _ awaited]
    exact @comes_at_once _ _ _ _ (.error failure)
  | ok graph =>
    rw [built] at awaited
    rw [perform_bind_ok _ awaited]
    exact later _

theorem comes_whenReady (goal : Goal) (next : Calling (Option Answer))
    (later : ∀ session, Comes host earlier change session (session.analyzer.goOn goal (.ok ()))
      (session.perform next)) :
    Comes host earlier change session (session.analyzer.whenReady goal)
      (session.perform (do prepare host; next)) := by
  unfold prepare
  rw [bind_assoc, perform_bind_ok _ (perform_get session), Analyzer.whenReady]
  by_cases ready : session.analyzer.phase = .ready
  · simp only [ready]
    exact later session
  · obtain ⟨began, started⟩ := session.analyzer.ensureBuild_began?
    obtain ⟨build, running, _⟩ := Option.map_eq_some_iff.mp started
    rw [if_neg (by simpa using ready), if_neg (by simpa using ready), bind_assoc,
      perform_bind_ok _ (perform_update session _)]
    have comes := @comes_after_build host session earlier change
      ⟨session.analyzer.ensureBuild, [], .awaiting goal⟩ settled goal next build rfl running later
    simpa only [moved, List.append_nil] using comes

theorem comes_prepare : Comes host earlier change session (session.analyzer.whenReady .prepared)
    (session.perform (do prepare host; return none)) := by
  apply comes_whenReady settled
  intro session
  exact @comes_at_once _ _ _ _ (.ok none)

theorem comes_ownBuild :
    Comes host earlier change session session.analyzer.beginOwnBuild (session.perform (do
      update Analyzer.ensureBuild
      awaitBuild host
      update Analyzer.forget
      note .rebuilt
      return none)) := by
  obtain ⟨began, started⟩ := session.analyzer.ensureBuild_began?
  obtain ⟨build, running, _⟩ := Option.map_eq_some_iff.mp started
  rw [perform_bind_ok _ (perform_update session _)]
  have comes := @comes_after_build host session earlier change session.analyzer.beginOwnBuild settled .ownBuild
    (do update Analyzer.forget; note .rebuilt; return none) build rfl running fun session =>
      @comes_finished _ session _ _ _ (.ok none) rfl
  simpa only [moved, Analyzer.beginOwnBuild, List.append_nil] using comes

theorem comes_rebuild : Comes host earlier change session session.analyzer.beginRebuild
    (session.perform (do rebuild host; return none)) := by
  let cleared : Session := ⟨session.analyzer.forget, session.notices ++ [.rebuilding]⟩
  have own (session : Session) := @comes_ownBuild host session earlier change settled
  unfold rebuild
  simp only [bind_assoc]
  rw [perform_bind_ok _ (perform_note session _), perform_bind_ok _ (perform_update _ _)]
  cases running : session.analyzer.forget.build with
  | none =>
    rw [perform_bind_ok _ (@perform_awaitBuild_none cleared host running), Analyzer.beginRebuild]
    simp only [running]
    exact .noting (own cleared)
  | some build =>
    rw [Analyzer.beginRebuild]
    simp only [running]
    have comes := @comes_after_build host session earlier change
      ⟨session.analyzer.forget, [.rebuilding], .awaiting .olderBuild⟩ settled .olderBuild _ build rfl running own
    exact comes

omit settled in
theorem comes_dropFile (file : String) : Comes host earlier change session (session.analyzer.dropFile file)
    (session.perform (do invalidate file; return none)) :=
  @comes_finished _ session _ _ _ (.ok none) rfl

theorem comes_change (file : String) : Comes host earlier change session (session.analyzer.beginChange file)
    (session.perform (do applyChange host file; return none)) := by
  unfold Analyzer.beginChange applyChange
  split
  · exact comes_rebuild settled
  · exact comes_dropFile file

omit settled in
theorem perform_search (ticket : Ticket) :
    session.perform (do return some (← search host ticket)) =
      located host session.analyzer ticket (ticket.query.locate.run host).1
        (session.notices ++ (ticket.query.locate.run host).2) := by
  rw [perform_map]
  unfold search
  have first := perform_work host session ticket.query.locate
  cases found : ticket.query.locate.result host with
  | error failure =>
    rw [found] at first
    rw [perform_bind_error _ first, ← Work.result, found]
    rfl
  | ok symbol =>
    rw [found] at first
    rw [perform_bind_ok _ first, perform_bind_ok _ (perform_get _), ← Work.result, found]
    have second := perform_work host
      { session with notices := session.notices ++ (ticket.query.locate.run host).2 }
      (symbol.answer ticket.query.position session.analyzer.moduleGraph? session.analyzer.scoping)
    cases reached : (symbol.answer ticket.query.position session.analyzer.moduleGraph?
        session.analyzer.scoping).result host with
    | error failure =>
      rw [reached] at second
      rw [perform_bind_error _ second]
      rw [Work.result] at reached
      simp only [located, answered, Analyzer.seeGraph, reached]
      rfl
    | ok answer =>
      rw [reached] at second
      rw [perform_bind_ok _ second, perform_bind_ok _ (perform_update _ _)]
      rw [Work.result] at reached
      simp only [located, answered, Analyzer.seeGraph, reached]
      rfl

omit settled in
theorem comes_search (analyzer : Analyzer) (ticket : Ticket) :
    Comes host earlier none session
      (analyzer.goOnLocating ticket ticket.query.locate.toWait.1 ticket.query.locate.toWait.2)
      (perform { session with analyzer } (do return some (← search host ticket))) := by
  rw [perform_search]
  exact comes_locate _

theorem comes_ask (kind : QueryKind) (file : String) (position : Position) :
    Comes host earlier none session (session.analyzer.whenReady (.answer kind file position))
      (session.perform (do return some (← ask host kind file position))) := by
  unfold ask
  rw [bind_assoc]
  apply comes_whenReady settled
  intro session
  rw [bind_assoc, perform_bind_ok _ (perform_get session)]
  dsimp only
  rw [bind_assoc, perform_bind_ok _ (perform_lookUp session _)]
  rw [Analyzer.goOn, Analyzer.beginQuery]
  generalize asked : (⟨kind, session.analyzer.normalize file, position⟩ : Query) = query
  cases found : session.analyzer.cache.peek? query.key with
  | some kept =>
    rw [Analyzer.lookUp_hit found]
    let hit := { session.analyzer.tick with cache := (session.analyzer.cache.get query.key).2 }
    exact @comes_at_once host ⟨hit, session.notices⟩ earlier none (.ok (some kept))
  | none =>
    rw [Analyzer.lookUp_miss found]
    have comes := @comes_search host session earlier session.analyzer.tick (session.analyzer.ticketFor query)
    unfold search at comes
    subst asked
    exact comes

theorem exists_comes (call : Call) :
    ∃ outcome, reporting call.change? outcome = session.perform (make host call) ∧
      Comes host earlier call.change? session (session.analyzer.begin call) outcome := by
  cases call with
  | prepare => exact ⟨_, rfl, comes_prepare settled⟩
  | rebuild => exact ⟨_, rfl, comes_rebuild settled⟩
  | invalidate file => exact ⟨_, rfl, comes_dropFile file⟩
  | change file => exact ⟨_, rfl, comes_change settled file⟩
  | ask kind file position => exact ⟨_, rfl, comes_ask settled kind file position⟩
  | apply change =>
    let noted : Session := { session with notices := session.notices ++ [.fileChanged change] }
    have comes := @comes_change host noted earlier (some change) settled change.path
    refine ⟨noted.perform (do applyChange host change.path; return none), ?_, comes.noting⟩
    rw [make, perform_bind_ok _ (perform_note session _), perform_map _ _ fun _ => none,
      perform_map _ _ fun _ => none, perform_tryCatch]
    rcases noted.perform (applyChange host change.path) with ⟨result, after⟩
    cases result <;> rfl

end Calls

def makeAll (session : Session) : List (Host × Call) → List (Except Failure (Option Answer)) × Session
  | [] => ([], session)
  | (host, call) :: rest =>
    let (result, next) := session.perform (make host call)
    let (results, last) := next.makeAll rest
    (result :: results, last)

theorem call_reaches (host : Host) (session : Session) {earlier : List Task}
    (settled : ∀ task ∈ earlier, ∃ result, task.stage = .finished result) (call : Call) :
    ∃ result, (result.map fun found => found.map SourcedAnswer.answer) = (session.perform (make host call)).1 ∧
      ((World.mk session.analyzer session.notices earlier).step host (.call call)).Reaches host
        ((session.perform (make host call)).2.during earlier call.change? (.finished result)) := by
  obtain ⟨outcome, made, result, same, reaches⟩ := @exists_comes host session earlier settled call
  rw [made] at same reaches
  exact ⟨result, same, reaches⟩

theorem exists_run (session : Session) (calls : List (Host × Call)) {earlier : List Task}
    (settled : ∀ task ∈ earlier, ∃ result, task.stage = .finished result) :
    ∃ events : List (Host × Event),
      (events.filterMap fun event => event.2.call?.map fun call => (event.1, call)) = calls ∧
      let world := (World.mk session.analyzer session.notices earlier).run events
      world.analyzer = (session.makeAll calls).2.analyzer ∧ world.notices = (session.makeAll calls).2.notices ∧
        world.results = (World.mk session.analyzer session.notices earlier).results ++
          (session.makeAll calls).1.map some := by
  induction calls generalizing session earlier with
  | nil => exact ⟨[], rfl, rfl, rfl, (List.append_nil _).symm⟩
  | cons first rest ih =>
    rcases first with ⟨host, call⟩
    obtain ⟨result, same, steps, silent, reached⟩ := call_reaches host session settled call
    have further : ∀ task ∈ earlier ++ [⟨call.change?, .finished result⟩],
        ∃ result, task.stage = .finished result := by
      rw [List.forall_mem_append]
      exact ⟨settled, by simp⟩
    obtain ⟨events, made, analyzer, notices, results⟩ := ih (session.perform (make host call)).2 further
    have run : (World.mk session.analyzer session.notices earlier).run
        ((host, .call call) :: steps.map (fun event => (host, event)) ++ events) =
          ((session.perform (make host call)).2.during earlier call.change? (.finished result)).run events := by
      rw [← reached, World.run, World.run, World.run, List.foldl_append]
      rfl
    refine ⟨(host, .call call) :: steps.map (fun event => (host, event)) ++ events, ?_, ?_⟩
    · have quiet : ((steps.map fun event => (host, event)).filterMap fun event =>
          event.2.call?.map fun call => (event.1, call)) = [] := by
        simp only [List.filterMap_eq_nil_iff, List.mem_map, Option.map_eq_none_iff]
        rintro _ ⟨event, member, rfl⟩
        exact silent event member
      rw [List.filterMap_append, made, List.filterMap_cons, quiet]
      rfl
    · dsimp only at analyzer notices results ⊢
      rw [run]
      refine ⟨analyzer, notices, results.trans ?_⟩
      simp [makeAll, World.results, ← same]

/-- Calls made one after another are a run that makes them in this order: it comes to the same state, with
the same reports, and its tasks come to the same results. -/
theorem calls_are_run (session : Session) (calls : List (Host × Call)) :
    ∃ events : List (Host × Event),
      (events.filterMap fun event => event.2.call?.map fun call => (event.1, call)) = calls ∧
      let world := (World.mk session.analyzer session.notices []).run events
      world.analyzer = (session.makeAll calls).2.analyzer ∧ world.notices = (session.makeAll calls).2.notices ∧
        world.results = (session.makeAll calls).1.map some :=
  exists_run session calls (by simp)

end Session

end ModuleScope
