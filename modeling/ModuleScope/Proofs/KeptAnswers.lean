import Mathlib
import ModuleScope.Proofs.QueryCourses

/-!
No answer is kept that was found too early. Whatever drops answers moves the generation, and an answer
is stored only if the generation is still the one that its query read; so every kept answer belongs to
a query that read the generation, and then opened its document, after the last drop.
-/
namespace ModuleScope

/-- Whether a call drops the answers for the file at a path: it starts a rebuild, or it invalidates
a file whose name leads to the path. -/
def Call.Drops (call : Call) (working : Path) (path : String) : Prop :=
  call.startsRebuild = true ∨
    ∃ file, call.invalidated? = some file ∧ (working.resolve (.ofString file)).toString = path

namespace Analyzer

/-- Nothing is kept for a path, and every ticket given out before is out of date. -/
structure Dropped (before after : Analyzer) (path : String) : Prop where
  generation : before.generation < after.generation
  emptied : ∀ (query : Query) (kept : SourcedAnswer), query.path = path →
    (query.key, kept) ∉ after.cache.entries

theorem forget_dropped (analyzer : Analyzer) (path : String) :
    Dropped analyzer analyzer.forget path :=
  ⟨Nat.lt_succ_self _, fun _ _ _ => Cache.not_mem_clear⟩

theorem invalidate_dropped (analyzer : Analyzer) (file : String) :
    Dropped analyzer (analyzer.invalidate file).1 (analyzer.normalize file) :=
  ⟨Nat.lt_succ_self _, fun _ _ named => not_mem_invalidate named⟩

theorem Advance.dropped {before after : Analyzer} {call : Call} {stage : Stage} {path : String}
    (advance : Advance before (.called call) after stage) (drops : call.Drops before.working path) :
    Dropped before after path := by
  have unwanted : call.goal? = none := Call.goal?_eq_none <| drops.imp_right <| by
    rintro ⟨file, named, _⟩
    rw [named]
    rfl
  rcases advance.called_cases unwanted with
    ⟨_, _, rfl⟩ | ⟨_, _, _, rfl⟩ | ⟨invalidated, named, rfl⟩
  · exact forget_dropped before path
  · have dropped := forget_dropped before path
    refine ⟨dropped.generation.trans_le (ensureBuild_onward _).generation, ?_⟩
    rw [ensureBuild_cache]
    exact dropped.emptied
  · rcases drops with starts | ⟨file, same, rfl⟩
    · simp [Call.invalidated?_eq_none starts] at named
    · obtain rfl := Option.some.inj (named.symm.trans same)
      exact invalidate_dropped before _

theorem Advance.eq_forget {before after : Analyzer} {stage : Stage}
    (advance : Advance before (.resumed (.woken .ownBuild (.ok ()))) after stage) :
    after = before.forget := by
  cases advance with
  | prepared reached | hits reached hit | reads reached missed => cases reached
  | searches searches answers => cases searches
  | rebuilt => rfl

end Analyzer

namespace Run

variable {run : Run} {moment : Nat} {path : String}

inductive Drops (run : Run) (moment : Nat) (path : String) : Prop
  | called {call : Call} (occurs : run.event? moment = some (.call call))
      (drops : call.Drops run.working path)
  | rebuilt {task : Nat} (occurs : run.event? moment = some (.wake task))
      (present : (run.world moment).stage? task = some (.woken .ownBuild (.ok ())))

theorem Drops.dropped (drops : run.Drops moment path) :
    (run.world moment).analyzer.Dropped (run.world (moment + 1)).analyzer path := by
  cases drops with
  | called occurs drops =>
    obtain ⟨stage, advance, _⟩ := (happens occurs trivial).of_called
    rw [← working_eq moment] at drops
    exact advance.dropped drops
  | rebuilt occurs present =>
    obtain ⟨stage, advance, _⟩ := (happens occurs ⟨_, present, rfl⟩).of_resumed present rfl
    rw [advance.eq_forget]
    exact Analyzer.forget_dropped _ path

theorem Reads.generation {task : Nat} {ticket : Ticket} (reads : run.Reads task moment ticket) :
    ticket.generation = (run.world moment).analyzer.generation := by
  have looked := reads.1
  cases found : (run.world moment).analyzer.cache.peek? ticket.query.key with
  | none =>
    rw [Analyzer.lookUp_miss found] at looked
    exact congrArg Ticket.generation (Sum.inr.inj looked).symm
  | some kept =>
    rw [Analyzer.lookUp_hit found] at looked
    cases looked

theorem not_drops_of_generation {first last : Nat}
    (same : (run.world first).analyzer.generation = (run.world last).analyzer.generation)
    (since : first ≤ moment) (before : moment < last) : ¬ run.Drops moment path := by
  intro drops
  have earlier := (run.later since).generation
  have after := (run.later (show moment + 1 ≤ last from before)).generation
  have moved := drops.dropped.generation
  omega

/-- A kept answer and its query: the query was searched for before a moment, and from the moment at
which it read the generation nothing has been dropped for its file. -/
def KeptSince (run : Run) (moment : Nat) (query : Query) (found : SourcedAnswer) : Prop :=
  ∃ course : Course, course.Computes run query found ∧ course.answered < moment ∧
    ∀ later, course.read ≤ later → later < moment → ¬ run.Drops later query.path

theorem KeptSince.succ {query : Query} {found : SourcedAnswer}
    (kept : run.KeptSince moment query found)
    (member : (query.key, found) ∈ (run.world (moment + 1)).analyzer.cache.entries) :
    run.KeptSince (moment + 1) query found := by
  obtain ⟨course, computes, order, undropped⟩ := kept
  refine ⟨course, computes, by omega, fun later since before drops => ?_⟩
  rcases Nat.lt_succ_iff_lt_or_eq.mp before with earlier | rfl
  · exact undropped later since earlier drops
  · exact drops.dropped.emptied query found rfl member

theorem keptSince_of_stored {task : Nat} {event : Event} {origin : Origin} {ticket : Ticket}
    {answer : Answer} (occurs : run.event? moment = some event)
    (moves : (run.world moment).Moves task event origin)
    (searches : (run.world moment).analyzer.Searches origin ticket)
    (current : ticket.generation = (run.world moment).analyzer.generation)
    (present : (run.world (moment + 1)).stage? task =
      some (.finished (.ok (some (ticket.sourced answer)))))
    (member : (ticket.query.key, ticket.sourced answer) ∈
      (run.world (moment + 1)).analyzer.cache.entries) :
    run.KeptSince (moment + 1) ticket.query (ticket.sourced answer) := by
  obtain ⟨course, computes, rfl, rfl, same⟩ := computes_of_search occurs moves searches present
  have unmoved : (run.world course.read).analyzer.generation =
      (run.world course.answered).analyzer.generation := by
    rw [← computes.reads.generation, same, current]
  refine ⟨course, computes, Nat.lt_succ_self _, fun later since before drops => ?_⟩
  rcases Nat.lt_succ_iff_lt_or_eq.mp before with earlier | rfl
  · exact not_drops_of_generation unmoved since earlier drops
  · exact drops.dropped.emptied _ _ rfl member

theorem keptSince_of_mem {entry : String × SourcedAnswer}
    (member : entry ∈ (run.world moment).analyzer.cache.entries) :
    ∃ query : Query, entry.1 = query.key ∧ run.KeptSince moment query entry.2 := by
  induction moment generalizing entry with
  | zero => simp [world, World.run, start, Analyzer.create, Cache.empty] at member
  | succ moment ih =>
    -- An entry from before the last event has survived it.
    have survived (earlier : entry ∈ (run.world moment).analyzer.cache.entries) :
        ∃ query : Query, entry.1 = query.key ∧ run.KeptSince (moment + 1) query entry.2 := by
      obtain ⟨query, named, kept⟩ := ih earlier
      exact ⟨query, named, kept.succ (named ▸ member)⟩
    rcases run.next moment with ⟨event, occurs, happens⟩ | ⟨same, _⟩
    · cases happens with
      | advanced moves advance here elsewhere =>
        rcases advance.mem_cache_cases member with
          earlier | ⟨ticket, answer, searches, current, rfl, rfl⟩
        · exact survived earlier
        · exact ⟨ticket.query, rfl, keptSince_of_stored occurs moves searches current here member⟩
      | built running rest _ state =>
        rw [state] at member
        exact survived member
      | ended running result _ state =>
        rw [state, Analyzer.finishBuild_cache] at member
        exact survived member
    · rw [same] at member
      exact survived member

/-- However calls are interleaved, an answer that is kept for a query was computed by a query that
read the generation, and then opened the file, after the last rebuild began and after the answers for
the file were last invalidated. -/
theorem kept_answer_computed_since_drops (run : Run) (moment : Nat) (query : Query)
    (found : SourcedAnswer)
    (member : (query.key, found) ∈ (run.world moment).analyzer.cache.entries) :
    ∃ course : Course, course.Computes run query found ∧ course.answered < moment ∧
      ∀ later call, course.read ≤ later → later < moment →
        run.event? later = some (.call call) → ¬ call.Drops run.working query.path := by
  obtain ⟨other, named, course, computes, order, undropped⟩ := keptSince_of_mem member
  obtain rfl := Query.key_injective named
  exact ⟨course, computes, order, fun later call since before occurs drops =>
    undropped later since before (.called occurs drops)⟩

/-- A file is invalidated while a query about it is in flight: the answer to that query is given up,
and the one to a second query is kept. -/
theorem kept_answer_of_second_query :
    let run := onHost (.oneText "") [.call (.ask .usages "a.ts" ⟨0, 0⟩), .build, .build, .wake 0,
      .call (.invalidate "a.ts"), .work 0, .call (.ask .usages "/w/a.ts" ⟨0, 0⟩), .work 2]
    let query : Query := ⟨.usages, "/w/a.ts", ⟨0, 0⟩⟩
    let found : SourcedAnswer := ⟨.usages [], ⟨4, some 1⟩⟩
    (query.key, found) ∈ (run.world 8).analyzer.cache.entries ∧
      ∃ course : Course, course.Computes run query found ∧ course.answered < 8 ∧
        ∀ later call, course.read ≤ later → later < 8 →
          run.event? later = some (.call call) → ¬ call.Drops run.working query.path :=
  ⟨by decide, kept_answer_computed_since_drops _ 8 _ _ (by decide)⟩

end Run

end ModuleScope
