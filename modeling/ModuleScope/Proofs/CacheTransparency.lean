import Mathlib
import ModuleScope.Analyzer.World
import ModuleScope.Proofs.AnalyzerSteps
import ModuleScope.Proofs.QueryKey
import ModuleScope.Proofs.SessionCalls

/-!
The cache cannot be seen in the answers. While files stay as they are, every call leaves an analyzer
whose graph is the one a build would give and whose kept answers are those a search would give, so a
query is answered as by an analyzer that has never been asked before.
-/
namespace ModuleScope

/-- What a search answers: the graph is built, the symbol resolved and its usages found. -/
def Query.outcome (query : Query) (host : Host) (scoping : Bool) : Except Failure Answer := do
  let graph ← buildGraph.result host
  let located ← query.locate.result host
  (located.answer query.position (some graph) scoping).result host

namespace Analyzer

/-- No build is in flight, the graph is what a build gives, and a kept answer is what a search gives. -/
structure Faithful (host : Host) (analyzer : Analyzer) : Prop where
  idle : analyzer.build = none
  built : ∀ found, analyzer.graph = some found → buildGraph.result host = .ok found.graph
  ready : analyzer.phase = .ready → ∃ found, analyzer.graph = some found
  kept : ∀ entry ∈ analyzer.cache.entries, ∃ query : Query, entry.1 = query.key ∧
    query.outcome host analyzer.scoping = .ok entry.2.answer

structure SameSetting (before after : Analyzer) : Prop where
  working : after.working = before.working
  scoping : after.scoping = before.scoping

theorem SameSetting.refl (analyzer : Analyzer) : SameSetting analyzer analyzer := ⟨rfl, rfl⟩

theorem SameSetting.trans {first middle last : Analyzer} (earlier : SameSetting first middle)
    (later : SameSetting middle last) : SameSetting first last :=
  ⟨later.working.trans earlier.working, later.scoping.trans earlier.scoping⟩

variable {host : Host} {analyzer : Analyzer}

theorem faithful_create (host : Host) (working : Path) (capacity : Nat) (scoping : Bool) :
    Faithful host (create working (.empty capacity) scoping) where
  idle := rfl
  built := by simp [create]
  ready := by simp [create]
  kept := by simp [create, Cache.empty]

namespace Faithful

theorem ofFewer (faithful : Faithful host analyzer) {cache : Cache SourcedAnswer} {generation clock : Nat}
    (fewer : ∀ entry ∈ cache.entries, entry ∈ analyzer.cache.entries) :
    Faithful host { analyzer with cache, generation, clock } where
  idle := faithful.idle
  built := faithful.built
  ready := faithful.ready
  kept entry member := faithful.kept entry (fewer entry member)

theorem forget (faithful : Faithful host analyzer) : Faithful host analyzer.forget :=
  faithful.ofFewer fun _ member => absurd member Cache.not_mem_clear

theorem invalidate (faithful : Faithful host analyzer) (file : String) :
    Faithful host (analyzer.invalidate file).1 :=
  faithful.ofFewer fun _ member =>
    (Cache.mem_invalidate.mp (Cache.mem_invalidate.mp member).1).1

theorem withBuild (faithful : Faithful host analyzer) :
    Faithful host (analyzer.withBuild (buildGraph.result host)) := by
  unfold Analyzer.withBuild ensureBuild
  rw [faithful.idle]
  cases outcome : buildGraph.result host with
  | ok graph =>
    refine ⟨rfl, ?_, fun _ => ⟨_, rfl⟩, faithful.kept⟩
    rintro found same
    obtain rfl := Option.some.inj same
    exact outcome
  | error failure =>
    refine ⟨rfl, ?_, (fun ready => nomatch ready), faithful.kept⟩
    -- The host is the same, so a build that fails now has never succeeded.
    intro found same
    exact absurd (faithful.built found same) (by simp [outcome])

theorem lookUp (faithful : Faithful host analyzer) (query : Query) :
    Faithful host (analyzer.lookUp query).1 := by
  cases found : analyzer.cache.peek? query.key with
  | none =>
    rw [lookUp_miss found]
    exact faithful.ofFewer fun _ member => member
  | some kept =>
    rw [lookUp_hit found]
    exact faithful.ofFewer fun _ member => Cache.mem_of_mem_get member

theorem store (faithful : Faithful host analyzer) (ticket : Ticket) (answer : Answer)
    (searched : ticket.query.outcome host analyzer.scoping = .ok answer) :
    Faithful host (analyzer.store ticket answer) := by
  unfold Analyzer.store
  split
  · refine ⟨faithful.idle, faithful.built, faithful.ready, fun entry member => ?_⟩
    rcases Cache.mem_of_mem_insert member with rfl | before
    · exact ⟨ticket.query, rfl, searched⟩
    · exact faithful.kept entry before
  · exact faithful

end Faithful

theorem withBuild_setting (analyzer : Analyzer) (outcome : Except Failure ModuleGraph) :
    SameSetting analyzer (analyzer.withBuild outcome) := by
  unfold Analyzer.withBuild ensureBuild
  constructor <;> cases analyzer.build <;> cases outcome <;> rfl

theorem withBuild_cache (analyzer : Analyzer) (outcome : Except Failure ModuleGraph) :
    (analyzer.withBuild outcome).cache = analyzer.cache := by
  unfold Analyzer.withBuild ensureBuild
  cases analyzer.build <;> cases outcome <;> rfl

theorem store_setting (analyzer : Analyzer) (ticket : Ticket) (answer : Answer) :
    SameSetting analyzer (analyzer.store ticket answer) := by
  unfold Analyzer.store
  split <;> exact ⟨rfl, rfl⟩

theorem Faithful.hit (faithful : Faithful host analyzer) {query : Query} {kept : SourcedAnswer}
    (found : analyzer.cache.peek? query.key = some kept) :
    query.outcome host analyzer.scoping = .ok kept.answer := by
  obtain ⟨other, same, searched⟩ := faithful.kept _ (Cache.mem_of_peek? found)
  rwa [Query.key_injective same]

end Analyzer

namespace Session

open Analyzer

theorem prepare_faithful {host : Host} {session : Session}
    (faithful : Faithful host session.analyzer) :
    ∃ after, session.perform (prepare host) = ((buildGraph.result host).map fun _ => (), after) ∧
      Faithful host after.analyzer ∧ SameSetting session.analyzer after.analyzer ∧
      after.analyzer.cache = session.analyzer.cache ∧
      ∀ graph, buildGraph.result host = .ok graph →
        after.analyzer.moduleGraph? = some graph := by
  unfold prepare
  rw [perform_bind_ok _ (perform_get session)]
  by_cases ready : session.analyzer.phase = .ready
  · obtain ⟨found, present⟩ := faithful.ready ready
    have built := faithful.built found present
    refine ⟨session, ?_, faithful, .refl _, rfl, ?_⟩
    · simp only [ready, built]
      rfl
    · intro graph same
      rw [built] at same
      obtain rfl := Except.ok.inj same
      simp [moduleGraph?, present]
  · obtain ⟨notices, performed⟩ := perform_build host session faithful.idle
    refine ⟨⟨session.analyzer.withBuild (buildGraph.result host), notices⟩, ?_, faithful.withBuild,
      withBuild_setting _ _, withBuild_cache _ _, ?_⟩
    · rw [if_neg (by simpa using ready)]
      exact performed
    · intro graph same
      rw [same]
      rfl

theorem outcome_of_graph {host : Host} {analyzer : Analyzer} (faithful : Faithful host analyzer)
    {graph : ModuleGraph} (present : analyzer.moduleGraph? = some graph) (query : Query)
    (scoping : Bool) :
    query.outcome host scoping = (query.locate.result host).bind fun located =>
      (located.answer query.position (some graph) scoping).result host := by
  obtain ⟨found, here, rfl⟩ := Option.map_eq_some_iff.mp present
  rw [Query.outcome, faithful.built found here]
  rfl

theorem search_faithful {host : Host} {session : Session} (faithful : Faithful host session.analyzer)
    {graph : ModuleGraph} (present : session.analyzer.moduleGraph? = some graph) (ticket : Ticket) :
    ∃ after, session.perform (search host ticket) =
        (ticket.query.outcome host session.analyzer.scoping, after) ∧
      Faithful host after.analyzer ∧ SameSetting session.analyzer after.analyzer ∧
      ∀ failure, ticket.query.outcome host session.analyzer.scoping = .error failure →
        after.analyzer.cache = session.analyzer.cache := by
  unfold search
  have outcome := outcome_of_graph faithful present ticket.query session.analyzer.scoping
  have first := perform_work host session ticket.query.locate
  cases located : ticket.query.locate.result host with
  | error failure =>
    rw [located] at first outcome
    rw [perform_bind_error _ first, outcome]
    exact ⟨_, rfl, faithful, .refl _, fun _ _ => rfl⟩
  | ok symbol =>
    rw [located] at first outcome
    rw [perform_bind_ok _ first, perform_bind_ok _ (perform_get _), present]
    have second := perform_work host
      ⟨session.analyzer, session.notices ++ (ticket.query.locate.run host).2⟩
      (symbol.answer ticket.query.position (some graph) session.analyzer.scoping)
    cases answered : (symbol.answer ticket.query.position (some graph)
        session.analyzer.scoping).result host with
    | error failure =>
      rw [answered] at second
      rw [perform_bind_error _ second, outcome]
      exact ⟨_, congrArg (·, _) answered.symm, faithful, .refl _, fun _ _ => rfl⟩
    | ok answer =>
      rw [answered] at second
      have searched : ticket.query.outcome host session.analyzer.scoping = .ok answer :=
        outcome.trans answered
      rw [perform_bind_ok _ second, perform_bind_ok _ (perform_update _ _), searched]
      refine ⟨_, rfl, faithful.store _ answer searched, store_setting _ _ _, ?_⟩
      intro failure failed
      cases failed

theorem ask_faithful {host : Host} {session : Session} (faithful : Faithful host session.analyzer)
    (kind : QueryKind) (file : String) (position : Position) :
    ∃ after, session.perform (ask host kind file position) =
        ((Query.mk kind (session.analyzer.normalize file) position).outcome host
          session.analyzer.scoping, after) ∧
      Faithful host after.analyzer ∧ SameSetting session.analyzer after.analyzer ∧
      ∀ failure, (Query.mk kind (session.analyzer.normalize file) position).outcome host
          session.analyzer.scoping = .error failure →
        after.analyzer.cache = session.analyzer.cache := by
  obtain ⟨prepared, performed, faithful', setting, cache, graphs⟩ := prepare_faithful faithful
  set query : Query := ⟨kind, session.analyzer.normalize file, position⟩ with asked
  unfold ask
  cases built : buildGraph.result host with
  | error failure =>
    rw [built] at performed
    rw [perform_bind_error _ performed]
    refine ⟨prepared, ?_, faithful', setting, fun _ _ => cache⟩
    rw [Query.outcome, built]
    rfl
  | ok graph =>
    rw [built] at performed
    rw [perform_bind_ok _ performed, perform_bind_ok _ (perform_get prepared)]
    have named : (⟨kind, prepared.analyzer.normalize file, position⟩ : Query) = query := by
      rw [asked, Analyzer.normalize, Analyzer.normalize, setting.working]
    simp only [named]
    rw [perform_bind_ok _ (perform_lookUp prepared query)]
    cases found : prepared.analyzer.cache.peek? query.key with
    | some kept =>
      have searched := faithful'.hit found
      rw [setting.scoping] at searched
      refine ⟨⟨(prepared.analyzer.lookUp query).1, prepared.notices⟩, ?_, faithful'.lookUp query,
        setting.trans ?_, ?_⟩
      · rw [lookUp_hit found, searched]
        rfl
      · rw [lookUp_hit found]
        exact ⟨rfl, rfl⟩
      · intro failure failed
        rw [searched] at failed
        cases failed
    | none =>
      rw [lookUp_miss found]
      let missed : Session := ⟨prepared.analyzer.tick, prepared.notices⟩
      have kept : Faithful host missed.analyzer := faithful'.ofFewer fun _ member => member
      obtain ⟨after, searched, faithful'', setting', unchanged⟩ :=
        search_faithful kept (graphs graph built) (prepared.analyzer.ticketFor query)
      rw [← setting.scoping]
      exact ⟨after, searched, faithful'', setting.trans ⟨setting'.working, setting'.scoping⟩,
        fun failure failed => (unchanged failure failed).trans cache⟩

theorem rebuild_faithful {host : Host} {session : Session}
    (faithful : Faithful host session.analyzer) :
    Faithful host (session.perform (rebuild host)).2.analyzer ∧
      SameSetting session.analyzer (session.perform (rebuild host)).2.analyzer := by
  let cleared : Session := ⟨session.analyzer.forget, session.notices ++ [.rebuilding]⟩
  have waited : cleared.perform (awaitBuild host) = (.ok (), cleared) :=
    perform_awaitBuild_none host faithful.forget.idle
  obtain ⟨notices, built⟩ := perform_build host cleared faithful.forget.idle
  unfold rebuild
  rw [perform_bind_ok _ (perform_note session _), perform_bind_ok _ (perform_update _ _),
    perform_bind_ok _ waited, ← bind_assoc]
  have forgotten : SameSetting session.analyzer session.analyzer.forget := ⟨rfl, rfl⟩
  have setting := forgotten.trans (withBuild_setting _ (buildGraph.result host))
  cases outcome : buildGraph.result host with
  | error failure =>
    rw [outcome] at built setting
    rw [perform_bind_error _ built, ← outcome]
    exact ⟨faithful.forget.withBuild, outcome ▸ setting⟩
  | ok graph =>
    rw [outcome] at built setting
    rw [perform_bind_ok _ built, perform_bind_ok _ (perform_update _ _), perform_note, ← outcome]
    exact ⟨faithful.forget.withBuild.forget, outcome ▸ ⟨setting.working, setting.scoping⟩⟩

theorem invalidate_faithful {host : Host} {session : Session}
    (faithful : Faithful host session.analyzer) (file : String) :
    Faithful host (session.perform (invalidate file)).2.analyzer ∧
      SameSetting session.analyzer (session.perform (invalidate file)).2.analyzer :=
  ⟨faithful.invalidate file, rfl, rfl⟩

/-- The session after calls, each of which has ended, well or not, before the next is made. -/
def after (host : Host) (session : Session) (calls : List Call) : Session :=
  calls.foldl (fun session call => (session.perform (make host call)).2) session

theorem applyChange_faithful {host : Host} {session : Session}
    (faithful : Faithful host session.analyzer) (file : String) :
    Faithful host (session.perform (applyChange host file)).2.analyzer ∧
      SameSetting session.analyzer (session.perform (applyChange host file)).2.analyzer := by
  unfold applyChange
  split
  · exact rebuild_faithful faithful
  · exact invalidate_faithful faithful file

theorem make_faithful {host : Host} {session : Session} (faithful : Faithful host session.analyzer)
    (call : Call) :
    Faithful host (session.perform (make host call)).2.analyzer ∧
      SameSetting session.analyzer (session.perform (make host call)).2.analyzer := by
  cases call with
  | prepare =>
    rw [make, perform_map]
    obtain ⟨after, performed, kept, setting, _⟩ := prepare_faithful faithful
    rw [performed]
    exact ⟨kept, setting⟩
  | rebuild =>
    rw [make, perform_map]
    exact rebuild_faithful faithful
  | invalidate file =>
    rw [make, perform_map]
    exact invalidate_faithful faithful file
  | change file =>
    rw [make, perform_map]
    exact applyChange_faithful faithful file
  | ask kind file position =>
    rw [make, perform_map]
    obtain ⟨after, performed, kept, setting, _⟩ := ask_faithful faithful kind file position
    rw [performed]
    exact ⟨kept, setting⟩
  | apply change =>
    let noted : Session := { session with notices := session.notices ++ [.fileChanged change] }
    have applied := @applyChange_faithful host noted faithful change.path
    rw [make, perform_bind_ok _ (perform_note session _), perform_map _ _ fun _ => none, perform_tryCatch]
    rcases performed : noted.perform (applyChange host change.path) with ⟨outcome, after⟩
    rw [performed] at applied
    -- Whether the change fails or not, reporting it leaves the analyzer as it is.
    cases outcome <;> exact applied

theorem after_faithful {host : Host} (calls : List Call) {session : Session}
    (faithful : Faithful host session.analyzer) :
    Faithful host (session.after host calls).analyzer ∧
      SameSetting session.analyzer (session.after host calls).analyzer := by
  induction calls generalizing session with
  | nil => exact ⟨faithful, .refl _⟩
  | cons call rest ih =>
    obtain ⟨kept, setting⟩ := make_faithful faithful call
    obtain ⟨last, later⟩ := ih kept
    exact ⟨last, setting.trans later⟩

def fresh (working : Path) (capacity : Nat) (scoping : Bool) : Session :=
  { analyzer := Analyzer.create working (.empty capacity) scoping }

/-- While the host stays the same, calls made before cannot be seen in what a query answers or how it
fails, however its file is spelled; and a query that fails leaves the cache as it was. -/
theorem ask_after_eq_ask_fresh (host : Host) (working : Path) (capacity : Nat) (scoping : Bool)
    (calls : List Call) (kind : QueryKind) (file spelled : String) (position : Position)
    (same : working.resolve (.ofString file) = working.resolve (.ofString spelled)) :
    let session := (fresh working capacity scoping).after host calls
    let asked := session.perform (ask host kind file position)
    asked.1 = ((fresh working capacity scoping).perform (ask host kind spelled position)).1 ∧
      ∀ failure, asked.1 = .error failure → asked.2.analyzer.cache = session.analyzer.cache := by
  intro session asked
  have start : Faithful host (fresh working capacity scoping).analyzer :=
    faithful_create host working capacity scoping
  obtain ⟨faithful, setting⟩ := after_faithful calls start
  obtain ⟨last, performed, _, _, unchanged⟩ := ask_faithful faithful kind file position
  obtain ⟨_, anew, _⟩ := ask_faithful start kind spelled position
  have named : session.analyzer.normalize file =
      (fresh working capacity scoping).analyzer.normalize spelled := by
    rw [Analyzer.normalize, Analyzer.normalize, setting.working]
    exact congrArg Path.toString same
  have answer : asked.1 = ((fresh working capacity scoping).perform
      (ask host kind spelled position)).1 := by
    rw [show asked = _ from performed, anew, setting.scoping, named]
  refine ⟨answer, fun failure failed => ?_⟩
  rw [show asked = _ from performed] at failed ⊢
  exact unchanged failure failed

/-- Two spellings of one file, asked for after a query, a change and a rebuild. -/
theorem ask_after_changes_two_spellings :
    Path.resolve ⟨1, ["w"]⟩ (.ofString "a.ts") = Path.resolve ⟨1, ["w"]⟩ (.ofString "../w/./a.ts") ∧
      let session := (fresh ⟨1, ["w"]⟩ 1 true).after (.oneText "class A {}")
        [.ask .usages "a.ts" ⟨0, 6⟩, .change "b.ts", .rebuild, .ask .definition "/w/a.ts" ⟨0, 6⟩]
      let asked := session.perform (ask (.oneText "class A {}") .usages "a.ts" ⟨0, 6⟩)
      asked.1 = ((fresh ⟨1, ["w"]⟩ 1 true).perform
          (ask (.oneText "class A {}") .usages "../w/./a.ts" ⟨0, 6⟩)).1 ∧
        ∀ failure, asked.1 = .error failure → asked.2.analyzer.cache = session.analyzer.cache :=
  ⟨by decide, ask_after_eq_ask_fresh _ _ _ _ _ _ _ _ _ (by decide)⟩

end Session

end ModuleScope
