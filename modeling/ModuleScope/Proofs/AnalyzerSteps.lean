import Mathlib
import ModuleScope.Analyzer.Basic
import ModuleScope.Proofs.CacheEntries
import ModuleScope.Proofs.QueryKey

/-!
What the single steps of an analyzer do to the state that callers share. Apart from the end of a
build, no step changes the graph or takes a build back, and the counters only grow.
-/
namespace ModuleScope.Analyzer

variable {analyzer : Analyzer} {query : Query} {kept : SourcedAnswer}

theorem lookUp_hit (found : analyzer.cache.peek? query.key = some kept) :
    analyzer.lookUp query =
      ({ analyzer.tick with cache := (analyzer.cache.get query.key).2 }, .inl kept) := by
  simp only [lookUp, tick, Cache.get_hit found]

def ticketFor (analyzer : Analyzer) (query : Query) : Ticket :=
  { query, generation := analyzer.generation, asked := analyzer.clock + 1 }

theorem lookUp_miss (missed : analyzer.cache.peek? query.key = none) :
    analyzer.lookUp query = (analyzer.tick, .inr (analyzer.ticketFor query)) := by
  simp only [lookUp, tick, Cache.get_miss missed, ticketFor]

def began? (analyzer : Analyzer) : Option Nat := analyzer.build.map Build.began

theorem began?_of_build {build : Build} (running : analyzer.build = some build) :
    analyzer.began? = some build.began := by
  rw [began?, running, Option.map_some]

/-- What holds of any two states of which one comes later: the counters only grow. -/
structure Later (before after : Analyzer) : Prop where
  working : after.working = before.working
  clock : before.clock ≤ after.clock
  generation : before.generation ≤ after.generation

theorem Later.refl (analyzer : Analyzer) : Later analyzer analyzer := ⟨rfl, le_rfl, le_rfl⟩

theorem Later.trans {first middle last : Analyzer} (earlier : Later first middle)
    (later : Later middle last) : Later first last where
  working := later.working.trans earlier.working
  clock := earlier.clock.trans later.clock
  generation := earlier.generation.trans later.generation

theorem finishBuild_later (analyzer : Analyzer) (began : Nat) (result : Except Failure ModuleGraph) :
    Later analyzer (analyzer.finishBuild began result).1 := by
  cases result <;> exact ⟨rfl, le_rfl, le_rfl⟩

theorem finishBuild_cache (analyzer : Analyzer) (began : Nat) (result : Except Failure ModuleGraph) :
    (analyzer.finishBuild began result).1.cache = analyzer.cache := by
  cases result <;> rfl

/-- The state has gone on from one moment to another, and no build has ended meanwhile. -/
structure Onward (before after : Analyzer) : Prop extends Later before after where
  graph : after.graph = before.graph
  build : after.began? = before.began? ∧ after.phase = before.phase ∨
    ∃ began, after.began? = some began ∧ before.clock < began ∧ after.phase = .initializing

namespace Onward

theorem refl (analyzer : Analyzer) : Onward analyzer analyzer :=
  ⟨.refl analyzer, rfl, Or.inl ⟨rfl, rfl⟩⟩

theorem trans {first middle last : Analyzer} (earlier : Onward first middle)
    (later : Onward middle last) : Onward first last where
  toLater := earlier.toLater.trans later.toLater
  graph := later.graph.trans earlier.graph
  build := by
    rcases later.build with ⟨same, phase⟩ | ⟨began, new, since, phase⟩
    · rw [same, phase]
      exact earlier.build
    · exact Or.inr ⟨began, new, earlier.clock.trans_lt since, phase⟩

end Onward

theorem tick_onward (analyzer : Analyzer) : Onward analyzer analyzer.tick :=
  ⟨⟨rfl, Nat.le_succ _, le_rfl⟩, rfl, Or.inl ⟨rfl, rfl⟩⟩

theorem forget_onward (analyzer : Analyzer) : Onward analyzer analyzer.forget :=
  ⟨⟨rfl, Nat.le_succ _, Nat.le_succ _⟩, rfl, Or.inl ⟨rfl, rfl⟩⟩

theorem invalidate_onward (analyzer : Analyzer) (file : String) :
    Onward analyzer (analyzer.invalidate file).1 :=
  ⟨⟨rfl, Nat.le_succ _, Nat.le_succ _⟩, rfl, Or.inl ⟨rfl, rfl⟩⟩

theorem lookUp_onward (analyzer : Analyzer) (query : Query) :
    Onward analyzer (analyzer.lookUp query).1 := by
  cases found : analyzer.cache.peek? query.key with
  | none =>
    rw [lookUp_miss found]
    exact tick_onward analyzer
  | some kept =>
    rw [lookUp_hit found]
    exact ⟨⟨rfl, Nat.le_succ _, le_rfl⟩, rfl, Or.inl ⟨rfl, rfl⟩⟩

theorem store_onward (analyzer : Analyzer) (ticket : Ticket) (answer : Answer) :
    Onward analyzer (analyzer.store ticket answer) := by
  unfold store
  split
  · exact ⟨⟨rfl, le_rfl, le_rfl⟩, rfl, Or.inl ⟨rfl, rfl⟩⟩
  · exact .refl analyzer

theorem ensureBuild_onward (analyzer : Analyzer) : Onward analyzer analyzer.ensureBuild := by
  cases running : analyzer.build with
  | some build =>
    rw [ensureBuild, running]
    exact .refl analyzer
  | none =>
    rw [ensureBuild, running]
    exact ⟨⟨rfl, Nat.le_succ _, le_rfl⟩, rfl,
      Or.inr ⟨analyzer.clock + 1, rfl, Nat.lt_succ_self _, rfl⟩⟩

theorem built_onward {build : Build} (running : analyzer.build = some build)
    (rest : Work ModuleGraph) :
    Onward analyzer { analyzer with build := some { build with work := rest } } :=
  ⟨⟨rfl, le_rfl, le_rfl⟩, rfl, Or.inl ⟨by simp [began?, running], rfl⟩⟩

theorem ensureBuild_began? (analyzer : Analyzer) :
    ∃ began, analyzer.ensureBuild.began? = some began := by
  unfold ensureBuild
  cases running : analyzer.build with
  | some build => exact ⟨build.began, by simp [began?, running]⟩
  | none => exact ⟨_, rfl⟩

theorem ensureBuild_cache (analyzer : Analyzer) :
    analyzer.ensureBuild.cache = analyzer.cache := by
  unfold ensureBuild
  cases analyzer.build <;> rfl

theorem mem_of_mem_store {ticket : Ticket} {answer : Answer} {entry : String × SourcedAnswer}
    (member : entry ∈ (analyzer.store ticket answer).cache.entries) :
    entry = (ticket.query.key, ticket.sourced answer) ∧ ticket.generation = analyzer.generation ∨
      entry ∈ analyzer.cache.entries := by
  unfold store at member
  split at member
  · next stored =>
    rcases Cache.mem_of_mem_insert member with rfl | before
    · exact Or.inl ⟨rfl, by simpa using (Bool.and_eq_true_iff.mp stored).2⟩
    · exact Or.inr before
  · exact Or.inr member

theorem not_mem_invalidate {file : String}
    (named : query.path = analyzer.normalize file) :
    (query.key, kept) ∉ (analyzer.invalidate file).1.cache.entries := by
  intro member
  obtain ⟨usages, definitions⟩ := Cache.mem_invalidate.mp member
  obtain ⟨_, usages⟩ := Cache.mem_invalidate.mp usages
  have begins := query.key_beginsWith_fileKey
  rw [named] at begins
  cases kind : query.kind with
  | usages =>
    rw [kind, usages] at begins
    cases begins
  | definition =>
    rw [kind, definitions] at begins
    cases begins

end ModuleScope.Analyzer
