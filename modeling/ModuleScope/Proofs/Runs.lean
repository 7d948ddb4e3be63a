import Mathlib
import ModuleScope.Proofs.Results
import ModuleScope.Proofs.TaskSteps

/-!
Runs of an analyzer from its creation, moment by moment. At each moment one event happens, or nothing
does, so what every event preserves holds at all later moments.
-/
namespace ModuleScope

/-- A run: the settings of the analyzer, and what happened, each event with the host of the moment. -/
structure Run where
  working : Path
  capacity : Nat
  scoping : Bool
  events : List (Host × Event)

namespace Run

def onHost (host : Host) (events : List Event) : Run :=
  ⟨⟨1, ["w"]⟩, 1, true, events.map fun event => (host, event)⟩

def start (run : Run) : World :=
  { analyzer := .create run.working (.empty run.capacity) run.scoping }

/-- The world at a moment, which is the number of events before it. -/
def world (run : Run) (moment : Nat) : World := run.start.run (run.events.take moment)

def event? (run : Run) (moment : Nat) : Option Event := run.events[moment]?.map Prod.snd

variable (run : Run)

theorem world_succ (moment : Nat) :
    run.world (moment + 1) =
      match run.events[moment]? with
      | some (host, event) => (run.world moment).step host event
      | none => run.world moment := by
  unfold world World.run
  rw [List.take_add_one, List.foldl_append]
  cases run.events[moment]? <;> rfl

theorem next (moment : Nat) :
    (∃ event, run.event? moment = some event ∧
        (run.world moment).Happens event (run.world (moment + 1))) ∨
      run.world (moment + 1) = run.world moment ∧
        ∀ event, run.event? moment = some event → ¬ (run.world moment).Due event := by
  rw [world_succ, event?]
  cases run.events[moment]? with
  | none => exact Or.inr ⟨rfl, by simp⟩
  | some both =>
    rcases both with ⟨host, event⟩
    rcases World.step_cases host (run.world moment) event with happens | ⟨same, undue⟩
    · exact Or.inl ⟨event, rfl, happens⟩
    · refine Or.inr ⟨same, ?_⟩
      rintro _ ⟨⟩
      exact undue

variable {run}

theorem happens {moment : Nat} {event : Event} (occurs : run.event? moment = some event)
    (due : (run.world moment).Due event) :
    (run.world moment).Happens event (run.world (moment + 1)) := by
  rcases run.next moment with ⟨other, same, happens⟩ | ⟨_, undue⟩
  · obtain rfl := Option.some.inj (occurs.symm.trans same)
    exact happens
  · exact absurd due (undue event occurs)

/-- What holds at a moment and is preserved by every event holds from then on. -/
theorem holds_since {P : World → Prop} {first : Nat} (now : P (run.world first))
    (preserved : ∀ moment event, first ≤ moment → run.event? moment = some event →
      (run.world moment).Happens event (run.world (moment + 1)) →
      P (run.world moment) → P (run.world (moment + 1)))
    {moment : Nat} (since : first ≤ moment) : P (run.world moment) := by
  -- Where nothing happens the world stays the same, so only events matter.
  induction moment, since using Nat.le_induction with
  | base => exact now
  | succ moment since ih =>
    rcases run.next moment with ⟨event, occurs, happens⟩ | ⟨same, _⟩
    · exact preserved moment event since occurs happens ih
    · rwa [same]

theorem later (run : Run) {first last : Nat} (order : first ≤ last) :
    (run.world first).analyzer.Later (run.world last).analyzer :=
  holds_since (P := fun world => (run.world first).analyzer.Later world.analyzer) (.refl _)
    (fun _ _ _ _ happens before => before.trans happens.later) order

theorem working_eq (moment : Nat) : (run.world moment).analyzer.working = run.working :=
  (run.later (Nat.zero_le moment)).working

theorem stage?_isSome_since {first last index : Nat} (order : first ≤ last)
    (present : ((run.world first).stage? index).isSome) :
    ((run.world last).stage? index).isSome :=
  holds_since (P := fun world => (world.stage? index).isSome) present
    (fun _ _ _ _ happens before => happens.stage?_isSome before) order

theorem tasks_length_mono (run : Run) {first last : Nat} (order : first ≤ last) :
    (run.world first).tasks.length ≤ (run.world last).tasks.length := by
  by_contra fewer
  have still := stage?_isSome_since order (World.stage?_isSome_iff.mpr (Nat.lt_of_not_le fewer))
  rw [World.stage?_isSome_iff] at still
  omega

theorem lt_of_stage? {first last index : Nat} {stage : Stage}
    (absent : (run.world first).tasks.length ≤ index)
    (present : (run.world last).stage? index = some stage) : first < last := by
  by_contra order
  have fewer := run.tasks_length_mono (Nat.le_of_not_lt order)
  have called := World.stage?_isSome_iff.mp (Option.isSome_of_eq_some present)
  omega

theorem stage?_zero (run : Run) (task : Nat) : (run.world 0).stage? task = none := by
  simp [world, World.run, start, World.stage?]

def AdvancesTo (run : Run) (moment task : Nat) (stage : Stage) : Prop :=
  ∃ event origin, run.event? moment = some event ∧ (run.world moment).Moves task event origin ∧
    (run.world moment).analyzer.Advance origin (run.world (moment + 1)).analyzer stage ∧
    (run.world (moment + 1)).stage? task = some stage

/-- A task comes to its stage by an advance, unless it is only told there that a build has ended. -/
theorem advancesTo_of_stage? {moment task : Nat} {stage : Stage}
    (settled : ∀ goal outcome, stage ≠ .woken goal outcome)
    (present : (run.world moment).stage? task = some stage) :
    ∃ earlier < moment, run.AdvancesTo earlier task stage := by
  induction moment with
  | zero =>
    rw [stage?_zero] at present
    cases present
  | succ moment ih =>
    -- If it was in the stage before the last event, it came there earlier.
    have still (before : (run.world moment).stage? task = some stage) :
        ∃ earlier < moment + 1, run.AdvancesTo earlier task stage := by
      obtain ⟨earlier, order, advances⟩ := ih before
      exact ⟨earlier, by omega, advances⟩
    rcases run.next moment with ⟨event, occurs, happens⟩ | ⟨same, _⟩
    · rcases happens.stage_cases present with
        before | ⟨goal, _, _, heard, _⟩ | ⟨origin, moves, advance⟩
      · exact still before
      · exact absurd heard (settled goal _)
      · exact ⟨moment, Nat.lt_succ_self moment, event, origin, occurs, moves, advance, present⟩
    · rw [same] at present
      exact still present

end Run

end ModuleScope
