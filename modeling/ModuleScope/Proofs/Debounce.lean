import Mathlib
import ModuleScope.Watcher
import ModuleScope.Proofs.BuildLifecycle
import ModuleScope.Proofs.Lookup

/-!
Changes that wait until their file is quiet. A watcher and the analyzer that it feeds go through any
sequence of notifications, of time passing, and of whatever else the analyzer does meanwhile, failing
included. What is handed over is told by the notifications alone: each that no other of its path follows
within the quiet period, once, in their order.
-/
namespace ModuleScope

namespace World

def handed (world : World) : List Change := world.tasks.filterMap Task.change

theorem handed_call (world : World) (call : Call) :
    (world.call call).handed = world.handed ++ call.change?.toList := by
  rw [handed, World.call, List.filterMap_append, handed]
  cases call.change? <;> rfl

theorem handed_apply {world : World} {index : Nat} {task : Task}
    (present : world.tasks[index]? = some task) (move : Move) :
    (world.apply index task move).handed = world.handed := by
  have changes : (world.apply index task move).tasks.map Task.change =
      world.tasks.map Task.change := by
    apply List.ext_getElem?
    intro other
    simpa [change?] using change?_apply present move other
  have same := congrArg (List.filterMap id) changes
  rwa [List.filterMap_map, List.filterMap_map] at same

/-- Whatever the analyzer does, and whether it fails or not, it hands nothing over to itself. -/
theorem handed_step (world : World) (host : Host) {event : Event}
    (own : ∀ change, event ≠ .call (.apply change)) :
    (world.step host event).handed = world.handed := by
  cases event with
  | call call =>
    rw [step, handed_call]
    cases call with
    | apply change => exact absurd rfl (own change)
    | _ => exact List.append_nil _
  | build =>
    rw [step, World.build]
    split
    · rfl
    · dsimp only
      split
      · have kept (outcome : Except Failure Unit) :
            (fun task => (hear outcome task).change) = Task.change := by
          funext task
          unfold hear
          split <;> rfl
        simp only [handed, List.filterMap_map, Function.comp_def, kept]
      · rfl
  | work moved =>
    rw [step, World.work]
    split
    · rfl
    · next task present =>
      split
      · exact handed_apply present _
      · exact handed_apply present _
      · rfl
  | wake moved =>
    rw [step, World.wake]
    split
    · rfl
    · next task present =>
      split
      · exact handed_apply present _
      · rfl

theorem handed_foldl (world : World) (changes : List Change) :
    (changes.foldl (fun world change => world.call (.apply change)) world).handed =
      world.handed ++ changes := by
  induction changes generalizing world with
  | nil => simp
  | cons change rest ih =>
    rw [List.foldl_cons, ih, handed_call]
    simp [Call.change?]

end World

structure Notified where
  time : Nat
  change : Change
deriving DecidableEq

def Notified.pending (debounce : Nat) (notified : Notified) : Pending :=
  ⟨notified.change, notified.time + debounce⟩

/-- Whether a later notification is of the same path and within the quiet period of an earlier one. -/
def Notified.disturbs (debounce : Nat) (later earlier : Notified) : Bool :=
  later.change.path == earlier.change.path && later.time < earlier.time + debounce

/-- The notifications that none of those after them disturbs. -/
def undisturbed (debounce : Nat) : List Notified → List Notified
  | [] => []
  | each :: later =>
    if later.any fun other => other.disturbs debounce each then undisturbed debounce later
    else each :: undisturbed debounce later

section Undisturbed

variable {debounce : Nat}

theorem undisturbed_sublist (notified : List Notified) :
    (undisturbed debounce notified).Sublist notified := by
  induction notified with
  | nil => exact List.Sublist.refl _
  | cons each later ih =>
    rw [undisturbed]
    split
    · exact ih.cons each
    · exact ih.cons_cons each

theorem undisturbed_concat (notified : List Notified) (last : Notified) :
    undisturbed debounce (notified ++ [last]) =
      (undisturbed debounce notified).filter (fun each => !last.disturbs debounce each) ++ [last] := by
  induction notified with
  | nil => rfl
  | cons each later ih =>
    rw [List.cons_append, undisturbed, undisturbed, List.any_append, ih]
    cases later.any fun other => other.disturbs debounce each with
    | true => simp
    | false => cases now : last.disturbs debounce each <;> simp [now]

theorem undisturbed_filter (path : String) (notified : List Notified) :
    (undisturbed debounce notified).filter (fun each => each.change.path == path) =
      undisturbed debounce (notified.filter fun each => each.change.path == path) := by
  induction notified with
  | nil => rfl
  | cons each later ih =>
    by_cases same : each.change.path = path
    · have disturbing : (later.filter fun other => other.change.path == path).any
            (fun other => other.disturbs debounce each) =
          later.any fun other => other.disturbs debounce each := by
        rw [List.any_filter]
        congr 1
        funext other
        rw [Notified.disturbs, same]
        cases other.change.path == path <;> rfl
      rw [List.filter_cons_of_pos (by simpa using same), undisturbed, undisturbed, disturbing]
      split
      · exact ih
      · rw [List.filter_cons_of_pos (by simpa using same), ih]
    · rw [List.filter_cons_of_neg (by simpa using same), undisturbed, ← ih]
      split
      · rfl
      · rw [List.filter_cons_of_neg (by simpa using same)]

theorem filter_append_between {α : Type} {measure : α → Nat} {items : List α}
    (ordered : items.Pairwise fun first second => measure first ≤ measure second) {low high : Nat}
    (limits : low ≤ high) :
    items.filter (fun each => measure each ≤ low) ++
        (items.filter fun each => low < measure each).filter (fun each => measure each ≤ high) =
      items.filter fun each => measure each ≤ high := by
  induction items with
  | nil => rfl
  | cons first rest ih =>
    obtain ⟨least, rest_ordered⟩ := List.pairwise_cons.mp ordered
    by_cases early : measure first ≤ low
    · have below : ¬ low < measure first := by omega
      have within : measure first ≤ high := by omega
      simpa [early, below, within] using ih rest_ordered
    · -- Nothing that follows is up to the earlier limit either.
      have none : rest.filter (fun each => measure each ≤ low) = [] := by
        rw [List.filter_eq_nil_iff]
        intro each member
        have := least each member
        simp
        omega
      have following := ih rest_ordered
      rw [none, List.nil_append] at following
      have above : low < measure first := by omega
      rw [List.filter_cons_of_neg (by simpa using early), none, List.nil_append,
        List.filter_cons_of_pos (by simpa using above), List.filter_cons, List.filter_cons, following]

end Undisturbed

def waiting (debounce now : Nat) (notified : List Notified) : List Notified :=
  (undisturbed debounce notified).filter fun each => now < each.time + debounce

def settled (debounce now : Nat) (notified : List Notified) : List Notified :=
  (undisturbed debounce notified).filter fun each => each.time + debounce ≤ now

section Settled

variable {debounce now : Nat} {notified : List Notified}

/-- What a notification disturbs is just what waits of its path. -/
theorem waiting_concat (positive : 0 < debounce) (change : Change) :
    waiting debounce now (notified ++ [⟨now, change⟩]) =
      (waiting debounce now notified).filter (fun each => each.change.path != change.path) ++
        [⟨now, change⟩] := by
  rw [waiting, undisturbed_concat, List.filter_append,
    List.filter_cons_of_pos (by simpa using positive), List.filter_nil, List.filter_filter, waiting,
    List.filter_filter]
  congr 1
  apply List.filter_congr
  intro each _
  by_cases same : change.path = each.change.path
  · simp [Notified.disturbs, same]
  · have apart : (change.path == each.change.path) = false := by simpa using same
    have apart' : (each.change.path != change.path) = true := by simpa using Ne.symm same
    simp [Notified.disturbs, apart, apart']

theorem settled_concat (positive : 0 < debounce) (change : Change) :
    settled debounce now (notified ++ [⟨now, change⟩]) = settled debounce now notified := by
  rw [settled, undisturbed_concat, List.filter_append, List.filter_filter,
    List.filter_cons_of_neg (by simpa using positive.ne'), List.filter_nil, List.append_nil, settled]
  apply List.filter_congr
  intro each _
  by_cases due : each.time + debounce ≤ now
  · have past : ¬ now < each.time + debounce := by omega
    simp [Notified.disturbs, due, past]
  · simp [due]

theorem waiting_later (duration : Nat) :
    waiting debounce (now + duration) notified =
      (waiting debounce now notified).filter fun each => now + duration < each.time + debounce := by
  rw [waiting, waiting, List.filter_filter]
  apply List.filter_congr
  intro each _
  simp
  omega

theorem settled_later (ordered : notified.Pairwise fun first second => first.time ≤ second.time)
    (duration : Nat) :
    settled debounce (now + duration) notified = settled debounce now notified ++
      (waiting debounce now notified).filter fun each => each.time + debounce ≤ now + duration := by
  have deadlines : (undisturbed debounce notified).Pairwise fun first second =>
      first.time + debounce ≤ second.time + debounce :=
    (ordered.sublist (undisturbed_sublist notified)).imp fun order => by omega
  exact (filter_append_between deadlines (Nat.le_add_right now duration)).symm

end Settled

inductive Happening where
  | notify (change : Change)
  /-- Time passes. What falls due is on its way to the analyzer. -/
  | pass (duration : Nat)
  | advance (duration : Nat)
  /-- The analyzer does something else than to take a change from the watcher. -/
  | analyze (host : Host) (event : Event) (own : ∀ change, event ≠ .call (.apply change))

namespace Happening

def duration : Happening → Nat
  | .pass duration => duration
  | .advance duration => duration
  | _ => 0

def notified (now : Nat) : Happening → List Notified
  | .notify change => if isWatched change.path then [⟨now, change⟩] else []
  | _ => []

def concerns (path : String) : Happening → Bool
  | .notify change => change.path == path
  | _ => true

end Happening

def notifications (now : Nat) : List Happening → List Notified
  | [] => []
  | happening :: rest =>
    happening.notified now ++ notifications (now + happening.duration) rest

structure Watch where
  watcher : Watcher
  world : World

namespace Watch

def start (debounce : Nat) (analyzer : Analyzer) : Watch := ⟨{ debounce }, { analyzer }⟩

def step (watch : Watch) : Happening → Watch
  | .notify change => { watch with watcher := watch.watcher.notify change }
  | .pass duration => { watch with watcher := watch.watcher.pass duration }
  | .advance duration =>
    let (watcher, changes) := watch.watcher.advance duration
    ⟨watcher, changes.foldl (fun world change => world.call (.apply change)) watch.world⟩
  | .analyze host event _ => { watch with world := watch.world.step host event }

def run (watch : Watch) (happenings : List Happening) : Watch := happenings.foldl step watch

def dispose (watch : Watch) : Watch := { watch with watcher := watch.watcher.dispose }

/-- The changes that have been handed over, and those that have fallen due and are on their way. -/
def underway (watch : Watch) : List Change := watch.world.handed ++ watch.watcher.due

theorem now_step (watch : Watch) (happening : Happening) :
    (watch.step happening).watcher.now = watch.watcher.now + happening.duration := by
  cases happening with
  | notify change =>
    rw [step, Watcher.notify]
    split <;> rfl
  | _ => rfl

theorem handed_advance (watch : Watch) (duration : Nat) :
    (watch.step (.advance duration)).world.handed = (watch.step (.pass duration)).underway :=
  World.handed_foldl _ _

theorem underway_advance (watch : Watch) (duration : Nat) :
    (watch.step (.advance duration)).underway = (watch.step (.pass duration)).underway := by
  rw [← handed_advance]
  exact List.append_nil _

theorem underway_analyze (watch : Watch) (host : Host) {event : Event}
    (own : ∀ change, event ≠ .call (.apply change)) :
    (watch.step (.analyze host event own)).underway = watch.underway :=
  congrArg (· ++ watch.watcher.due) (watch.world.handed_step host own)

/-- The pending changes and those underway, accounted for by the notifications so far. -/
structure Accounts (watch : Watch) (debounce : Nat) (notified : List Notified) : Prop where
  period : watch.watcher.debounce = debounce
  past : ∀ each ∈ notified, each.time ≤ watch.watcher.now
  ordered : notified.Pairwise fun first second => first.time ≤ second.time
  pending : watch.watcher.pending =
    (waiting debounce watch.watcher.now notified).map (Notified.pending debounce)
  underway : watch.underway = (settled debounce watch.watcher.now notified).map Notified.change
  single : watch.watcher.pendingPaths.Nodup

namespace Accounts

variable {watch : Watch} {debounce : Nat} {notified : List Notified}

theorem notify (accounts : watch.Accounts debounce notified) (positive : 0 < debounce)
    {change : Change} (watched : isWatched change.path = true) :
    (watch.step (.notify change)).Accounts debounce
      (notified ++ [⟨watch.watcher.now, change⟩]) := by
  rw [step, Watcher.notify, if_pos watched]
  refine ⟨accounts.period, ?_, ?_, ?_, ?_, ?_⟩
  · intro each member
    rcases List.mem_append.mp member with old | new
    · exact accounts.past each old
    · rw [List.mem_singleton.mp new]
  · rw [List.pairwise_append]
    refine ⟨accounts.ordered, List.pairwise_singleton _ _, fun each member last added => ?_⟩
    rw [List.mem_singleton.mp added]
    exact accounts.past each member
  · dsimp only
    rw [waiting_concat positive, accounts.pending, accounts.period, List.map_append, List.filter_map]
    rfl
  · dsimp only
    rw [settled_concat positive, ← accounts.underway]
    rfl
  · exact nodup_keys_replace accounts.single (⟨change, _⟩ : Pending)

theorem pass (accounts : watch.Accounts debounce notified) (duration : Nat) :
    (watch.step (.pass duration)).Accounts debounce notified := by
  refine ⟨accounts.period, ?_, accounts.ordered, ?_, ?_, ?_⟩
  · intro each member
    exact (accounts.past each member).trans (Nat.le_add_right _ _)
  · dsimp only [step, Watcher.pass]
    rw [waiting_later, accounts.pending, List.filter_map]
    congr 2
    funext each
    rw [Bool.eq_iff_iff, Function.comp_apply, Bool.not_eq_true', decide_eq_true_iff]
    exact decide_eq_false_iff_not.trans Nat.not_le
  · dsimp only [step, Watcher.pass, Watch.underway]
    rw [settled_later accounts.ordered, List.map_append, ← accounts.underway, accounts.pending,
      List.filter_map, List.map_map, Watch.underway, List.append_assoc]
    rfl
  · exact accounts.single.sublist (List.filter_sublist.map _)

theorem step (accounts : watch.Accounts debounce notified) (positive : 0 < debounce)
    (happening : Happening) :
    (watch.step happening).Accounts debounce
      (notified ++ happening.notified watch.watcher.now) := by
  cases happening with
  | notify change =>
    rw [Happening.notified]
    split
    · next watched => exact accounts.notify positive watched
    · next unwatched =>
      rw [Watch.step, Watcher.notify, if_neg unwatched, List.append_nil]
      exact accounts
  | pass duration =>
    simp only [Happening.notified, List.append_nil]
    exact accounts.pass duration
  | advance duration =>
    have passed := accounts.pass duration
    simp only [Happening.notified, List.append_nil]
    refine ⟨passed.period, passed.past, passed.ordered, passed.pending, ?_, passed.single⟩
    exact (watch.underway_advance duration).trans passed.underway
  | analyze host event own =>
    simp only [Happening.notified, List.append_nil]
    refine ⟨accounts.period, accounts.past, accounts.ordered, accounts.pending, ?_, accounts.single⟩
    exact (watch.underway_analyze host own).trans accounts.underway

theorem run (accounts : watch.Accounts debounce notified) (positive : 0 < debounce)
    (happenings : List Happening) :
    (watch.run happenings).Accounts debounce
      (notified ++ notifications watch.watcher.now happenings) := by
  induction happenings generalizing watch notified with
  | nil =>
    rw [notifications, List.append_nil]
    exact accounts
  | cons happening rest ih =>
    have following := ih (accounts.step positive happening)
    rwa [now_step, List.append_assoc] at following

end Accounts

theorem start_accounts (debounce : Nat) (analyzer : Analyzer) :
    (start debounce analyzer).Accounts debounce [] :=
  ⟨rfl, by simp, List.Pairwise.nil, rfl, rfl, List.nodup_nil⟩

theorem underway_idle {watch : Watch} (idle : watch.watcher.pending = []) (rest : List Happening)
    (silent : ∀ change, .notify change ∉ rest) :
    (watch.run rest).watcher.pending = [] ∧ (watch.run rest).underway = watch.underway := by
  induction rest generalizing watch with
  | nil => exact ⟨idle, rfl⟩
  | cons happening rest ih =>
    have later (change : Change) : .notify change ∉ rest :=
      fun member => silent change (List.mem_cons_of_mem _ member)
    have passes (duration : Nat) : (watch.step (.pass duration)).watcher.pending = [] ∧
        (watch.step (.pass duration)).underway = watch.underway := by
      simp [step, Watcher.pass, idle, Watch.underway]
    cases happening with
    | notify change => exact absurd List.mem_cons_self (silent change)
    | pass duration =>
      obtain ⟨pending, underway⟩ := ih (passes duration).1 later
      exact ⟨pending, underway.trans (passes duration).2⟩
    | advance duration =>
      have idle : (watch.step (.advance duration)).watcher.pending = [] := (passes duration).1
      obtain ⟨pending, underway⟩ := ih idle later
      exact ⟨pending, (underway.trans (watch.underway_advance duration)).trans (passes duration).2⟩
    | analyze host event own =>
      have idle : (watch.step (.analyze host event own)).watcher.pending = [] := idle
      obtain ⟨pending, underway⟩ := ih idle later
      exact ⟨pending, underway.trans (watch.underway_analyze host own)⟩

theorem notifications_filter (path : String) (now : Nat) (happenings : List Happening) :
    notifications now (happenings.filter fun happening => happening.concerns path) =
      (notifications now happenings).filter fun each => each.change.path == path := by
  induction happenings generalizing now with
  | nil => rfl
  | cons happening rest ih =>
    rw [notifications, List.filter_append, ← ih]
    cases concerns : happening.concerns path with
    | true =>
      rw [List.filter_cons_of_pos concerns, notifications]
      congr 1
      cases happening with
      | notify change =>
        have same : change.path = path := by simpa [Happening.concerns] using concerns
        rw [Happening.notified]
        split <;> simp [same]
      | _ => rfl
    | false =>
      rw [List.filter_cons_of_neg (by simp [concerns])]
      cases happening with
      | notify change =>
        have none : ((Happening.notify change).notified now).filter
            (fun each => each.change.path == path) = [] := by
          rw [Happening.notified]
          split
          · exact List.filter_cons_of_neg (by simpa [Happening.concerns] using concerns)
          · rfl
        rw [none]
        rfl
      | _ => cases concerns

theorem now_filter (path : String) {watch other : Watch}
    (same : watch.watcher.now = other.watcher.now) (happenings : List Happening) :
    (watch.run (happenings.filter fun happening => happening.concerns path)).watcher.now =
      (other.run happenings).watcher.now := by
  induction happenings generalizing watch other with
  | nil => exact same
  | cons happening rest ih =>
    cases concerns : happening.concerns path with
    | true =>
      rw [List.filter_cons_of_pos concerns]
      exact ih (by rw [now_step, now_step, same])
    | false =>
      -- Only notifications are left out, and they take no time.
      have instant : happening.duration = 0 := by
        cases happening with
        | notify change => rfl
        | _ => cases concerns
      rw [List.filter_cons_of_neg (by simp [concerns])]
      exact ih (by rw [now_step, same, instant, Nat.add_zero])

/-- At every moment the changes handed over or on their way are, in the order of their notifications,
those of the undisturbed ones whose quiet period is over: in the end all of them, but after a disposal
no others. Notifications of other paths make no difference, and no path has two pending changes. -/
theorem run_hands_over_undisturbed (debounce : Nat) (positive : 0 < debounce) (analyzer : Analyzer)
    (happenings : List Happening) :
    let watch := (start debounce analyzer).run happenings
    let told := notifications 0 happenings
    watch.underway = (settled debounce watch.watcher.now told).map Notified.change ∧
    (∀ duration, debounce ≤ duration →
      (watch.step (.advance duration)).world.handed =
        (undisturbed debounce told).map Notified.change) ∧
    (∀ rest duration, (∀ change, .notify change ∉ rest) →
      ((watch.dispose.run rest).step (.advance duration)).world.handed =
        (settled debounce watch.watcher.now told).map Notified.change) ∧
    (∀ path, watch.underway.filter (fun change => change.path == path) =
      ((start debounce analyzer).run (happenings.filter fun happening =>
        happening.concerns path)).underway) ∧
    watch.watcher.pendingPaths.Nodup := by
  intro watch told
  have accountsOf (happenings : List Happening) :
      ((start debounce analyzer).run happenings).Accounts debounce (notifications 0 happenings) :=
    (start_accounts debounce analyzer).run positive happenings
  have accounts : watch.Accounts debounce told := accountsOf happenings
  refine ⟨accounts.underway, ?_, ?_, ?_, accounts.single⟩
  · intro duration enough
    rw [handed_advance, (accounts.pass duration).underway, now_step, settled]
    congr 1
    rw [List.filter_eq_self]
    intro each member
    have past := accounts.past each ((undisturbed_sublist told).subset member)
    have duration_eq : (Happening.pass duration).duration = duration := rfl
    rw [duration_eq, decide_eq_true_iff]
    omega
  · intro rest duration silent
    have idle : watch.dispose.watcher.pending = [] := rfl
    obtain ⟨pending, underway⟩ := underway_idle idle rest silent
    have last := underway_idle pending [.pass duration] (by simp)
    rw [handed_advance]
    exact last.2.trans (underway.trans accounts.underway)
  · intro path
    have now : ((start debounce analyzer).run (happenings.filter fun happening =>
        happening.concerns path)).watcher.now = watch.watcher.now := now_filter path rfl happenings
    rw [accounts.underway, (accountsOf _).underway, notifications_filter, now, settled, settled,
      ← undisturbed_filter, List.filter_map, List.filter_filter, List.filter_filter]
    congr 2
    funext each
    exact Bool.and_comm _ _

def unavailable : Host :=
  ⟨fun path => .error (.notFound path), fun _ _ => .error (.unavailable "down")⟩

/-- A module file changes twice and another file once; the rebuild fails, and the module file changes
again. -/
def failingRebuild : List Happening :=
  [.notify ⟨"/w/a.module.ts", .created⟩, .pass 100, .notify ⟨"/w/a.module.ts", .changed⟩,
    .notify ⟨"/w/b.ts", .deleted⟩, .advance 300, .analyze unavailable .build (by simp),
    .analyze unavailable .build (by simp), .analyze unavailable (.wake 0) (by simp),
    .notify ⟨"/w/a.module.ts", .deleted⟩]

/-- The change that failed is handed over once, and the next one as if it had not failed. -/
theorem run_hands_over_failingRebuild :
    let watch := (start 300 (.create ⟨1, ["w"]⟩ (.empty 1) true)).run failingRebuild
    0 < 300 ∧
      .changeFailed "/w/a.module.ts" (.unavailable "down") ∈ watch.world.notices ∧
      watch.world.handed = [⟨"/w/a.module.ts", .changed⟩, ⟨"/w/b.ts", .deleted⟩] ∧
      (watch.step (.advance 300)).world.handed =
        [⟨"/w/a.module.ts", .changed⟩, ⟨"/w/b.ts", .deleted⟩, ⟨"/w/a.module.ts", .deleted⟩] := by
  intro watch
  have handed := (run_hands_over_undisturbed 300 (by decide) (.create ⟨1, ["w"]⟩ (.empty 1) true)
    failingRebuild).2.1 300 (le_refl 300)
  refine ⟨by decide, by decide, by decide, handed.trans ?_⟩
  decide

end Watch

end ModuleScope
