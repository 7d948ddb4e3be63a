import Mathlib
import ModuleScope.Proofs.Runs

/-!
Where answers come from. A query that is not kept reads the generation, opens its document, goes on to
search with the graph of the moment and answers; every answer that a task gives was found in this way,
by the task itself or by one that kept it.
-/
namespace ModuleScope

/-- The course of a query that is searched for: its task and its ticket, and the moments at which it
reads the generation, opens its document, takes the graph and answers. -/
structure Course where
  task : Nat
  ticket : Ticket
  read : Nat
  opened : Nat
  searched : Nat
  answered : Nat

namespace Run

section Moments

variable (run : Run) (task moment : Nat) (ticket : Ticket)

/-- A task looks its query up in vain; what it reads, the generation among it, is its ticket. -/
def Reads : Prop :=
  ((run.world moment).analyzer.lookUp ticket.query).2 = .inr ticket ∧
    (run.world (moment + 1)).stage? task = some (.locating ticket ticket.query.locate)

def Opens : Prop :=
  run.event? moment = some (.work task) ∧ ∃ next,
    (run.world moment).stage? task = some (.locating ticket (.opening ticket.query.path next))

def Searches : Prop :=
  run.event? moment = some (.work task) ∧
    (∃ work, (run.world moment).stage? task = some (.locating ticket work)) ∧
    ∀ work, (run.world (moment + 1)).stage? task ≠ some (.locating ticket work)

def Ends (found : SourcedAnswer) : Prop :=
  run.event? moment = some (.work task) ∧
    (run.world (moment + 1)).stage? task = some (.finished (.ok (some found)))

def Hits (found : SourcedAnswer) : Prop :=
  (∃ query : Query, (run.world moment).analyzer.cache.peek? query.key = some found) ∧
    (run.world (moment + 1)).stage? task = some (.finished (.ok (some found)))

end Moments

end Run

namespace Course

structure Searches (course : Course) (run : Run) : Prop where
  reads : run.Reads course.task course.read course.ticket
  opens : run.Opens course.task course.opened course.ticket
  searches : run.Searches course.task course.searched course.ticket
  read_lt_opened : course.read < course.opened
  opened_le_searched : course.opened ≤ course.searched

structure Computes (course : Course) (run : Run) (query : Query) (found : SourcedAnswer) : Prop
    extends course.Searches run where
  asks : course.ticket.query = query
  ends : run.Ends course.task course.answered found
  searched_le_answered : course.searched ≤ course.answered
  source : found.provenance =
    ⟨course.ticket.asked, (run.world course.searched).analyzer.graph.map BuiltGraph.began⟩

end Course

namespace Run

variable {run : Run}

/-- A task that locates its symbol has read the generation, and it has opened its document unless it
is just about to. -/
def Locates (run : Run) (moment task : Nat) (ticket : Ticket) (work : Work Located) : Prop :=
  ∃ read, read < moment ∧ run.Reads task read ticket ∧
    (work = ticket.query.locate ∨
      ∃ opened, read < opened ∧ opened < moment ∧ run.Opens task opened ticket)

theorem Locates.opens {moment task : Nat} {ticket : Ticket} {work : Work Located}
    (locates : run.Locates moment task ticket work)
    (present : (run.world moment).stage? task = some (.locating ticket work))
    (occurs : run.event? moment = some (.work task)) :
    ∃ read opened, run.Reads task read ticket ∧ read < opened ∧ opened ≤ moment ∧
      run.Opens task opened ticket := by
  obtain ⟨read, before, reads, rfl | ⟨opened, after, earlier, opens⟩⟩ := locates
  · exact ⟨read, moment, reads, before, le_rfl, occurs, _, present⟩
  · exact ⟨read, opened, reads, after, earlier.le, opens⟩

theorem locates_of_locating {moment task : Nat} {ticket : Ticket} {work : Work Located}
    (present : (run.world moment).stage? task = some (.locating ticket work)) :
    run.Locates moment task ticket work := by
  -- From one wait of the task to the one before, back to the look-up that missed.
  induction moment using Nat.strong_induction_on generalizing work with
  | _ moment ih =>
    obtain ⟨earlier, order, event, origin, occurs, moves, advance, here⟩ :=
      advancesTo_of_stage? (by simp) present
    rcases advance.locating_cases with ⟨_, _, _, _, looked, rfl⟩ | ⟨before, rfl⟩
    · exact ⟨earlier, order, ⟨looked, here⟩, Or.inl rfl⟩
    · cases moves with
      | resumes held due =>
        obtain rfl := Option.some.inj due
        obtain ⟨read, opened, reads, after, bound, opens⟩ := (ih earlier order held).opens held occurs
        exact ⟨read, by omega, reads, Or.inr ⟨opened, after, by omega, opens⟩⟩

theorem searches_of_locating {moment task : Nat} {ticket : Ticket} {work : Work Located}
    (occurs : run.event? moment = some (.work task))
    (present : (run.world moment).stage? task = some (.locating ticket work))
    (left : ∀ rest, (run.world (moment + 1)).stage? task ≠ some (.locating ticket rest))
    (answered : Nat) :
    ∃ course : Course, course.Searches run ∧ course.task = task ∧ course.ticket = ticket ∧
      course.searched = moment ∧ course.answered = answered := by
  obtain ⟨read, opened, reads, order, bound, opens⟩ :=
    (locates_of_locating present).opens present occurs
  exact ⟨⟨task, ticket, read, opened, moment, answered⟩,
    ⟨reads, opens, ⟨occurs, ⟨work, present⟩, left⟩, order, bound⟩, rfl, rfl, rfl, rfl⟩

def LeadsTo (run : Run) (course : Course) (task : Nat) (ticket : Ticket) (answered : Nat) : Prop :=
  course.Searches run ∧ course.task = task ∧ course.searched ≤ answered ∧
    course.answered = answered ∧
    ticket = (run.world course.searched).analyzer.seeGraph course.ticket

theorem leadsTo_of_answering {moment answered task : Nat} {ticket : Ticket} {work : Work Answer}
    (present : (run.world moment).stage? task = some (.answering ticket work))
    (order : moment ≤ answered) : ∃ course, run.LeadsTo course task ticket answered := by
  induction moment using Nat.strong_induction_on generalizing work with
  | _ moment ih =>
    obtain ⟨earlier, before, event, origin, occurs, moves, advance, here⟩ :=
      advancesTo_of_stage? (by simp) present
    cases advance.answering_cases with
    | first =>
      cases moves with
      | resumes held due =>
        obtain rfl := Option.some.inj due
        obtain ⟨course, searches, same, rfl, rfl, last⟩ :=
          searches_of_locating occurs held (by simp [here]) answered
        exact ⟨course, searches, same, by omega, last, rfl⟩
    | further =>
      cases moves with
      | resumes held due => exact ih earlier before held (by omega)

theorem computes_of_search {moment task : Nat} {event : Event} {origin : Origin} {ticket : Ticket}
    {answer : Answer} (occurs : run.event? moment = some event)
    (moves : (run.world moment).Moves task event origin)
    (searches : (run.world moment).analyzer.Searches origin ticket)
    (present : (run.world (moment + 1)).stage? task =
      some (.finished (.ok (some (ticket.sourced answer))))) :
    ∃ course : Course, course.Computes run ticket.query (ticket.sourced answer) ∧
      course.task = task ∧ course.answered = moment ∧
      course.ticket.generation = ticket.generation := by
  have leads : ∃ course, run.LeadsTo course task ticket moment ∧
      run.event? moment = some (.work task) := by
    cases searches with
    | first =>
      cases moves with
      | resumes before due =>
        obtain rfl := Option.some.inj due
        obtain ⟨course, searches, same, rfl, rfl, last⟩ :=
          searches_of_locating occurs before (by simp [present]) moment
        exact ⟨course, ⟨searches, same, le_rfl, last, rfl⟩, occurs⟩
    | further =>
      cases moves with
      | resumes before due =>
        obtain rfl := Option.some.inj due
        obtain ⟨course, leads⟩ := leadsTo_of_answering before le_rfl
        exact ⟨course, leads, occurs⟩
  obtain ⟨course, ⟨come, rfl, order, rfl, rfl⟩, worked⟩ := leads
  exact ⟨course, ⟨come, rfl, ⟨worked, present⟩, order, rfl⟩, rfl, rfl, rfl⟩

/-- Every answer that a task has given was found by its own search or in the cache. -/
theorem answer_cases {moment task : Nat} {found : SourcedAnswer}
    (present : (run.world moment).stage? task = some (.finished (.ok (some found)))) :
    (∃ (course : Course) (query : Query), course.Computes run query found ∧ course.task = task) ∨
      ∃ hit, run.Hits task hit found := by
  obtain ⟨earlier, _, event, origin, occurs, moves, advance, here⟩ :=
    advancesTo_of_stage? (by simp) present
  rcases advance.found_cases with hit | ⟨ticket, answer, searches, rfl⟩
  · exact Or.inr ⟨earlier, hit, here⟩
  · obtain ⟨course, computes, same, _⟩ := computes_of_search occurs moves searches here
    exact Or.inl ⟨course, ticket.query, computes, same⟩

end Run

end ModuleScope
