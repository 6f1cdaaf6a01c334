import Bringup.Proofs.Course
import Bringup.Proofs.Index

namespace Bringup

/-! The managers that can come about.

A manager starts without steps, and comes about by whatever threads do at the same time and by
whatever a process performs one operation after the other (`Manager.Reachable`). Each access of
a thread and each move of a process keeps two facts: every name leads to its step, and no step
is pending once the flag is set. So both hold of every manager that can come about
(`Manager.Reachable.intact`). -/

namespace Manager

structure Intact (manager : Manager) : Prop where
  indexed : manager.Indexed
  gate : manager.Gate

variable {manager : Manager}

theorem Gate.of_unready (unready : manager.ready = false) : manager.Gate := by
  intro ready
  rw [unready] at ready
  cases ready

/-- While a step is pending, the flag is not set. -/
theorem Gate.unready (gate : manager.Gate) {position : Nat} {step : Step}
    (stands : manager.steps[position]? = some step) (pending : step.completed = false) :
    manager.ready = false := by
  cases ready : manager.ready with
  | false => rfl
  | true =>
      refine absurd ?_ (gate ready position)
      rw [completed?_of_stands stands, pending]

theorem Gate.completed (gate : manager.Gate) (ready : manager.ready = true) {step : Step}
    (member : step ∈ manager.steps) : step.completed = true := by
  rcases List.mem_iff_getElem?.mp member with ⟨position, stands⟩
  cases completed : step.completed with
  | true => rfl
  | false =>
      rw [gate.unready stands completed] at ready
      cases ready

theorem enlist_unready (unready : manager.ready = false) (name : String) (action : Action) :
    (manager.enlist name action).ready = false := by
  cases known : manager.position? name with
  | none => rw [enlist_of_free known]
  | some position => rwa [enlist_of_taken known]

theorem enlistAll_unready (unready : manager.ready = false)
    (meanwhile : List (String × Action)) : (manager.enlistAll meanwhile).ready = false := by
  induction meanwhile generalizing manager with
  | nil => exact unready
  | cons registration rest induction => exact induction (enlist_unready unready _ _)

theorem Indexed.enlistAll (indexed : manager.Indexed) (meanwhile : List (String × Action)) :
    (manager.enlistAll meanwhile).Indexed := by
  induction meanwhile generalizing manager with
  | nil => exact indexed
  | cons registration rest induction => exact induction (indexed.enlist _ _)

theorem Indexed.mark (indexed : manager.Indexed) (outcome : Outcome) (position : Nat) :
    (outcome.mark manager position).Indexed := by
  cases outcome with
  | succeeded => exact indexed.change position fun _ => rfl
  | failed | panicked => exact indexed

theorem Indexed.push {next : Manager} (indexed : manager.Indexed) {name : String}
    {action : Action} (pushed : manager.push name action = .ok next) : next.Indexed := by
  have enlisted := indexed.enlist name action
  rwa [Manager.enlist, pushed] at enlisted

theorem Intact.fresh : Intact {} := ⟨.fresh, .of_unready rfl⟩

end Manager

/-! ## Moves of a process -/

namespace Service

variable {direct : Prop} {service next : Service}

theorem push_ready {name : String} {action : Action}
    (pushed : service.push name action = .ok next) : next.manager.ready = false := by
  rw [(Manager.push_eq_ok (push_manager pushed)).2]

/-- Running a step does not set the flag. -/
theorem runStep_unready (unready : service.manager.ready = false) (position : Nat)
    (step : Step) : (service.runStep position step).2.manager.ready = false := by
  rcases service.runStep_manager position step with ⟨meanwhile, outcome, same, _⟩
  have noted : (service.manager.noteCall position).ready = false := unready
  rw [same]
  cases outcome <;> exact Manager.enlistAll_unready noted meanwhile

theorem runStep_indexed (indexed : service.manager.Indexed) (position : Nat) (step : Step) :
    (service.runStep position step).2.manager.Indexed := by
  rcases service.runStep_manager position step with ⟨meanwhile, outcome, same, _⟩
  have noted : (service.manager.noteCall position).Indexed :=
    indexed.change position fun _ => rfl
  rw [same]
  exact (noted.enlistAll meanwhile).mark outcome position

theorem Move.gate (move : Move direct service next) (gate : service.manager.Gate) :
    next.manager.Gate := by
  cases move with
  | registers name action =>
      rw [register_manager]
      exact gate.enlist name action
  | pushes pushed => exact .of_unready (push_ready pushed)
  | @runs position step stands pending =>
      exact .of_unready (runStep_unready (gate.unready stands pending) position step)
  | exports | notes => exact gate

theorem Move.indexed (move : Move direct service next) (indexed : service.manager.Indexed) :
    next.manager.Indexed := by
  cases move with
  | registers name action =>
      rw [register_manager]
      exact indexed.enlist name action
  | pushes pushed => exact indexed.push (push_manager pushed)
  | @runs position step stands pending => exact runStep_indexed indexed position step
  | exports | notes => exact indexed

theorem Ends.gate {walked : Walked} (ended : Ends service walked)
    (gate : service.manager.Gate) : walked.2.manager.Gate := by
  cases ended with
  | arrives past below => exact fun _ => below.not_pending past
  | stops fault => exact .of_unready rfl
  | panics => exact gate

theorem Ends.indexed {walked : Walked} (ended : Ends service walked)
    (indexed : service.manager.Indexed) : walked.2.manager.Indexed := by
  cases ended <;> exact indexed

theorem Course.intact {first last : Service} {walks : List Walked}
    (course : Course direct first walks last) (intact : first.manager.Intact) :
    last.manager.Intact := by
  induction course with
  | nil => exact intact
  | move _ move induction => exact ⟨move.indexed induction.indexed, move.gate induction.gate⟩
  | ends _ ended induction => exact ⟨ended.indexed induction.indexed, ended.gate induction.gate⟩

end Service

/-! ## Accesses of threads -/

theorem Happening.Effect.indexed {happening : Happening α} {before after : Manager}
    (effect : happening.Effect before after) (indexed : before.Indexed) : after.Indexed := by
  cases happening with
  | registered name =>
      rcases effect with ⟨action, pushed⟩
      exact indexed.push pushed
  | called position => cases effect; exact indexed.change position fun _ => rfl
  | completed position => cases effect; exact indexed.change position fun _ => rfl
  | walked | stopped => cases effect; exact indexed
  | began | rejected | ended | returned | silent => cases effect; exact indexed

namespace System

variable {plays : Action → Nat → Script → Prop}

/-- Threads that have not begun anything rely on nothing but the flag. -/
theorem Sound.quiet {service : Service} (gate : service.manager.Gate) :
    ({ service } : System α).Sound where
  held _ := by simp [Place.isHolding]
  opens waiting := by cases waiting
  fits holding := by cases holding
  gate := gate

theorem Run.indexed {first last : System α} {trace : Trace α} (run : Run plays first trace last)
    (indexed : first.service.manager.Indexed) : last.service.manager.Indexed := by
  induction run with
  | nil => exact indexed
  | snoc _ _ step induction => exact step.effect.indexed induction

end System

/-! ## All managers -/

namespace Manager

/-- The managers that can come about: a new one, what threads leave at any moment that are at
work on one that has come about, and what operations leave that are performed one after the
other. The rest of the process may be anything whenever it starts on a manager. -/
inductive Reachable : Manager → Prop
  | fresh : Reachable {}
  | threads {α : Type} {plays : Action → Nat → Script → Prop} {service : Service}
      {trace : Trace α} {last : System α} (reachable : Reachable service.manager)
      (run : System.Run plays { service } trace last) : Reachable last.service.manager
  | operations {α : Type} {service : Service} (reachable : Reachable service.manager)
      (operations : List (Operation α)) : Reachable (service.session operations).2.manager

theorem Reachable.intact {manager : Manager} (reachable : manager.Reachable) :
    manager.Intact := by
  induction reachable with
  | fresh => exact .fresh
  | threads _ run induction =>
      exact ⟨run.indexed induction.indexed, (run.sound (.quiet induction.gate)).gate⟩
  | operations _ operations induction =>
      exact (Service.session_course _ operations).intact induction

end Manager

end Bringup
