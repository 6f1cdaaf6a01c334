import Bringup.Lifecycle.Service

namespace Bringup

/-! Walking the steps.

A walk goes through the steps in order, those included that are registered while
it is under way, and calls the action of every pending one until one fails. It
ends because each action can bring about only so many further steps. -/

namespace Manager

def stepsWeight : List Step → Nat
  | [] => 0
  | step :: rest => 1 + step.action.weight + stepsWeight rest

@[simp] theorem stepsWeight_append (first second : List Step) :
    stepsWeight (first ++ second) = stepsWeight first + stepsWeight second := by
  induction first with
  | nil => simp [stepsWeight]
  | cons step rest induction => simp [stepsWeight, induction, Nat.add_assoc]

/-- How many steps a walk from a position on can still come to: those that stand
there, and those that their actions can bring about. -/
def ahead (manager : Manager) (position : Nat) : Nat :=
  stepsWeight (manager.steps.drop position)

end Manager

namespace Service

/-! ## What a step leaves ahead -/

private theorem ahead_append (steps : List Step) (step : Step) (position : Nat)
    (inside : position ≤ steps.length) :
    Manager.ahead { steps := steps ++ [step] } position =
      Manager.ahead { steps } position + (1 + step.action.weight) := by
  simp [Manager.ahead, List.drop_append_of_le_length inside, Manager.stepsWeight]

private theorem push_ahead {service next : Service} {name : String} {action : Action}
    (pushed : service.push name action = .ok next) (position : Nat)
    (inside : position ≤ service.manager.steps.length) :
    next.manager.ahead position = service.manager.ahead position + (1 + action.weight) ∧
      position ≤ next.manager.steps.length := by
  unfold push Manager.push at pushed
  split at pushed
  · contradiction
  · rename_i accepted
    split at accepted
    · contradiction
    · cases accepted
      cases pushed
      refine ⟨ahead_append service.manager.steps { name, action } position inside, ?_⟩
      simp
      omega

private theorem register_ahead (service : Service) (name : String) (action : Action)
    (position : Nat) (inside : position ≤ service.manager.steps.length) :
    (service.register name action).2.manager.ahead position ≤
        service.manager.ahead position + (1 + action.weight) ∧
      position ≤ (service.register name action).2.manager.steps.length := by
  unfold register
  split
  · exact ⟨Nat.le_add_right _ _, inside⟩
  · rename_i pushed
    have grown := push_ahead pushed position inside
    exact ⟨Nat.le_of_eq grown.1, grown.2⟩

private theorem reply_ahead (service : Service) (request : Request) (position : Nat)
    (inside : position ≤ service.manager.steps.length) :
    (service.reply request).2.manager.ahead position ≤
        service.manager.ahead position + request.weight ∧
      position ≤ (service.reply request).2.manager.steps.length := by
  cases request with
  | register name runs isRequired =>
      have grown := register_ahead service name (.scripted runs) position inside
      simp only [Action.weight] at grown
      simp only [reply, Request.weight]
      split <;> rename_i registered <;> rw [registered] at grown <;> exact grown
  | isInitialized name => exact ⟨Nat.le_add_right _ _, inside⟩
  | isReady => exact ⟨Nat.le_add_right _ _, inside⟩
  | status => exact ⟨Nat.le_add_right _ _, inside⟩

private theorem answer_ahead (requests : List Request) (service : Service) (position : Nat)
    (inside : position ≤ service.manager.steps.length) :
    (service.answer requests).2.manager.ahead position ≤
      service.manager.ahead position + requestsWeight requests := by
  fun_induction answer service requests with
  | case1 => simp [requestsWeight]
  | case2 service request rest reply fault next replied =>
      have grown := reply_ahead service request position inside
      rw [replied] at grown
      simp only [requestsWeight] at grown ⊢
      omega
  | case3 service request rest reply next replied replies rejected last answered induction =>
      have grown := reply_ahead service request position inside
      rw [replied] at grown
      have later := induction grown.2
      rw [answered] at later
      simp only [requestsWeight] at grown later ⊢
      omega

private theorem follow_ahead (script : Script) (service : Service) (position : Nat)
    (inside : position ≤ service.manager.steps.length) :
    (service.follow script).2.manager.ahead position ≤
      service.manager.ahead position + script.weight := by
  cases script with
  | script requests ending => exact answer_ahead requests service position inside

private theorem callAction_ahead (service : Service) (action : Action) (call position : Nat)
    (inside : position ≤ service.manager.steps.length) :
    (service.callAction action call).2.manager.ahead position ≤
      service.manager.ahead position + action.weight := by
  unfold callAction
  split
  · rename_i runs
    have grown := follow_ahead (scriptAt runs call) service position inside
    have bounded := weight_scriptAt_le runs call
    simp only [Action.weight]
    omega
  · rename_i endings
    exact follow_ahead (.script [] (endings call)) service position inside
  · split
    simp [Action.weight]

private theorem ahead_noteCall (manager : Manager) (position : Nat) :
    (manager.noteCall position).ahead (position + 1) = manager.ahead (position + 1) := by
  simp [Manager.ahead, Manager.noteCall, List.drop_modify_of_lt]

private theorem ahead_markCompleted (manager : Manager) (position : Nat) :
    (manager.markCompleted position).ahead (position + 1) = manager.ahead (position + 1) := by
  simp [Manager.ahead, Manager.markCompleted, List.drop_modify_of_lt]

private theorem book_ahead (service : Service) (position : Nat) (name : String)
    (outcome : Outcome) :
    (service.book position name outcome).2.manager.ahead (position + 1) =
      service.manager.ahead (position + 1) := by
  cases outcome with
  | succeeded => exact ahead_markCompleted _ _
  | failed cause => rfl
  | panicked message => rfl

theorem ahead_of_stands {manager : Manager} {position : Nat} {step : Step}
    (stands : manager.steps[position]? = some step) :
    manager.ahead position = 1 + step.action.weight + manager.ahead (position + 1) := by
  obtain ⟨inside, found⟩ := List.getElem?_eq_some_iff.mp stands
  rw [Manager.ahead, List.drop_eq_getElem_cons inside, found, Manager.stepsWeight]
  rfl

/-- Once the step at a position has run, less is ahead of the next position than
was ahead of this one. -/
theorem runStep_ahead (service : Service) (position : Nat) (step : Step)
    (stands : service.manager.steps[position]? = some step) :
    (service.runStep position step).2.manager.ahead (position + 1) <
      service.manager.ahead position := by
  have inside := (List.getElem?_eq_some_iff.mp stands).1
  rw [ahead_of_stands stands]
  have same : (service.beginCall position step).manager.ahead (position + 1) =
      service.manager.ahead (position + 1) := ahead_noteCall _ _
  have grown := callAction_ahead (service.beginCall position step) step.action step.calls
    (position + 1) (by
      simp only [beginCall, log, Manager.noteCall, List.length_modify]
      omega)
  rw [same] at grown
  rcases called : (service.beginCall position step).callAction step.action step.calls with
    ⟨⟨replies, outcome⟩, ended⟩
  rw [called] at grown
  have booked := book_ahead (ended.endCall step replies outcome) position step.name outcome
  simp only [runStep, called, booked]
  exact Nat.lt_of_le_of_lt grown (by omega)

/-! ## The walk -/

set_option linter.unusedVariables false in
/-- Goes through the steps from a position on. The service becomes ready only at
the end of the list, and is not ready after a failure. -/
def walk (service : Service) (position : Nat) : Finish (Except InitError Unit) × Service :=
  match stands : service.manager.steps[position]? with
  | none => (.returned (.ok ()), (service.setReady true).log (.bootstrapComplete position))
  | some step =>
      if step.completed then walk service (position + 1)
      else
        match ran : service.runStep position step with
        | (.panicked message, next) => (.panicked message, next)
        | (.returned (.error fault), next) => (.returned (.error fault), next.setReady false)
        | (.returned (.ok ()), next) => walk next (position + 1)
termination_by service.manager.ahead position
decreasing_by
  · rw [ahead_of_stands stands]
    omega
  · have less := runStep_ahead service position step stands
    rwa [ran] at less

def initializeAll (service : Service) : Finish (Except InitError Unit) × Service :=
  service.walk 0

def exec (service : Service) (name : String) (action : Action) :
    Finish (Except InitError Unit) × Service :=
  match service.push name action with
  | .error fault => (.returned (.error (.duplicate fault)), service)
  | .ok next => next.runStep service.manager.steps.length { name, action }

/-- Initializes unless the service is ready already. A failure means that the
application is not started. -/
def prepare (service : Service) : Finish (Except InitError Unit) × Service :=
  if service.manager.ready then (.returned (.ok ()), service)
  else
    match service.initializeAll with
    | (.returned (.error fault), next) =>
        (.returned (.error fault), next.log (.bootstrapFailed fault.stepName fault.message))
    | result => result

end Service

end Bringup
