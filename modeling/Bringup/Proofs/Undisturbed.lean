import Bringup.Proofs.ReadyGate

namespace Bringup

/-! A thread that nobody disturbs.

What the holder of the lock of execution has still to do, if nobody else touches the
bookkeeping, is a function of its phase (`Phase.rest`): it is what remains of an
execution, or of a walk, done in one go. Each access of the holder does a part of it
and leaves the rest (`Phase.Step.rest_eq`). -/

namespace Task

def resume (task : Task α) (position : Nat) :
    Finish (Except InitError Unit) × Service → Finish (Except InitError Unit) × Service :=
  match task.isWalk with
  | false => fun result => result
  | true => fun
    | (.returned (.ok ()), next) => next.walk (position + 1)
    | (.returned (.error fault), next) => (.returned (.error fault), next.setReady false)
    | (.panicked message, next) => (.panicked message, next)

end Task

namespace Service

def conclude (service : Service) (performance : Performance) :
    Finish (Except InitError Unit) × Service :=
  let ((replies, rejected), next) := service.answer performance.requests
  let outcome := Service.outcome performance.ending (performance.rejected.or rejected)
  (next.endCall performance.step (performance.replies ++ replies) outcome).book
    performance.position performance.step.name outcome

def runAt (service : Service) (position : Nat) : Finish (Except InitError Unit) × Service :=
  match service.manager.steps[position]? with
  | some step =>
      if step.completed then (.returned (.ok ()), service) else service.runStep position step
  | none => (.returned (.ok ()), service)

/-! ## Walking from a position on -/

theorem walk_of_none {service : Service} {position : Nat}
    (past : service.manager.steps[position]? = none) :
    service.walk position =
      (.returned (.ok ()), (service.setReady true).log (.bootstrapComplete position)) := by
  rw [walk]
  split
  · rfl
  · rename_i stands
    rw [past] at stands
    cases stands

theorem walk_of_done {service : Service} {position : Nat} {step : Step}
    (stands : service.manager.steps[position]? = some step) (done : step.completed = true) :
    service.walk position = service.walk (position + 1) := by
  rw [walk]
  split
  · rename_i past
    rw [stands] at past
    cases past
  · rename_i found
    rw [stands] at found
    cases found
    rw [if_pos done]

theorem walk_of_pending {service : Service} {position : Nat} {step : Step}
    (stands : service.manager.steps[position]? = some step)
    (pending : step.completed = false) :
    service.walk position =
      (Task.initializeAll : Task Unit).resume position (service.runStep position step) := by
  rw [walk]
  split
  · rename_i past
    rw [stands] at past
    cases past
  · rename_i found
    rw [stands] at found
    cases found
    rw [if_neg (by simp [pending])]
    split <;> rename_i ran <;> rw [ran] <;> rfl

end Service

namespace Task

theorem resume_of_walk {task : Task α} (walk : task.isWalk = true) (position : Nat) :
    task.resume position = (Task.initializeAll : Task Unit).resume position := by
  rw [resume, walk]
  rfl

end Task

/-! ## The rest of an execution -/

namespace Phase

def rest (task : Task α) (service : Service) : Phase → Finish (Except InitError Unit) × Service
  | registering name action => service.exec name action
  | visiting position => service.walk position
  | starting position => task.resume position (service.runAt position)
  | acting performance => task.resume performance.position (service.conclude performance)
  | booking position name outcome => task.resume position (service.book position name outcome)
  | stopping fault => (.returned (.error fault), service.setReady false)
  | leaving finish => (finish, service)

theorem rest_proceed (task : Task α) (service : Service) (position : Nat)
    (finish : Finish (Except InitError Unit)) :
    (task.proceed position finish).rest task service = task.resume position (finish, service) := by
  unfold Task.proceed Task.resume
  cases task.isWalk with
  | false => rfl
  | true =>
      cases finish with
      | returned result => cases result <;> rfl
      | panicked message => rfl

end Phase

/-- An access of the holder does a part of the rest, and no more. -/
theorem Phase.Step.rest_eq {task : Task α} {service next : Service} {phase later : Phase}
    {happening : Happening α}
    (step : Phase.Step Action.Plays task service phase happening next later)
    (fits : phase.Fits task service.manager) :
    phase.rest task service = later.rest task next := by
  cases step with
  | @accepts next name action pushed =>
      have stands : next.manager.steps[service.manager.steps.length]? =
          some { name, action } := by
        rw [(Manager.push_eq_ok (Service.push_manager pushed)).2]
        simp
      cases fits
      simp [rest, Service.exec, pushed, Task.resume, Task.isWalk, Service.runAt, stands]
  | refuses pushed => simp [rest, Service.exec, pushed]
  | passes stands done => exact Service.walk_of_done stands done
  | finds stands pending =>
      simp only [rest, Service.walk_of_pending stands pending, Task.resume_of_walk fits.1,
        Service.runAt, stands, pending]
      rfl
  | arrives past => exact Service.walk_of_none past
  | skips stands done =>
      rw [rest_proceed]
      simp [rest, Service.runAt, stands, done]
  | @calls position step script stands pending played =>
      simp [rest, Service.runAt, stands, pending, Service.runStep,
        Service.callAction_of_script played, Service.follow, Service.conclude,
        Performance.start]
  | @asks next performance request rest reply rejected left replied =>
      cases rejected with
      | none =>
          simp [Phase.rest, Service.conclude, left, Service.answer, replied, Performance.hear]
      | some fault =>
          simp [Phase.rest, Service.conclude, left, Service.answer, replied, Performance.hear]
  | ends left =>
      simp [rest, Service.conclude, left, Service.answer, Performance.outcome]
  | books booked => rw [rest_proceed, rest, booked]
  | stops => rfl

end Bringup
