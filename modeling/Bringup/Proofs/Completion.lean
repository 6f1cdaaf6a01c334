import Bringup.Lifecycle.Threads

namespace Bringup

/-! What each happening does to the bookkeeping.

Every access of a thread is described by what happens in it (`Step.effect`). How far
the steps have come, as told by `Manager.completed?`, is then followed through all
happenings at once: a completed step stays completed, and a pending one stays
pending until it is marked. -/

namespace Manager

def completed? (manager : Manager) (position : Nat) : Option Bool :=
  manager.steps[position]?.map Step.completed

theorem completed?_of_stands {manager : Manager} {position : Nat} {step : Step}
    (stands : manager.steps[position]? = some step) :
    manager.completed? position = some step.completed := by
  simp [completed?, stands]

theorem completed?_eq_none {manager : Manager} {position : Nat} :
    manager.completed? position = none ↔ manager.steps[position]? = none := by
  simp [completed?]

theorem push_eq_ok {manager next : Manager} {name : String} {action : Action}
    (pushed : manager.push name action = .ok next) :
    manager.position? name = none ∧
      next = {
        steps := manager.steps ++ [{ name, action }]
        positions := (name, manager.steps.length) :: manager.positions
        ready := false } := by
  unfold push at pushed
  split at pushed
  · cases pushed
  · rename_i free
    cases pushed
    exact ⟨free, rfl⟩

theorem completed?_push {manager next : Manager} {name : String} {action : Action}
    (pushed : manager.push name action = .ok next) (position : Nat) :
    next.completed? position =
      if position = manager.steps.length then some false else manager.completed? position := by
  rw [(push_eq_ok pushed).2]
  simp only [completed?, List.getElem?_append]
  split
  · rename_i inside
    rw [if_neg (Nat.ne_of_lt inside)]
  · rename_i outside
    split
    · rename_i here
      simp [here]
    · rename_i elsewhere
      rw [List.getElem?_eq_none (by simp; omega), List.getElem?_eq_none (by omega)]

@[simp] theorem completed?_noteCall (manager : Manager) (called position : Nat) :
    (manager.noteCall called).completed? position = manager.completed? position := by
  simp only [completed?, noteCall, List.getElem?_modify]
  cases manager.steps[position]? with
  | none => rfl
  | some step => by_cases here : called = position <;> simp [here, Step.called]

@[simp] theorem completed?_markCompleted (manager : Manager) (marked position : Nat) :
    (manager.markCompleted marked).completed? position =
      if position = marked then (manager.completed? position).map fun _ => true
      else manager.completed? position := by
  simp only [completed?, markCompleted, List.getElem?_modify]
  cases manager.steps[position]? with
  | none => simp
  | some step =>
      by_cases here : position = marked
      · simp [here, Step.complete]
      · simp [here, Ne.symm here]

end Manager

/-! ## Effects -/

namespace Happening

def Effect (happening : Happening α) (before after : Manager) : Prop :=
  match happening with
  | registered name => ∃ action, before.push name action = .ok after
  | called position => after = before.noteCall position
  | completed position => after = before.markCompleted position
  | walked => after = before.setReady true
  | stopped => after = before.setReady false
  | began _ | rejected _ | ended _ _ | returned _ _ | silent => after = before

theorem Effect.keeps_completed {happening : Happening α} {before after : Manager}
    (effect : happening.Effect before after) {position : Nat}
    (done : before.completed? position = some true) :
    after.completed? position = some true := by
  cases happening with
  | registered name =>
      rcases effect with ⟨action, pushed⟩
      rw [Manager.completed?_push pushed]
      split
      · rename_i here
        have stands : before.completed? position = none := by
          rw [Manager.completed?_eq_none, here]
          exact List.getElem?_eq_none (Nat.le_refl _)
        rw [stands] at done
        cases done
      · exact done
  | called => cases effect; simpa using done
  | completed => cases effect; simp [done]
  | walked => cases effect; exact done
  | stopped => cases effect; exact done
  | began | rejected | ended | returned | silent => cases effect; exact done

/-- A pending step stays pending unless it is marked. -/
theorem Effect.keeps_pending {happening : Happening α} {before after : Manager}
    (effect : happening.Effect before after) {position : Nat}
    (unmarked : happening ≠ .completed position)
    (pending : before.completed? position = some false) :
    after.completed? position = some false := by
  cases happening with
  | registered name =>
      rcases effect with ⟨action, pushed⟩
      rw [Manager.completed?_push pushed, pending, ite_self]
  | called => cases effect; simpa using pending
  | completed marked =>
      cases effect
      have elsewhere : position ≠ marked := fun equal => unmarked (by rw [equal])
      simpa [elsewhere] using pending
  | walked => cases effect; exact pending
  | stopped => cases effect; exact pending
  | began | rejected | ended | returned | silent => cases effect; exact pending

theorem Effect.completed_iff {happening : Happening α} {before after : Manager}
    (effect : happening.Effect before after) {position : Nat}
    (unmarked : happening ≠ .completed position) :
    after.completed? position = some true ↔ before.completed? position = some true := by
  refine ⟨fun done => ?_, effect.keeps_completed⟩
  cases stood : before.completed? position with
  | none =>
      cases happening with
      | registered name =>
          rcases effect with ⟨action, pushed⟩
          rw [Manager.completed?_push pushed, stood] at done
          split at done <;> cases done
      | called => cases effect; simp [stood] at done
      | completed => cases effect; simp [stood] at done
      | walked => cases effect; exact stood.symm.trans done
      | stopped => cases effect; exact stood.symm.trans done
      | began | rejected | ended | returned | silent =>
          cases effect
          exact stood.symm.trans done
  | some completed =>
      cases completed with
      | true => rfl
      | false =>
          rw [effect.keeps_pending unmarked stood] at done
          cases done

theorem Effect.completes {position : Nat} {before after : Manager}
    (effect : (completed position : Happening α).Effect before after)
    (pending : before.completed? position = some false) :
    after.completed? position = some true := by
  cases effect
  simp [pending]

def isCommon : Happening α → Bool
  | began _ | registered _ | rejected _ | returned _ _ | silent => true
  | called _ | ended _ _ | completed _ | walked | stopped => false

@[simp] theorem isCommon_ofRegistration (name : String)
    (result : Except DuplicateName Unit) :
    (ofRegistration name result : Happening α).isCommon = true := by
  cases result <;> rfl

@[simp] theorem isCommon_ofReply (request : Request) (reply : Reply) :
    (ofReply request reply : Happening α).isCommon = true := by
  unfold ofReply
  split
  · exact isCommon_ofRegistration _ _
  · rfl

/-- No reply brings about what only the holder of the lock can do. -/
theorem ne_ofReply {happening : Happening α} (own : happening.isCommon = false)
    (request : Request) (reply : Reply) : happening ≠ ofReply request reply := by
  rintro rfl
  rw [isCommon_ofReply] at own
  cases own

end Happening

/-! ## What each access does -/

namespace Service

theorem push_manager {service next : Service} {name : String} {action : Action}
    (pushed : service.push name action = .ok next) :
    service.manager.push name action = .ok next.manager := by
  unfold push at pushed
  split at pushed
  · cases pushed
  · rename_i accepted
    cases pushed
    exact accepted

theorem push_stands {service next : Service} {name : String} {action : Action}
    (pushed : service.push name action = .ok next) :
    next.manager.steps[service.manager.steps.length]? = some { name, action } := by
  rw [(Manager.push_eq_ok (push_manager pushed)).2]
  exact List.getElem?_concat_length

theorem register_effect {service next : Service} {name : String} {action : Action}
    {result : Except DuplicateName Unit}
    (registered : service.register name action = (result, next)) :
    (Happening.ofRegistration name result : Happening α).Effect
      service.manager next.manager := by
  unfold register at registered
  split at registered
  · cases registered
    rfl
  · rename_i pushed
    have accepted := push_manager pushed
    cases registered
    exact ⟨action, accepted⟩

theorem reply_effect {service next : Service} {request : Request} {reply : Reply}
    {rejected : Option DuplicateName}
    (replied : service.reply request = ((reply, rejected), next)) :
    (Happening.ofReply request reply : Happening α).Effect service.manager next.manager := by
  cases request with
  | register name runs isRequired =>
      simp only [Service.reply] at replied
      split at replied
      · rename_i registered
        cases replied
        exact register_effect registered
      · rename_i registered
        cases replied
        exact register_effect registered
  | isInitialized name => cases replied; rfl
  | isReady => cases replied; rfl
  | status => cases replied; rfl

theorem book_effect {service next : Service} {position : Nat} {name : String}
    {outcome : Outcome} {finish : Finish (Except InitError Unit)}
    (booked : service.book position name outcome = (finish, next)) :
    (Happening.ofBooking position outcome : Happening α).Effect
      service.manager next.manager := by
  cases outcome <;> cases booked <;> rfl

@[simp] theorem report_manager (service : Service) (task : Task α)
    (finish : Finish (Except InitError Unit)) :
    (service.report task finish).manager = service.manager := by
  unfold report
  split <;> rfl

end Service

variable {plays : Action → Nat → Script → Prop}

theorem Phase.Step.effect {task : Task α} {service next : Service} {phase later : Phase}
    {happening : Happening α} (step : Phase.Step plays task service phase happening next later) :
    happening.Effect service.manager next.manager := by
  cases step with
  | accepts pushed => exact ⟨_, Service.push_manager pushed⟩
  | refuses | passes | finds | skips | ends => rfl
  | arrives | calls | stops => rfl
  | asks left replied => exact Service.reply_effect replied
  | books booked => exact Service.book_effect booked

theorem System.Step.effect {system next : System α} {thread : Nat} {happening : Happening α}
    (step : System.Step plays system thread happening next) :
    happening.Effect system.service.manager next.service.manager := by
  cases step with
  | begins | looks | findsReady | findsUnready | enters | applies | returns => rfl
  | registers beginning registered => exact Service.register_effect registered
  | works holding worked => exact worked.effect
  | leaves => exact Service.report_manager _ _ _

end Bringup
