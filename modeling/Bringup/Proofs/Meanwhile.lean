import Bringup.Proofs.Undisturbed

namespace Bringup

/-! What others register meanwhile.

While a thread holds the lock of execution, the others can still register steps. If
the actions ask for nothing, that makes no difference to the holder: it can do on the
longer list what it does on the shorter one, and the two lists grow apart by the same
registrations (`Phase.Step.mimic`). -/

namespace Manager

def enlist (manager : Manager) (name : String) (action : Action) : Manager :=
  match manager.push name action with
  | .ok next => next
  | .error _ => manager

def enlistAll (manager : Manager) : List (String × Action) → Manager
  | [] => manager
  | (name, action) :: rest => (manager.enlist name action).enlistAll rest

theorem enlist_of_free {manager : Manager} {name : String}
    (free : manager.position? name = none) (action : Action) :
    manager.enlist name action = {
      steps := manager.steps ++ [{ name, action }]
      positions := (name, manager.steps.length) :: manager.positions
      ready := false } := by
  simp [enlist, push, free]

theorem enlist_of_taken {manager : Manager} {name : String} {position : Nat}
    (taken : manager.position? name = some position) (action : Action) :
    manager.enlist name action = manager := by
  simp [enlist, push, taken]

theorem enlist_stands {manager : Manager} {position : Nat} {step : Step}
    (stands : manager.steps[position]? = some step) (name : String) (action : Action) :
    (manager.enlist name action).steps[position]? = some step := by
  cases known : manager.position? name with
  | none =>
      rw [enlist_of_free known]
      exact (List.getElem?_append_left (List.getElem?_eq_some_iff.mp stands).1).trans stands
  | some other => rw [enlist_of_taken known, stands]

theorem enlistAll_stands {manager : Manager} {position : Nat} {step : Step}
    (stands : manager.steps[position]? = some step) (meanwhile : List (String × Action)) :
    (manager.enlistAll meanwhile).steps[position]? = some step := by
  induction meanwhile generalizing manager with
  | nil => exact stands
  | cons registration rest induction => exact induction (enlist_stands stands _ _)

theorem Gate.enlist {manager : Manager} (gate : manager.Gate) (name : String)
    (action : Action) : (manager.enlist name action).Gate := by
  cases known : manager.position? name with
  | none =>
      rw [enlist_of_free known]
      intro ready
      cases ready
  | some position => rwa [enlist_of_taken known]

private theorem modify_append {steps : List Step} {position : Nat}
    (inside : position < steps.length) (transform : Step → Step) (more : List Step) :
    (steps ++ more).modify position transform = steps.modify position transform ++ more := by
  induction steps generalizing position with
  | nil => cases inside
  | cons first rest induction =>
      cases position with
      | zero => rfl
      | succ position =>
          simp only [List.cons_append, List.modify_succ_cons]
          rw [induction (Nat.lt_of_succ_lt_succ inside)]

theorem modify_length_append (first : List Step) (step : Step) (rest : List Step)
    (transform : Step → Step) :
    (first ++ step :: rest).modify first.length transform = first ++ transform step :: rest := by
  induction first with
  | nil => rfl
  | cons head tail induction => exact congrArg (head :: ·) induction

def change (manager : Manager) (position : Nat) (transform : Step → Step) : Manager :=
  { manager with steps := manager.steps.modify position transform }

theorem enlist_change {manager : Manager} {position : Nat}
    (inside : position < manager.steps.length) (transform : Step → Step) (name : String)
    (action : Action) :
    (manager.change position transform).enlist name action =
      (manager.enlist name action).change position transform := by
  cases known : manager.position? name with
  | none =>
      rw [enlist_of_free known, enlist_of_free (by exact known)]
      simp [change, modify_append inside]
  | some other => rw [enlist_of_taken known, enlist_of_taken (by exact known)]

theorem enlistAll_change {manager : Manager} {position : Nat}
    (inside : position < manager.steps.length) (transform : Step → Step)
    (meanwhile : List (String × Action)) :
    (manager.change position transform).enlistAll meanwhile =
      (manager.enlistAll meanwhile).change position transform := by
  induction meanwhile generalizing manager with
  | nil => rfl
  | cons registration rest induction =>
      have stands := List.getElem?_eq_getElem inside
      have grown := (List.getElem?_eq_some_iff.mp
        (enlist_stands stands registration.1 registration.2)).1
      exact (congrArg (fun later => enlistAll later rest) (enlist_change inside _ _ _)).trans
        (induction grown)

theorem enlistAll_setReady (manager : Manager) (meanwhile : List (String × Action)) :
    (manager.setReady false).enlistAll meanwhile =
      (manager.enlistAll meanwhile).setReady false := by
  induction meanwhile generalizing manager with
  | nil => rfl
  | cons registration rest induction =>
      have once : (manager.setReady false).enlist registration.1 registration.2 =
          (manager.enlist registration.1 registration.2).setReady false := by
        cases known : manager.position? registration.1 with
        | none => rw [enlist_of_free known, enlist_of_free (by exact known)]; rfl
        | some other => rw [enlist_of_taken known, enlist_of_taken (by exact known)]
      exact (congrArg (fun later => enlistAll later rest) once).trans (induction _)

end Manager

/-! ## Ledgers -/

namespace Service

/-- The bookkeeping and the calls so far. What is logged and counted besides is left
aside. -/
def ledger (service : Service) : Manager × List Call :=
  (service.manager, service.world.journal.calls)

theorem ledger_manager {first second : Service} (same : first.ledger = second.ledger) :
    first.manager = second.manager := congrArg Prod.fst same

theorem ledger_calls {first second : Service} (same : first.ledger = second.ledger) :
    first.world.journal.calls = second.world.journal.calls := congrArg Prod.snd same

theorem ledger_ext {first second : Service} (manager : first.manager = second.manager)
    (calls : first.world.journal.calls = second.world.journal.calls) :
    first.ledger = second.ledger := by
  rw [ledger, ledger, manager, calls]

@[simp] theorem log_manager (service : Service) (event : Event) :
    (service.log event).manager = service.manager := rfl

@[simp] theorem log_calls (service : Service) (event : Event) :
    (service.log event).world.journal.calls = service.world.journal.calls := by
  simp [log, World.log, World.record, Journal.calls]

@[simp] theorem setReady_manager (service : Service) (ready : Bool) :
    (service.setReady ready).manager = service.manager.setReady ready := rfl

@[simp] theorem setReady_calls (service : Service) (ready : Bool) :
    (service.setReady ready).world.journal.calls = service.world.journal.calls := by
  simp [setReady, World.record, Journal.calls]

@[simp] theorem beginCall_manager (service : Service) (position : Nat) (step : Step) :
    (service.beginCall position step).manager = service.manager.noteCall position := rfl

@[simp] theorem beginCall_calls (service : Service) (position : Nat) (step : Step) :
    (service.beginCall position step).world.journal.calls = service.world.journal.calls :=
  log_calls service _

@[simp] theorem endCall_manager (service : Service) (step : Step) (replies : List Reply)
    (outcome : Outcome) :
    (service.endCall step replies outcome).manager = service.manager := rfl

@[simp] theorem endCall_calls (service : Service) (step : Step) (replies : List Reply)
    (outcome : Outcome) :
    (service.endCall step replies outcome).world.journal.calls =
      service.world.journal.calls ++ [⟨step.name, step.calls + 1, replies, outcome⟩] := by
  simp [endCall, record, World.record, Journal.calls]

@[simp] theorem report_calls (service : Service) (task : Task α)
    (finish : Finish (Except InitError Unit)) :
    (service.report task finish).world.journal.calls = service.world.journal.calls := by
  unfold report
  split
  · exact log_calls service _
  · rfl

end Service

namespace Outcome

def mark (outcome : Outcome) (manager : Manager) (position : Nat) : Manager :=
  match outcome with
  | succeeded => manager.markCompleted position
  | _ => manager

theorem enlistAll_mark (outcome : Outcome) {manager : Manager} {position : Nat}
    (inside : position < manager.steps.length) (meanwhile : List (String × Action)) :
    (outcome.mark manager position).enlistAll meanwhile =
      outcome.mark (manager.enlistAll meanwhile) position := by
  cases outcome with
  | succeeded => exact Manager.enlistAll_change inside Step.complete meanwhile
  | failed | panicked => rfl

end Outcome

namespace Service

@[simp] theorem book_manager (service : Service) (position : Nat) (name : String)
    (outcome : Outcome) :
    (service.book position name outcome).2.manager =
      outcome.mark service.manager position := by
  cases outcome <;> rfl

@[simp] theorem book_calls (service : Service) (position : Nat) (name : String)
    (outcome : Outcome) :
    (service.book position name outcome).2.world.journal.calls =
      service.world.journal.calls := by
  cases outcome <;> simp [book, record, World.record, Journal.calls, log, World.log]

/-- How an action runs that asks for nothing. -/
theorem runStep_of_ending {step : Step} {ending : Ending}
    (told : step.action.script? step.calls = some (.script [] ending)) (service : Service)
    (position : Nat) :
    service.runStep position step =
      ((service.beginCall position step).endCall step [] (outcome ending none)).book position
        step.name (outcome ending none) := by
  rw [runStep, callAction_of_script told]
  rfl

theorem book_fst (first second : Service) (position : Nat) (name : String)
    (outcome : Outcome) :
    (first.book position name outcome).1 = (second.book position name outcome).1 := by
  cases outcome <;> rfl

/-! ## Registrations -/

@[simp] theorem register_manager (service : Service) (name : String) (action : Action) :
    (service.register name action).2.manager = service.manager.enlist name action := by
  unfold register push Manager.enlist
  cases service.manager.push name action <;> rfl

@[simp] theorem register_calls (service : Service) (name : String) (action : Action) :
    (service.register name action).2.world.journal.calls = service.world.journal.calls := by
  unfold register push
  cases service.manager.push name action with
  | error fault => exact log_calls service _
  | ok next => simp [log, World.log, World.record, Journal.calls]

theorem register_fst {first second : Service}
    (positions : first.manager.positions = second.manager.positions) (name : String)
    (action : Action) :
    (first.register name action).1 = (second.register name action).1 := by
  have known : first.manager.position? name = second.manager.position? name := by
    rw [Manager.position?, Manager.position?, positions]
  unfold register push Manager.push
  rw [known]
  cases second.manager.position? name <;> rfl

def registerAll (service : Service) : List (String × Action) → Service
  | [] => service
  | (name, action) :: rest => (service.register name action).2.registerAll rest

@[simp] theorem registerAll_manager (service : Service) (meanwhile : List (String × Action)) :
    (service.registerAll meanwhile).manager = service.manager.enlistAll meanwhile := by
  induction meanwhile generalizing service with
  | nil => rfl
  | cons registration rest induction =>
      rw [registerAll, induction, register_manager, Manager.enlistAll]

@[simp] theorem registerAll_calls (service : Service) (meanwhile : List (String × Action)) :
    (service.registerAll meanwhile).world.journal.calls = service.world.journal.calls := by
  induction meanwhile generalizing service with
  | nil => rfl
  | cons registration rest induction => rw [registerAll, induction, register_calls]

theorem registerAll_congr {first second : Service} (same : first.ledger = second.ledger)
    (meanwhile : List (String × Action)) :
    (first.registerAll meanwhile).ledger = (second.registerAll meanwhile).ledger :=
  ledger_ext (by simp [ledger_manager same]) (by simp [ledger_calls same])

theorem reply_congr {service next mid : Service} {request : Request} {reply : Reply}
    {rejected : Option DuplicateName} (same : mid.ledger = service.ledger)
    (replied : service.reply request = ((reply, rejected), next)) :
    ∃ midNext, mid.reply request = ((reply, rejected), midNext) ∧
      midNext.ledger = next.ledger := by
  have manager := ledger_manager same
  cases request with
  | register name runs isRequired =>
      have result := register_fst (congrArg Manager.positions manager) name (.scripted runs)
      have after : (mid.register name (.scripted runs)).2.ledger =
          (service.register name (.scripted runs)).2.ledger :=
        ledger_ext (by simp [manager]) (by simp [ledger_calls same])
      rcases registered : service.register name (.scripted runs) with ⟨outcome, later⟩
      rcases midRegistered : mid.register name (.scripted runs) with ⟨midOutcome, midLater⟩
      rw [registered, midRegistered] at result after
      simp only at result after
      subst midOutcome
      cases outcome with
      | error fault =>
          simp only [Service.reply, registered] at replied
          cases replied
          exact ⟨midLater, by simp only [Service.reply, midRegistered], after⟩
      | ok accepted =>
          simp only [Service.reply, registered] at replied
          cases replied
          exact ⟨midLater, by simp only [Service.reply, midRegistered], after⟩
  | isInitialized name =>
      cases replied
      exact ⟨mid, by simp only [Service.reply, manager], same⟩
  | isReady =>
      cases replied
      exact ⟨mid, by simp only [Service.reply, manager], same⟩
  | status =>
      cases replied
      exact ⟨mid, by simp only [Service.reply, manager], same⟩

end Service

/-! ## Doing the same on a longer list -/

namespace Phase

def AsksNothing : Phase → Prop
  | acting performance => performance.requests = []
  | _ => True

end Phase

namespace Manager

theorem inside_of_completed? {manager : Manager} {position : Nat} {completed : Bool}
    (stands : manager.completed? position = some completed) :
    position < manager.steps.length := by
  unfold completed? at stands
  rcases Option.map_eq_some_iff.mp stands with ⟨step, found, _⟩
  exact (List.getElem?_eq_some_iff.mp found).1

end Manager

/-- On a list that others have made longer meanwhile, the holder does the same. Only
where the list ends makes a difference. -/
theorem Phase.Step.mimic {task : Task α} {service next mid : Service} {phase later : Phase}
    {happening : Happening α} {plays : Action → Nat → Script → Prop}
    (step : Phase.Step plays task service phase happening next later)
    (fits : phase.Fits task service.manager) {meanwhile : List (String × Action)}
    (same : mid.ledger = (service.registerAll meanwhile).ledger)
    (undisturbed : meanwhile = [] ∨ phase.AsksNothing)
    (registered : ∀ name action, phase ≠ .registering name action)
    (unended : meanwhile = [] ∨ happening ≠ .walked) :
    ∃ midNext, Phase.Step plays task mid phase happening midNext later ∧
      midNext.ledger = (next.registerAll meanwhile).ledger := by
  have manager : mid.manager = service.manager.enlistAll meanwhile := by
    simpa using Service.ledger_manager same
  have calls : mid.world.journal.calls = service.world.journal.calls := by
    simpa using Service.ledger_calls same
  have stillStands : ∀ {position : Nat} {found : Bringup.Step},
      service.manager.steps[position]? = some found →
        mid.manager.steps[position]? = some found := by
    intro position found stands
    rw [manager]
    exact Manager.enlistAll_stands stands meanwhile
  cases step with
  | accepts | refuses => exact absurd rfl (registered _ _)
  | passes stands done => exact ⟨mid, .passes (stillStands stands) done, same⟩
  | finds stands pending => exact ⟨mid, .finds (stillStands stands) pending, same⟩
  | @arrives position past =>
      rcases unended with alone | unended
      · subst meanwhile
        refine ⟨_, .arrives (by rw [manager]; exact past), ?_⟩
        exact Service.ledger_ext (by simp [manager, Manager.enlistAll]) (by simp [calls])
      · exact absurd rfl unended
  | skips stands done => exact ⟨mid, .skips (stillStands stands) done, same⟩
  | calls stands pending played =>
      have inside := Manager.inside_of_completed? fits.pending
      refine ⟨_, .calls (stillStands stands) pending played, ?_⟩
      apply Service.ledger_ext
      · simp only [Service.beginCall_manager, Service.registerAll_manager, manager]
        exact (Manager.enlistAll_change inside Step.called meanwhile).symm
      · simp [calls]
  | asks left replied =>
      rcases undisturbed with alone | quiet
      · subst meanwhile
        rcases Service.reply_congr same replied with ⟨midNext, midReplied, after⟩
        exact ⟨midNext, .asks left midReplied, after⟩
      · rw [show _ = [] from quiet] at left
        cases left
  | ends left =>
      refine ⟨_, .ends left, ?_⟩
      exact Service.ledger_ext (by simp [manager]) (by simp [calls])
  | @books _ position name outcome finish booked =>
      have inside := Manager.inside_of_completed? fits.pending
      refine ⟨(mid.book position name outcome).2, .books (Prod.ext ?_ rfl), ?_⟩
      · rw [Service.book_fst mid service, booked]
      · have marked : next.manager = outcome.mark service.manager position := by
          rw [← Service.book_manager service position name outcome, booked]
        have kept : next.world.journal.calls = service.world.journal.calls := by
          rw [← Service.book_calls service position name outcome, booked]
        apply Service.ledger_ext
        · simp only [Service.book_manager, Service.registerAll_manager, manager, marked]
          exact (outcome.enlistAll_mark inside meanwhile).symm
        · simp only [Service.book_calls, Service.registerAll_calls, calls, kept]
  | stops =>
      refine ⟨_, .stops, ?_⟩
      apply Service.ledger_ext
      · simp [manager, Manager.enlistAll_setReady]
      · simp [calls]

end Bringup
