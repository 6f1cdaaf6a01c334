import Bringup.Proofs.Independence

namespace Bringup

/-! What the holder of the lock of execution will come to.

Before the holder has given the lock back, it can be told what its task comes to,
whatever others register meanwhile (`Phase.ComesTo`). An execution is foretold once
its step is appended: it does what it would have done before anything that was
registered since (`Service.exec_foretold`). A walk is foretold backwards: it does what
it would have done had everything been registered before it began. -/

namespace Phase

theorem Fits.enlistAll {task : Task α} {manager : Manager} {phase : Phase}
    (fits : phase.Fits task manager) (meanwhile : List (String × Action)) :
    phase.Fits task (manager.enlistAll meanwhile) := by
  induction meanwhile generalizing manager with
  | nil => exact fits
  | cons registration rest induction =>
      apply induction
      cases pushed : manager.push registration.1 registration.2 with
      | error fault => simpa [Manager.enlist, pushed] using fits
      | ok next =>
          have effect : (Happening.registered registration.1 : Happening α).Effect
              manager next := ⟨_, pushed⟩
          simpa [Manager.enlist, pushed] using fits.keep effect rfl

/-- Whatever others register meanwhile, what the holder of the lock still does comes to
what is told. -/
def ComesTo (phase : Phase) (manner : Manner) (task : Task α) (service : Service)
    (told : List (String × Action) → Finish (Except InitError Unit) × Service → Prop) : Prop :=
  ∀ meanwhile, manner.Admits meanwhile →
    ∃ mid, mid.ledger = (service.registerAll meanwhile).ledger ∧
      told meanwhile (phase.rest task mid)

variable {manner : Manner} {task : Task α} {service next : Service} {phase later : Phase}
  {told : List (String × Action) → Finish (Except InitError Unit) × Service → Prop}

theorem ComesTo.now (comes : phase.ComesTo manner task service told) :
    ∃ mid, mid.ledger = service.ledger ∧ told [] (phase.rest task mid) :=
  comes [] manner.admits_nil

theorem ComesTo.register {told : List (String × Action) → Finish (Except InitError Unit) ×
    Service → Prop} (comes : phase.ComesTo .independent task service told) (name : String)
    (action : Action) :
    phase.ComesTo .independent task (service.register name action).2
      fun meanwhile => told ((name, action) :: meanwhile) :=
  fun meanwhile _ => comes ((name, action) :: meanwhile) trivial

theorem ComesTo.follow {happening : Happening α}
    (comes : phase.ComesTo manner task service told)
    (step : Phase.Step Action.Plays task service phase happening next later)
    (fits : phase.Fits task service.manager)
    (quiet : manner = .independent → phase.AsksNothing)
    (registered : ∀ name action, phase ≠ .registering name action)
    {meanwhile : List (String × Action)} (admitted : manner.Admits meanwhile)
    (unended : meanwhile = [] ∨ happening ≠ .walked) :
    ∃ mid, mid.ledger = (next.registerAll meanwhile).ledger ∧
      told meanwhile (later.rest task mid) := by
  rcases comes meanwhile admitted with ⟨mid, same, comesTo⟩
  have undisturbed : meanwhile = [] ∨ phase.AsksNothing := by
    cases manner with
    | independent => exact .inr (quiet rfl)
    | initializing => exact .inl admitted
  rcases step.mimic fits same undisturbed registered unended with ⟨midNext, mimicked, after⟩
  have midFits : phase.Fits task mid.manager := by
    rw [Service.ledger_manager same, Service.registerAll_manager]
    exact fits.enlistAll meanwhile
  rw [mimicked.rest_eq midFits] at comesTo
  exact ⟨midNext, after, comesTo⟩

end Phase

namespace Service

/-! ## Executing one step -/

theorem push_congr {first second next : Service} {name : String} {action : Action}
    (same : first.ledger = second.ledger) (pushed : first.push name action = .ok next) :
    ∃ other, second.push name action = .ok other ∧ other.ledger = next.ledger := by
  have accepted := push_manager pushed
  rw [ledger_manager same] at accepted
  refine ⟨{ manager := next.manager, world := second.world.record (.gauge false) }, ?_, ?_⟩
  · rw [push, accepted]
  · unfold push at pushed
    split at pushed
    · cases pushed
    · cases pushed
      refine ledger_ext rfl ?_
      simpa [World.record, Journal.calls] using (ledger_calls same).symm

theorem push_congr_error {first second : Service} {name : String} {action : Action}
    {fault : DuplicateName} (same : first.ledger = second.ledger)
    (pushed : first.push name action = .error fault) :
    second.push name action = .error fault := by
  unfold push at pushed ⊢
  rw [← ledger_manager same]
  split at pushed
  · exact pushed
  · cases pushed

/-- How the action of a step runs that asks for nothing. -/
theorem runStep_of_independent {step : Step} (independent : step.action.IsIndependent) :
    ∃ outcome, ∀ (service : Service) position,
      service.runStep position step =
        ((service.beginCall position step).endCall step [] outcome).book position step.name
          outcome := by
  rcases independent step.calls with ⟨ending, told⟩
  exact ⟨Service.outcome ending none, runStep_of_ending told⟩

/-- A step runs on a list that others have made longer as it runs on the shorter one. -/
theorem runStep_meanwhile {service mid : Service} {position : Nat} {step : Step}
    (independent : step.action.IsIndependent)
    (inside : position < service.manager.steps.length) {meanwhile : List (String × Action)}
    (same : mid.ledger = (service.registerAll meanwhile).ledger) :
    (mid.runStep position step).1 = (service.runStep position step).1 ∧
      (mid.runStep position step).2.ledger =
        ((service.runStep position step).2.registerAll meanwhile).ledger := by
  rcases runStep_of_independent independent with ⟨outcome, runs⟩
  have manager : mid.manager = service.manager.enlistAll meanwhile := by
    simpa using ledger_manager same
  have calls : mid.world.journal.calls = service.world.journal.calls := by
    simpa using ledger_calls same
  have noted : (service.manager.noteCall position).enlistAll meanwhile =
      (service.manager.enlistAll meanwhile).noteCall position :=
    Manager.enlistAll_change inside Step.called meanwhile
  rw [runs, runs]
  refine ⟨book_fst _ _ _ _ _, ledger_ext ?_ ?_⟩
  · simp only [book_manager, endCall_manager, beginCall_manager, registerAll_manager, manager]
    rw [outcome.enlistAll_mark (by simpa [Manager.noteCall] using inside), noted]
  · simp [calls]

theorem runStep_outline {step : Step} (independent : step.action.IsIndependent)
    (service : Service) (position : Nat) :
    (service.runStep position step).2.manager.outline = service.manager.outline := by
  rcases runStep_of_independent independent with ⟨outcome, runs⟩
  simp [runs]

theorem exec_foretold {service serial next : Service} {name : String} {action : Action}
    {happening : Happening α} {later : Phase} {plays : Action → Nat → Script → Prop}
    (manner : Manner) (independent : action.IsIndependent)
    (same : serial.ledger = service.ledger)
    (step : Phase.Step plays (.exec name action : Task α) service (.registering name action)
      happening next later) :
    (later.ComesTo manner (.exec name action : Task α) next fun meanwhile result =>
        result.1 = (serial.exec name action).1 ∧
          result.2.ledger = ((serial.exec name action).2.registerAll meanwhile).ledger) ∧
      (serial.exec name action).2.manager.outline = next.manager.outline ∧
      (next.manager.ready = true → (serial.exec name action).2.manager = next.manager) := by
  cases step with
  | @refuses _ _ fault pushed =>
      have rejected := push_congr_error same.symm pushed
      have executed : serial.exec name action =
          (.returned (.error (.duplicate fault)), serial) := by
        rw [exec, rejected]
      rw [executed]
      refine ⟨fun meanwhile _ => ⟨service.registerAll meanwhile, rfl, rfl, ?_⟩, ?_, ?_⟩
      · exact registerAll_congr same.symm meanwhile
      · rw [ledger_manager same]
      · exact fun _ => ledger_manager same
  | accepts pushed =>
      rcases push_congr same.symm pushed with ⟨appended, accepted, after⟩
      have length : serial.manager.steps.length = service.manager.steps.length := by
        rw [ledger_manager same]
      have executed : serial.exec name action =
          appended.runStep service.manager.steps.length { name, action } := by
        rw [exec, accepted, ← length]
      have quiet : ({ name, action } : Step).action.IsIndependent := independent
      have grown := (Manager.push_eq_ok (push_manager pushed)).2
      have stands := push_stands pushed
      rw [executed]
      refine ⟨fun meanwhile _ => ⟨next.registerAll meanwhile, rfl, ?_⟩, ?_, ?_⟩
      · have stillStands := Manager.enlistAll_stands stands meanwhile
        rw [← registerAll_manager] at stillStands
        have ran : (next.registerAll meanwhile).runAt service.manager.steps.length =
            (next.registerAll meanwhile).runStep service.manager.steps.length
              { name, action } := by
          rw [runAt, stillStands]
          rfl
        have inside : service.manager.steps.length < appended.manager.steps.length := by
          rw [ledger_manager after]
          exact (List.getElem?_eq_some_iff.mp stands).1
        have longer := registerAll_congr after.symm meanwhile
        have foretold := runStep_meanwhile quiet inside longer
        rw [← ran] at foretold
        exact foretold
      · rw [runStep_outline quiet, ledger_manager after]
      · intro ready
        rw [grown] at ready
        cases ready

/-! ## Walking -/

/-- A walk changes nothing once the flag of readiness is set. -/
theorem walk_of_ready {service : Service} (gate : service.manager.Gate)
    (ready : service.manager.ready = true) (position : Nat) :
    ∃ last, service.walk position = (.returned (.ok ()), last) ∧
      last.ledger = service.ledger := by
  generalize left : service.manager.steps.length - position = count
  induction count generalizing position with
  | zero =>
      have past : service.manager.steps[position]? = none :=
        List.getElem?_eq_none (by omega)
      refine ⟨_, walk_of_none past, ledger_ext ?_ (by simp)⟩
      simp only [log_manager, setReady_manager, Manager.setReady, ← ready]
  | succ count induction =>
      have inside : position < service.manager.steps.length := by omega
      have stands := List.getElem?_eq_getElem inside
      have done := gate ready position
      rw [Manager.completed?_of_stands stands] at done
      rcases induction (position + 1) (by omega) with ⟨last, walked, same⟩
      exact ⟨last, by rw [walk_of_done stands (by simpa using done), walked], same⟩

theorem attend_of_walk {task : Task α} (walk : task.isWalk = true) {service last : Service}
    (gate : service.manager.Gate) {finish : Finish (Except InitError Unit)}
    (walked : service.walk 0 = (finish, last)) :
    (service.attend task).1 = task.answer finish ∧
      (service.attend task).2.ledger = last.ledger := by
  cases task with
  | register | exec | look => cases walk
  | initializeAll => simp [attend, initializeAll, walked]
  | run application =>
      cases ready : service.manager.ready with
      | true =>
          rcases walk_of_ready gate ready 0 with ⟨settled, equal, same⟩
          rw [walked] at equal
          cases equal
          simp [attend, prepare, ready, same]
      | false =>
          simp only [attend, prepare, ready, initializeAll, walked]
          cases finish with
          | panicked message => exact ⟨rfl, rfl⟩
          | returned result =>
              cases result with
              | ok done => exact ⟨rfl, rfl⟩
              | error fault => exact ⟨rfl, ledger_ext (by simp) (by simp)⟩

end Service

end Bringup
