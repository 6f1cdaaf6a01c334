import Bringup.Proofs.Answers
import Bringup.Proofs.Walking

namespace Bringup

/-! Initializing again and again.

Each step of a list fails a number of times and succeeds from then on. Of a number of walks the
first one comes to the first step, and a walk goes on to the next step once there is no failure
left in this one. So a step that the failures before it have held back sees only the walks that
are left (`Faltering.stepsAfter`), and every walk takes one failure off the list until there is
none (`Service.attendAll_converges`). -/

namespace Ending

/-- How a call ends of an action that fails with some texts, one call after the other, and
succeeds from then on. -/
def afterFailures (failures : List String) (call : Nat) : Ending :=
  match failures[call]? with
  | some message => .fail message
  | none => .succeed

end Ending

/-- A step that is to be registered. Its action asks for nothing, and fails with the given texts
before it succeeds. -/
structure Faltering where
  name : String
  action : Action
  failures : List String
  falters : ∀ call, action.script? call = some (.script [] (.afterFailures failures call))

namespace Faltering

def ofFailures (name : String) (failures : List String) : Faltering where
  name
  action := .plain (.afterFailures failures)
  failures
  falters _ := rfl

def registration (one : Faltering) : Task α := .register one.name one.action

def faults (one : Faltering) : List InitError :=
  one.failures.map fun message => .step one.name (.said message)

def outcome (one : Faltering) (call : Nat) : Outcome :=
  Service.outcome (.afterFailures one.failures call) none

def call (one : Faltering) (call : Nat) : Call := ⟨one.name, call + 1, [], one.outcome call⟩

def calls (one : Faltering) : List Call :=
  (List.range (one.failures.length + 1)).map one.call

def step (one : Faltering) (walks : Nat) : Step where
  name := one.name
  action := one.action
  completed := decide (one.failures.length < walks)
  calls := min walks (one.failures.length + 1)

def stepsAfter (walks : Nat) : List Faltering → List Step
  | [] => []
  | one :: rest => one.step walks :: stepsAfter (walks - one.failures.length) rest

def callsAfter (walks : Nat) : List Faltering → List Call
  | [] => []
  | one :: rest => one.calls.take walks ++ callsAfter (walks - one.failures.length) rest

example : callsAfter 2 [ofFailures "database" ["refused"], ofFailures "cache" []] =
    [⟨"database", 1, [], .failed (.said "refused")⟩, ⟨"database", 2, [], .succeeded⟩,
      ⟨"cache", 1, [], .succeeded⟩] := rfl

/-! ## One step -/

variable (one : Faltering) {walks : Nat}

@[simp] theorem length_faults : one.faults.length = one.failures.length := List.length_map _

@[simp] theorem length_calls : one.calls.length = one.failures.length + 1 := by
  simp [calls]

theorem outcome_of_lt (left : walks < one.failures.length) :
    one.outcome walks = .failed (.said one.failures[walks]) := by
  simp [outcome, Ending.afterFailures, left, Service.outcome]

theorem outcome_of_eq : one.outcome one.failures.length = .succeeded := by
  simp [outcome, Ending.afterFailures, Service.outcome]

theorem completed_step_of_le (left : walks ≤ one.failures.length) :
    (one.step walks).completed = false :=
  decide_eq_false (Nat.not_lt.mpr left)

theorem settle_step (left : walks ≤ one.failures.length) :
    (one.outcome walks).settle (one.step walks) = one.step (walks + 1) := by
  have counted : min walks (one.failures.length + 1) + 1 =
      min (walks + 1) (one.failures.length + 1) := by omega
  rcases Nat.lt_or_eq_of_le left with before | rfl
  · have unfinished : ¬ one.failures.length < walks ∧ ¬ one.failures.length < walks + 1 := by
      omega
    simp [one.outcome_of_lt before, Outcome.settle, Outcome.isSuccess, step, unfinished, counted]
  · simp [outcome_of_eq, Outcome.settle, Outcome.isSuccess, step]

/-- After its first success, no walk makes a difference. -/
theorem step_of_lt (done : one.failures.length < walks) :
    one.step walks = one.step (walks + 1) := by
  have saturated : min walks (one.failures.length + 1) =
      min (walks + 1) (one.failures.length + 1) := by omega
  rw [step, step, saturated, decide_eq_true done, decide_eq_true (Nat.lt_succ_of_lt done)]

theorem take_calls_succ (left : walks ≤ one.failures.length) :
    one.calls.take (walks + 1) = one.calls.take walks ++ [one.call walks] := by
  have inside : walks < one.calls.length := by
    rw [length_calls]
    omega
  rw [List.take_succ_eq_append_getElem inside]
  simp [calls]

theorem take_calls_of_lt (done : one.failures.length < walks) :
    one.calls.take walks = one.calls :=
  List.take_of_length_le (by rw [length_calls]; omega)

theorem stepsAfter_zero (steps : List Faltering) :
    stepsAfter 0 steps = steps.map fun one => { name := one.name, action := one.action } := by
  induction steps with
  | nil => rfl
  | cons one rest induction => simp [stepsAfter, step, induction]

@[simp] theorem callsAfter_zero (steps : List Faltering) : callsAfter 0 steps = [] := by
  induction steps with
  | nil => rfl
  | cons one rest induction => simp [callsAfter, induction]

theorem runStep (service : Service) (position : Nat) (left : walks ≤ one.failures.length) :
    (service.runStep position (one.step walks)).1 = (one.outcome walks).finish one.name ∧
      (service.runStep position (one.step walks)).2.manager =
        service.manager.change position (one.outcome walks).settle ∧
      (service.runStep position (one.step walks)).2.world.journal.calls =
        service.world.journal.calls ++ [one.call walks] := by
  have counted : (one.step walks).calls = walks := Nat.min_eq_left (Nat.le_succ_of_le left)
  have told : (one.step walks).action.script? (one.step walks).calls =
      some (.script [] (.afterFailures one.failures walks)) := by
    rw [counted]
    exact one.falters walks
  have ran : service.runStep position (one.step walks) =
      ((service.beginCall position (one.step walks)).endCall (one.step walks) []
        (one.outcome walks)).book position one.name (one.outcome walks) :=
    Service.runStep_of_ending told service position
  rw [ran]
  refine ⟨?_, ?_, ?_⟩
  · cases one.outcome walks <;> rfl
  · rw [Service.book_manager, Service.endCall_manager, Service.beginCall_manager]
    exact Outcome.mark_called _ _ _
  · rw [Service.book_calls, Service.endCall_calls, Service.beginCall_calls, counted]
    rfl

end Faltering

/-! ## One walk -/

namespace Service

/-- A number of walks have come to the first of some steps, which stand behind completed ones. -/
structure Retried (front : List Step) (called : List Call) (walks : Nat)
    (steps : List Faltering) (service : Service) : Prop where
  listed : service.manager.steps = front ++ Faltering.stepsAfter walks steps
  told : service.world.journal.calls = called ++ Faltering.callsAfter walks steps

variable {front : List Step} {called : List Call} {walks : Nat} {one : Faltering}
  {rest steps : List Faltering} {service : Service}

theorem Retried.stands (retried : service.Retried front called walks (one :: rest)) :
    service.manager.steps[front.length]? = some (one.step walks) := by
  simp [retried.listed, Faltering.stepsAfter]

theorem Retried.call (retried : service.Retried front called walks (one :: rest))
    (left : walks ≤ one.failures.length) :
    (service.runStep front.length (one.step walks)).2.manager.steps =
        front ++ one.step (walks + 1) :: Faltering.stepsAfter 0 rest ∧
      (service.runStep front.length (one.step walks)).2.world.journal.calls =
        called ++ one.calls.take (walks + 1) := by
  have none : walks - one.failures.length = 0 := Nat.sub_eq_zero_of_le left
  rcases one.runStep service front.length left with ⟨_, manager, calls⟩
  constructor
  · rw [manager, Manager.change, retried.listed, Faltering.stepsAfter,
      Manager.modify_length_append, one.settle_step left, none]
  · rw [calls, retried.told, Faltering.callsAfter, none, Faltering.callsAfter_zero,
      List.append_nil, List.append_assoc, one.take_calls_succ left]

theorem Retried.fail (retried : service.Retried front called walks (one :: rest))
    (left : walks < one.failures.length) :
    (service.walk front.length).1 =
        .returned (.error (.step one.name (.said one.failures[walks]))) ∧
      (service.walk front.length).2.manager.ready = false ∧
      (service.walk front.length).2.Retried front called (walks + 1) (one :: rest) := by
  have after := retried.call (Nat.le_of_lt left)
  have ended := (one.runStep service front.length (Nat.le_of_lt left)).1
  have none : walks + 1 - one.failures.length = 0 := Nat.sub_eq_zero_of_le left
  rw [one.outcome_of_lt left] at ended
  rw [walk_of_pending retried.stands (one.completed_step_of_le (Nat.le_of_lt left))]
  rcases ran : service.runStep front.length (one.step walks) with ⟨finish, next⟩
  rw [ran] at after ended
  cases ended
  refine ⟨rfl, rfl, ⟨?_, ?_⟩⟩
  · rw [Faltering.stepsAfter, none]
    exact after.1
  · rw [Faltering.callsAfter, none, Faltering.callsAfter_zero, List.append_nil]
    exact (setReady_calls next false).trans after.2

/-- A walk that finds no failure in the first step goes on to the next one. -/
theorem Retried.pass (retried : service.Retried front called walks (one :: rest))
    (spent : one.failures.length ≤ walks) :
    ∃ next : Service,
      service.walk front.length = next.walk (front ++ [one.step (walks + 1)]).length ∧
      next.Retried (front ++ [one.step (walks + 1)]) (called ++ one.calls)
        (walks - one.failures.length) rest := by
  rw [List.length_append, List.length_singleton]
  rcases Nat.lt_or_eq_of_le spent with done | rfl
  · refine ⟨service, walk_of_done retried.stands (decide_eq_true done), ?_, ?_⟩
    · rw [retried.listed, Faltering.stepsAfter, List.append_assoc, one.step_of_lt done]
      rfl
    · rw [retried.told, Faltering.callsAfter, List.append_assoc, one.take_calls_of_lt done]
  · have after := retried.call (Nat.le_refl _)
    have ended := (one.runStep service front.length (Nat.le_refl _)).1
    rw [one.outcome_of_eq] at ended
    rw [walk_of_pending retried.stands (one.completed_step_of_le (Nat.le_refl _)), Nat.sub_self]
    rcases ran : service.runStep front.length (one.step one.failures.length) with ⟨finish, next⟩
    rw [ran] at after ended
    cases ended
    refine ⟨next, rfl, ?_, ?_⟩
    · rw [List.append_assoc]
      exact after.1
    · rw [Faltering.callsAfter_zero, List.append_nil, after.2,
        one.take_calls_of_lt (Nat.lt_succ_self _)]

def finishAt (fault? : Option InitError) : Finish (Except InitError Unit) :=
  match fault? with
  | some fault => .returned (.error fault)
  | none => .returned (.ok ())

/-- Each walk comes to the next failure, and past everything once there is none. -/
theorem Retried.walk (retried : service.Retried front called walks steps) :
    (service.walk front.length).1 = finishAt (steps.flatMap Faltering.faults)[walks]? ∧
      (service.walk front.length).2.manager.ready =
        decide ((steps.flatMap Faltering.faults).length ≤ walks) ∧
      (service.walk front.length).2.Retried front called (walks + 1) steps := by
  induction steps generalizing front called walks service with
  | nil =>
      have past : service.manager.steps[front.length]? = none := by
        simp [retried.listed, Faltering.stepsAfter]
      have calls := (setReady_calls service true).trans retried.told
      rw [walk_of_none past]
      exact ⟨rfl, (decide_eq_true (Nat.zero_le walks)).symm,
        ⟨retried.listed, (log_calls _ _).trans calls⟩⟩
  | cons one rest induction =>
      rw [List.flatMap_cons, List.length_append, Faltering.length_faults]
      rcases Nat.lt_or_ge walks one.failures.length with left | spent
      · have failed := retried.fail left
        refine ⟨?_, ?_, failed.2.2⟩
        · rw [failed.1, List.getElem?_append_left (by simpa using left)]
          simp [Faltering.faults, left, finishAt]
        · rw [failed.2.1]
          exact (decide_eq_false (by omega)).symm
      · rcases retried.pass spent with ⟨next, walked, passed⟩
        rcases induction passed with ⟨finished, ready, after⟩
        have onward : walks + 1 - one.failures.length = walks - one.failures.length + 1 := by
          omega
        rw [walked]
        refine ⟨?_, ?_, ⟨?_, ?_⟩⟩
        · rw [finished, List.getElem?_append_right (by simpa using spent),
            Faltering.length_faults]
        · rw [ready]
          exact decide_eq_decide.mpr (by omega)
        · rw [after.listed, Faltering.stepsAfter, onward, List.append_assoc]
          rfl
        · rw [after.told, Faltering.callsAfter, onward, List.append_assoc,
            one.take_calls_of_lt (by omega)]

/-! ## All walks -/

theorem Retried.initializeTimes (retried : service.Retried [] called walks steps)
    (ready : service.manager.ready = decide ((steps.flatMap Faltering.faults).length < walks))
    (times : Nat) :
    (service.initializeTimes (α := α) times).1 =
        (((steps.flatMap Faltering.faults).drop walks).take times).map .notStarted ++
          List.replicate (times - ((steps.flatMap Faltering.faults).length - walks)) .done ∧
      (service.initializeTimes (α := α) times).2.manager.ready =
        decide ((steps.flatMap Faltering.faults).length < walks + times) ∧
      (service.initializeTimes (α := α) times).2.Retried [] called (walks + times) steps := by
  induction times generalizing service walks with
  | zero =>
      refine ⟨?_, ready, retried⟩
      simp [Service.initializeTimes]
  | succ times induction =>
      have walked := retried.walk
      rcases ended : service.walk 0 with ⟨finish, next⟩
      rw [List.length_nil, ended] at walked
      rcases walked with ⟨finished, flag, after⟩
      have later := induction after (flag.trans (decide_eq_decide.mpr (by omega)))
      rw [show walks + 1 + times = walks + (times + 1) by omega] at later
      simp only [Service.initializeTimes, initializeAll, ended]
      refine ⟨?_, later.2⟩
      rw [later.1, show finish = _ from finished]
      rcases Nat.lt_or_ge walks (steps.flatMap Faltering.faults).length with left | spent
      · have rest : times + 1 - ((steps.flatMap Faltering.faults).length - walks) =
            times - ((steps.flatMap Faltering.faults).length - (walks + 1)) := by omega
        rw [List.getElem?_eq_getElem left, List.drop_eq_getElem_cons left, rest]
        rfl
      · have none : (steps.flatMap Faltering.faults).length - walks = 0 ∧
            (steps.flatMap Faltering.faults).length - (walks + 1) = 0 := by omega
        rw [List.getElem?_eq_none spent, List.drop_eq_nil_of_le spent,
          List.drop_eq_nil_of_le (Nat.le_succ_of_le spent), none.1, none.2, List.take_nil,
          List.take_nil, Nat.sub_zero, Nat.sub_zero, List.replicate_succ]
        rfl

theorem attendAll_registrations (indexed : service.manager.Indexed)
    (unready : service.manager.ready = false)
    (distinct : (service.manager.steps.map Step.name ++ steps.map Faltering.name).Nodup) :
    let result := service.attendAll (steps.map (Faltering.registration (α := α)))
    result.1 = List.replicate steps.length .done ∧
      result.2.manager.steps = service.manager.steps ++ Faltering.stepsAfter 0 steps ∧
      result.2.world.journal.calls = service.world.journal.calls ∧
      result.2.manager.ready = false := by
  induction steps generalizing service with
  | nil => exact ⟨rfl, (List.append_nil _).symm, rfl, unready⟩
  | cons one rest induction =>
      have unused : one.name ∉ service.manager.steps.map Step.name := by
        intro member
        exact (List.nodup_append.mp distinct).2.2 _ member _ (.head _) rfl
      have free := indexed.free unused
      have enlisted := indexed.enlist one.name one.action
      have calls := register_calls service one.name one.action
      have manager := register_manager service one.name one.action
      rw [Manager.enlist_of_free free] at enlisted manager
      rcases registered : service.register one.name one.action with ⟨result, next⟩
      have accepted : result = .ok () := by
        simp only [register, push, Manager.push, free] at registered
        exact (congrArg Prod.fst registered).symm
      rw [registered] at calls manager
      subst accepted
      simp only at manager
      have grown : next.manager.Indexed := by rwa [manager]
      have later := induction grown (by rw [manager]) (by rw [manager]; simpa using distinct)
      simp only [List.map_cons, attendAll, attend, Faltering.registration, registered]
      refine ⟨?_, ?_, later.2.2.1.trans calls, later.2.2.2⟩
      · rw [later.1]
        rfl
      · rw [later.2.1, manager]
        simp [Faltering.stepsAfter_zero]

end Service

namespace Faltering

theorem ofStep_calls (one : Faltering) (walks : Nat) :
    Call.ofStep one.name (one.calls.take walks) = one.calls.take walks := by
  refine List.filter_eq_self.mpr fun call member => decide_eq_true ?_
  rcases List.mem_map.mp (List.mem_of_mem_take member) with ⟨number, _, rfl⟩
  rfl

theorem ofStep_other {name : String} {steps : List Faltering}
    (other : name ∉ steps.map Faltering.name) (walks : Nat) :
    Call.ofStep name (callsAfter walks steps) = [] := by
  induction steps generalizing walks with
  | nil => rfl
  | cons one rest induction =>
      rw [List.map_cons, List.mem_cons, not_or] at other
      rw [callsAfter, Call.ofStep, List.filter_append]
      refine List.append_eq_nil_iff.mpr ⟨?_, induction other.2 _⟩
      refine List.filter_eq_nil_iff.mpr fun call member same => other.1 ?_
      rcases List.mem_map.mp (List.mem_of_mem_take member) with ⟨number, _, rfl⟩
      exact (of_decide_eq_true same).symm

theorem ofStep_callsAfter {before after : List Faltering} {one : Faltering}
    (distinct : ((before ++ one :: after).map Faltering.name).Nodup) (walks : Nat) :
    Call.ofStep one.name (callsAfter walks (before ++ one :: after)) =
      one.calls.take (walks - (before.flatMap faults).length) := by
  induction before generalizing walks with
  | nil =>
      have other : one.name ∉ after.map Faltering.name := (List.nodup_cons.mp distinct).1
      rw [List.nil_append, callsAfter, Call.ofStep, List.filter_append]
      have rest : Call.ofStep one.name (callsAfter (walks - one.failures.length) after) = [] :=
        ofStep_other other _
      have own := one.ofStep_calls walks
      unfold Call.ofStep at rest own
      rw [rest, own, List.append_nil]
      rfl
  | cons first before induction =>
      rw [List.cons_append, List.map_cons, List.nodup_cons] at distinct
      have different : one.name ∉ [first].map Faltering.name := by
        intro same
        rw [List.map_singleton, List.mem_singleton] at same
        refine distinct.1 ?_
        rw [← same]
        simp
      have none : Call.ofStep one.name (first.calls.take walks) = [] := by
        have alone := ofStep_other different walks
        simpa [callsAfter] using alone
      have later := induction distinct.2 (walks - first.failures.length)
      unfold Call.ofStep at none later ⊢
      rw [List.cons_append, callsAfter, List.filter_append, none, later, List.nil_append,
        List.flatMap_cons, List.length_append, length_faults, Nat.sub_sub]

end Faltering

namespace Service

/-- Steps with names of their own are registered on a new manager, and each fails a number of
times. However often one initializes then: first every failure is reported in turn, those of the
first step before those of the second, and from then on nothing fails. Each step is called by the
walks that the failures before it have left, once for each of its failures and once more; after
the first success each has had all these calls, and no others follow. The flag of readiness is
set from the first success on. -/
theorem attendAll_converges (world : World) {steps : List Faltering}
    (distinct : (steps.map Faltering.name).Nodup) (times : Nat) :
    let result := ({ world } : Service).attendAll
      (steps.map Faltering.registration ++ List.replicate times (.initializeAll : Task α))
    let faults := steps.flatMap Faltering.faults
    let called := Faltering.callsAfter times steps
    result.1 = List.replicate steps.length .done ++
        ((faults.take times).map .notStarted ++ List.replicate (times - faults.length) .done) ∧
      (result.2.manager.ready = true ↔ faults.length < times) ∧
      result.2.manager.steps = Faltering.stepsAfter times steps ∧
      result.2.world.journal.calls = world.journal.calls ++ called ∧
      (∀ before one after, steps = before ++ one :: after →
        Call.ofStep one.name called =
          one.calls.take (times - (before.flatMap Faltering.faults).length)) ∧
      (faults.length < times → ∀ one ∈ steps,
        (Call.ofStep one.name called).length = one.failures.length + 1) := by
  intro result faults called
  have empty : ({ world } : Service).manager.Indexed := .fresh
  rcases attendAll_registrations (α := α) empty rfl distinct with
    ⟨accepted, stood, uncalled, unready⟩
  have retried : Retried [] world.journal.calls 0 steps
      (({ world } : Service).attendAll (steps.map (Faltering.registration (α := α)))).2 := by
    refine ⟨stood, ?_⟩
    rw [uncalled, Faltering.callsAfter_zero, List.append_nil]
  have walked := retried.initializeTimes (α := α)
    (unready.trans (decide_eq_false (Nat.not_lt_zero _)).symm) times
  rw [Nat.zero_add] at walked
  rcases walked with ⟨answers, ready, last⟩
  have split : result = _ := attendAll_append _ _ _
  rw [attendAll_initializeAll, accepted, answers] at split
  have counted : ∀ before one after, steps = before ++ one :: after →
      Call.ofStep one.name called =
        one.calls.take (times - (before.flatMap Faltering.faults).length) := by
    rintro before one after rfl
    exact Faltering.ofStep_callsAfter distinct times
  rw [split]
  refine ⟨rfl, ?_, last.listed, last.told, counted, ?_⟩
  · rw [ready]
    exact decide_eq_true_iff
  · intro succeeded one member
    rcases List.append_of_mem member with ⟨before, after, rfl⟩
    have total : faults.length = (before.flatMap Faltering.faults).length +
        (one.failures.length + (after.flatMap Faltering.faults).length) := by
      simp [faults]
    rw [counted before one after rfl, List.length_take, Faltering.length_calls]
    omega

/-- Two steps that fail twice and once, and five walks. -/
theorem attendAll_converges_after_three :
    let steps : List Faltering :=
      [.ofFailures "database" ["refused", "timeout"], .ofFailures "cache" ["silent"]]
    let result := ({} : Service).attendAll
      (steps.map Faltering.registration ++ List.replicate 5 (.initializeAll : Task Unit))
    result.1 = [.done, .done, .notStarted (.step "database" (.said "refused")),
        .notStarted (.step "database" (.said "timeout")),
        .notStarted (.step "cache" (.said "silent")), .done, .done] ∧
      result.2.manager.ready = true ∧
      result.2.manager.status = [⟨"database", true⟩, ⟨"cache", true⟩] ∧
      (Call.ofStep "database" result.2.world.journal.calls).length = 3 ∧
      (Call.ofStep "cache" result.2.world.journal.calls).length = 2 := by
  intro steps result
  have distinct : (steps.map Faltering.name).Nodup := by decide
  rcases attendAll_converges (α := Unit) {} distinct 5 with
    ⟨answers, ready, stood, calls, _, counted⟩
  have all := counted (by decide)
  refine ⟨answers, ready.mpr (by decide), ?_, ?_, ?_⟩
  · rw [Manager.status, stood]
    rfl
  · rw [calls]
    exact all _ (.head _)
  · rw [calls]
    exact all _ (.tail _ (.head _))

end Service

end Bringup
