import Bringup.Proofs.Gauge

namespace Bringup

/-! In which order actions are called.

A walk calls actions at growing positions, and everything below a position is completed
when the action there is called. As long as nothing but walks calls actions, the steps that
are completed are the first ones of the list, and only the step right after them can be
under way (`System.Run.calls_in_order`). -/

namespace Happening

def called? : Happening α → Option Nat
  | called position => some position
  | _ => none

theorem called?_of_isCommon {happening : Happening α} (common : happening.isCommon = true) :
    happening.called? = none := by
  cases happening <;> first | rfl | cases common

end Happening

namespace Trace

def calledSince (trace : Trace α) (thread : Nat) : List Nat :=
  (trace.current thread).filterMap Happening.called?

theorem calledSince_began (trace : Trace α) (thread : Nat) (task : Task α) :
    calledSince (trace ++ [(thread, .began task)]) thread = [] := by
  rw [calledSince, current_began, List.filterMap_nil]

theorem calledSince_other (trace : Trace α) {thread other : Nat} (different : other ≠ thread)
    (happening : Happening α) :
    calledSince (trace ++ [(thread, happening)]) other = trace.calledSince other := by
  rw [calledSince, current_other trace different, calledSince]

theorem calledSince_snoc (trace : Trace α) (thread : Nat) {happening : Happening α}
    (outside : happening.begun = []) :
    calledSince (trace ++ [(thread, happening)]) thread =
      trace.calledSince thread ++ happening.called?.toList := by
  rw [calledSince, current_snoc trace thread outside, List.filterMap_append]
  cases named : happening.called? <;> simp [calledSince, named]

theorem mem_begun {trace : Trace α} {thread : Nat} {task : Task α} :
    task ∈ trace.begun thread ↔ (thread, .began task) ∈ trace := by
  simp only [begun, List.mem_flatMap, List.mem_filter, beq_iff_eq]
  constructor
  · rintro ⟨⟨other, happening⟩, ⟨member, same⟩, began⟩
    cases happening with
    | began first =>
        cases List.mem_singleton.mp began
        rwa [← same]
    | registered | rejected | called | ended | completed | walked | stopped | returned
    | silent => cases began
  · intro member
    exact ⟨_, ⟨member, rfl⟩, List.mem_singleton_self task⟩

end Trace

/-! ## Positions grow -/

namespace Phase

/-- What has been called lies below the position that the holder of the lock has come to. -/
def IsAfter (called : List Nat) : Phase → Prop
  | registering _ _ => called = []
  | visiting position | starting position => ∀ earlier ∈ called, earlier < position
  | acting performance => ∀ earlier ∈ called, earlier ≤ performance.position
  | booking position _ _ => ∀ earlier ∈ called, earlier ≤ position
  | stopping _ | leaving _ => True

theorem isAfter_nil (phase : Phase) : phase.IsAfter [] := by
  cases phase <;> simp [IsAfter]

theorem IsAfter.proceed (task : Task α) {called : List Nat} {position : Nat}
    (past : ∀ earlier ∈ called, earlier ≤ position)
    (finish : Finish (Except InitError Unit)) :
    (task.proceed position finish).IsAfter called := by
  unfold Task.proceed
  split
  · intro earlier member
    have bound := past earlier member
    omega
  · trivial
  · trivial

end Phase

variable {plays : Action → Nat → Script → Prop}

/-- An access of the holder calls nothing, or an action further on. -/
theorem Phase.Step.isAfter {task : Task α} {service next : Service} {phase later : Phase}
    {happening : Happening α} (step : Phase.Step plays task service phase happening next later)
    {called : List Nat} (grows : called.Pairwise (· < ·)) (past : phase.IsAfter called) :
    (called ++ happening.called?.toList).Pairwise (· < ·) ∧
      later.IsAfter (called ++ happening.called?.toList) := by
  have still : happening.called? = none → later.IsAfter called →
      (called ++ happening.called?.toList).Pairwise (· < ·) ∧
        later.IsAfter (called ++ happening.called?.toList) := by
    intro none after
    rw [none, Option.toList_none, List.append_nil]
    exact ⟨grows, after⟩
  cases step with
  | accepts pushed =>
      apply still rfl
      intro earlier member
      rw [show called = [] from past] at member
      cases member
  | refuses | arrives | stops => exact still rfl trivial
  | passes stands done =>
      apply still rfl
      intro earlier member
      exact Nat.lt_succ_of_lt (past earlier member)
  | finds | ends => exact still rfl past
  | @skips position step stands done =>
      apply still rfl
      apply IsAfter.proceed
      intro earlier member
      exact Nat.le_of_lt (past earlier member)
  | @calls position step script stands pending played =>
      constructor
      · rw [List.pairwise_append]
        refine ⟨grows, List.pairwise_singleton _ _, ?_⟩
        intro earlier member later here
        rw [List.mem_singleton.mp here]
        exact past earlier member
      · intro earlier member
        rcases List.mem_append.mp member with old | new
        · exact Nat.le_of_lt (past earlier old)
        · rw [List.mem_singleton.mp new]
          exact Nat.le_refl position
  | asks left replied =>
      exact still (Happening.called?_of_isCommon (Happening.isCommon_ofReply _ _)) past
  | @books next position name outcome finish booked =>
      apply still
      · cases outcome <;> rfl
      · exact IsAfter.proceed task past finish

def Place.IsAfter (called : List Nat) : Place α → Prop
  | beginning _ | waiting _ _ => called = []
  | holding _ phase => phase.IsAfter called
  | idle | applying _ | answering _ _ => True

namespace System

theorem Step.isAfter {system next : System α} {thread : Nat} {happening : Happening α}
    (step : Step plays system thread happening next) {trace : Trace α}
    (grows : (trace.calledSince thread).Pairwise (· < ·))
    (past : (system.place thread).IsAfter (trace.calledSince thread)) :
    (Trace.calledSince (trace ++ [(thread, happening)]) thread).Pairwise (· < ·) ∧
      (next.place thread).IsAfter
        (Trace.calledSince (trace ++ [(thread, happening)]) thread) := by
  have still : happening.begun = [] → happening.called? = none →
      (next.place thread).IsAfter (trace.calledSince thread) →
      (Trace.calledSince (trace ++ [(thread, happening)]) thread).Pairwise (· < ·) ∧
        (next.place thread).IsAfter
          (Trace.calledSince (trace ++ [(thread, happening)]) thread) := by
    intro outside none after
    rw [Trace.calledSince_snoc trace thread outside, none, Option.toList_none, List.append_nil]
    exact ⟨grows, after⟩
  cases step with
  | begins task idle =>
      rw [put_same, Trace.calledSince_began]
      constructor
      · exact List.Pairwise.nil
      · cases task <;> rfl
  | @registers name action result next beginning registered =>
      apply still
      · exact (Happening.outside_ofRegistration name result thread).1
      · exact Happening.called?_of_isCommon (Happening.isCommon_ofRegistration name result)
      · rw [put_same]
        trivial
  | looks | findsReady | applies | returns =>
      apply still rfl rfl
      rw [put_same]
      trivial
  | findsUnready beginning unready =>
      rw [beginning] at past
      apply still rfl rfl
      rw [put_same]
      exact past
  | @enters task phase waiting free =>
      rw [waiting] at past
      apply still rfl rfl
      rw [put_same, show trace.calledSince thread = [] from past]
      exact phase.isAfter_nil
  | works holding worked =>
      rw [holding] at past
      rw [put_same, Trace.calledSince_snoc trace thread (worked.outside_eq_nil thread).1]
      exact worked.isAfter grows past
  | @leaves task finish holding =>
      apply still rfl rfl
      rw [put_same]
      unfold Task.after
      split <;> trivial

theorem Run.isAfter {world : World} {trace : Trace α} {system : System α}
    (run : Run plays (fresh world) trace system) (thread : Nat) :
    (trace.calledSince thread).Pairwise (· < ·) ∧
      (system.place thread).IsAfter (trace.calledSince thread) := by
  induction run with
  | nil => exact ⟨List.Pairwise.nil, trivial⟩
  | snoc run actor step induction =>
      by_cases same : thread = actor
      · subst actor
        exact step.isAfter induction.1 induction.2
      · rw [step.place_other same, Trace.calledSince_other _ same]
        exact induction

end System

/-! ## Who calls, and who marks -/

/-- Where the completed steps are the first ones, the one that is due comes right after
them. -/
theorem Manager.IsDue.position_eq {manager : Manager} {task : Task α} {position done : Nat}
    (due : manager.IsDue task position) (walk : task.isWalk = true)
    (first : ∀ other, manager.completed? other = some true ↔ other < done) :
    position = done := by
  have reached : ¬ done < position := by
    intro beyond
    have completed := (first done).mp (due.below walk done beyond)
    omega
  have pending : ¬ position < done := by
    intro inside
    have completed := (first position).mpr inside
    rw [due.pending] at completed
    cases completed
  omega

theorem Phase.Step.starting_of_called {task : Task α} {service next : Service}
    {phase later : Phase} {position : Nat}
    (step : Phase.Step plays task service phase (.called position : Happening α) next later) :
    phase = .starting position := by
  generalize happened : (.called position : Happening α) = happening at step
  cases step with
  | calls stands pending played =>
      cases happened
      rfl
  | asks left replied => exact absurd happened (Happening.ne_ofReply rfl _ _)
  | @books next position name outcome finish booked => cases outcome <;> cases happened
  | accepts | refuses | passes | finds | arrives | skips | ends | stops => cases happened

theorem Phase.Step.booking_of_completed {task : Task α} {service next : Service}
    {phase later : Phase} {position : Nat}
    (step : Phase.Step plays task service phase (.completed position : Happening α) next later) :
    ∃ name outcome, phase = .booking position name outcome := by
  generalize happened : (.completed position : Happening α) = happening at step
  cases step with
  | asks left replied => exact absurd happened (Happening.ne_ofReply rfl _ _)
  | @books next position name outcome finish booked =>
      cases outcome <;> cases happened
      exact ⟨name, _, rfl⟩
  | accepts | refuses | passes | finds | arrives | skips | calls | ends | stops =>
      cases happened

namespace System

/-- What only the holder of the lock can do is an access of the holder. -/
theorem Step.worked {system next : System α} {thread : Nat} {happening : Happening α}
    (step : Step plays system thread happening next) (own : happening.isCommon = false) :
    ∃ task phase later, system.place thread = .holding task phase ∧
      Phase.Step plays task system.service phase happening next.service later := by
  cases step.move with
  | aside effect common =>
      rw [own] at common
      cases common
  | enter | leave => cases own
  | work holding worked => exact ⟨_, _, _, holding, worked⟩

theorem Sound.doneBelow_of_called {system next : System α} (sound : system.Sound)
    {thread position : Nat} (step : Step plays system thread (.called position) next) :
    ∃ task, system.place thread = .holding task (.starting position) ∧
      (task.isWalk = true → system.service.manager.DoneBelow position) := by
  rcases step.worked rfl with ⟨task, phase, later, holding, worked⟩
  cases worked.starting_of_called
  exact ⟨task, holding, (sound.fits holding).below⟩

/-! ## Nothing but walks -/

variable {world : World} {trace : Trace α} {system : System α}

/-- Where no step is executed on its own, whoever holds the lock is at a walk. -/
theorem Run.isWalk (run : Run plays (fresh world) trace system)
    (spared : ∀ thread name action, (thread, .began (.exec name action)) ∉ trace)
    {thread : Nat} {task : Task α} {phase : Phase}
    (holding : system.place thread = .holding task phase) : task.isWalk = true := by
  induction run generalizing thread task phase with
  | nil => cases holding
  | @snoc trace middle happening last run actor step induction =>
      have before : ∀ thread name action, (thread, .began (.exec name action)) ∉ trace :=
        fun thread name action member =>
          spared thread name action (List.mem_append_left _ member)
      by_cases same : thread = actor
      · subst actor
        cases step.move with
        | aside effect common outside stays opens =>
            rw [put_same] at holding
            rw [holding] at stays
            cases stays
        | @enter entered opened waiting free =>
            rw [put_same] at holding
            cases holding
            have opens := (run.sound (.fresh world)).opens waiting
            cases phase with
            | registering name action =>
                -- The task that a thread waits with is one that it began.
                have begun : task ∈ trace.begun thread := by
                  rw [run.begun (fun _ => rfl) thread, waiting]
                  exact List.mem_append_right _ (List.mem_singleton_self task)
                rw [show task = .exec name action from opens] at begun
                exact absurd (Trace.mem_begun.mp begun) (before thread name action)
            | visiting position => exact opens.1
            | starting | acting | booking | stopping | leaving => cases opens
        | work held worked =>
            rw [put_same] at holding
            cases holding
            exact induction before held
        | @leave left finish held =>
            rw [put_same] at holding
            unfold Task.after at holding
            split at holding <;> cases holding
      · rw [step.place_other same] at holding
        exact induction before holding

theorem Run.completed_first (run : Run plays (fresh world) trace system)
    (spared : ∀ thread name action, (thread, .began (.exec name action)) ∉ trace) :
    ∃ done, ∀ position,
      system.service.manager.completed? position = some true ↔ position < done := by
  induction run with
  | nil => exact ⟨0, fun position => by simp [fresh, Manager.completed?]⟩
  | @snoc trace middle happening last run actor step induction =>
      have before : ∀ thread name action, (thread, .began (.exec name action)) ∉ trace :=
        fun thread name action member =>
          spared thread name action (List.mem_append_left _ member)
      rcases induction before with ⟨done, first⟩
      by_cases marks : ∃ marked, happening = .completed marked
      · rcases marks with ⟨marked, rfl⟩
        rcases step.worked rfl with ⟨task, phase, later, holding, worked⟩
        rcases worked.booking_of_completed with ⟨name, outcome, rfl⟩
        have due : middle.service.manager.IsDue task marked :=
          (run.sound (.fresh world)).fits holding
        have here := due.position_eq (run.isWalk before holding) first
        refine ⟨done + 1, fun position => ?_⟩
        rw [show last.service.manager = _ from step.effect, Manager.completed?_markCompleted]
        by_cases same : position = marked
        · rw [if_pos same, same, due.pending]
          simp [here]
        · rw [if_neg same, first]
          omega
      · refine ⟨done, fun position => ?_⟩
        rw [step.effect.completed_iff fun equal => marks ⟨position, equal⟩, first]

/-- Whatever threads and actions do: when a walk calls the action at a position, every step
below is completed; a task calls actions at growing positions only; and where no step is
executed on its own, the completed steps are the first ones of the list, and only the step
right after them can be under way. -/
theorem Run.calls_in_order (run : Run plays (fresh world) trace system) :
    (∀ {thread position : Nat} {next : System α},
      Step plays system thread (.called position) next →
        ∃ task, system.place thread = .holding task (.starting position) ∧
          (task.isWalk = true → system.service.manager.DoneBelow position)) ∧
    (∀ thread, ((trace.current thread).filterMap Happening.called?).Pairwise (· < ·)) ∧
    ((∀ thread name action, (thread, .began (.exec name action)) ∉ trace) →
      ∃ done,
        (∀ position,
          system.service.manager.completed? position = some true ↔ position < done) ∧
        ∀ thread task performance,
          system.place thread = .holding task (.acting performance) →
            performance.position = done) := by
  have sound := run.sound (.fresh world)
  refine ⟨sound.doneBelow_of_called, fun thread => (run.isAfter thread).1, fun spared => ?_⟩
  rcases run.completed_first spared with ⟨done, first⟩
  refine ⟨done, first, fun thread task performance acting => ?_⟩
  have due : system.service.manager.IsDue task performance.position := sound.fits acting
  exact due.position_eq (run.isWalk spared acting) first

def overlapping : Trace Unit :=
  [(0, .began (.register "database" prompt)), (0, .registered "database"),
    (1, .began .initializeAll), (1, .silent), (1, .silent), (1, .called 0),
    (0, .returned (.register "database" prompt) .done),
    (0, .began (.register "cache" prompt)), (0, .registered "cache"), (1, .ended 0 .succeeded),
    (1, .completed 0), (1, .silent), (1, .called 1)]

theorem calls_in_order_overlapping : ∃ system : System Unit,
    Run Action.Plays (fresh {}) overlapping system ∧
      (overlapping.current 1).filterMap Happening.called? = [0, 1] ∧
      ((overlapping.current 1).filterMap Happening.called?).Pairwise (· < ·) ∧
      ∃ done,
        (∀ position,
          system.service.manager.completed? position = some true ↔ position < done) ∧
        ∀ thread task performance,
          system.place thread = .holding task (.acting performance) →
            performance.position = done := by
  have run : Run Action.Plays (fresh {} : System Unit) [] (fresh {}) := .nil _
  have run := run.snoc 0 (.begins (.register "database" prompt) rfl)
  have run := run.snoc 0 (.registers rfl rfl)
  have run := run.snoc 1 (.begins .initializeAll rfl)
  have run := run.snoc 1 (.enters rfl rfl)
  have run := run.snoc 1 (.works rfl (.finds rfl rfl))
  have run := run.snoc 1 (.works rfl (.calls rfl rfl rfl))
  have run := run.snoc 0 (.returns rfl)
  have run := run.snoc 0 (.begins (.register "cache" prompt) rfl)
  have run := run.snoc 0 (.registers rfl rfl)
  have run := run.snoc 1 (.works rfl (.ends rfl))
  have run := run.snoc 1 (.works rfl (.books rfl))
  have run := run.snoc 1 (.works rfl (.finds rfl rfl))
  have run := run.snoc 1 (.works rfl (.calls rfl rfl rfl))
  have told := run.calls_in_order
  have spared : ∀ thread name action,
      (thread, .began (.exec name action)) ∉ overlapping := by
    simp [overlapping]
  exact ⟨_, run, rfl, told.2.1 1, told.2.2 spared⟩

end System

end Bringup
