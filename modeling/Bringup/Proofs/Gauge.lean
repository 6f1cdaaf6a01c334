import Bringup.Proofs.Answers
import Bringup.Proofs.Entries
import Bringup.Proofs.Readout

namespace Bringup

/-! The gauge of readiness, whatever the threads do.

The gauge is set in the same sections as the flag, once for each registration that is
accepted and once at the end of each walk that does not panic, and nowhere else
(`System.Step.gauges`). Its last value is therefore the flag at all times. -/

namespace Happening

def setting? : Happening α → Option Bool
  | registered _ | stopped => some false
  | walked => some true
  | began _ | rejected _ | called _ | ended _ _ | completed _ | returned _ _ | silent => none

theorem Effect.ready_eq {happening : Happening α} {before after : Manager}
    (effect : happening.Effect before after) :
    after.ready = happening.setting?.getD before.ready := by
  cases happening with
  | registered name =>
      rcases effect with ⟨action, pushed⟩
      rw [(Manager.push_eq_ok pushed).2]
      rfl
  | walked | stopped | called | completed => cases effect; rfl
  | began | rejected | ended | returned | silent => cases effect; rfl

theorem gauges_registrationEntries (name : String) (position : Nat)
    (result : Except DuplicateName Unit) :
    Journal.gauges (Service.registrationEntries name position result) =
      (ofRegistration name result : Happening α).setting?.toList := by
  cases result <;> rfl

theorem gauges_bookingEntries (position : Nat) (name : String) (outcome : Outcome) :
    Journal.gauges (Service.bookingEntries name outcome) =
      (ofBooking position outcome : Happening α).setting?.toList := by
  cases outcome <;> rfl

end Happening

/-! ## What each access sets -/

namespace Service

theorem report_gauges (service : Service) (task : Task α)
    (finish : Finish (Except InitError Unit)) :
    (service.report task finish).world.journal.gauges = service.world.journal.gauges := by
  unfold report
  split
  · simp [Journal.gauges, log_journal]
  · rfl

theorem reply_gauges {service next : Service} {request : Request} {reply : Reply}
    {rejected : Option DuplicateName}
    (replied : service.reply request = ((reply, rejected), next)) :
    next.world.journal.gauges = service.world.journal.gauges ++
      (Happening.ofReply request reply : Happening α).setting?.toList := by
  have written := service.reply_journal request
  rw [replied] at written
  rw [written, Journal.gauges_append]
  cases request with
  | register name runs isRequired =>
      cases reply with
      | registered result => exact congrArg _ (Happening.gauges_registrationEntries _ _ _)
      | truth | statuses => rfl
  | isInitialized | isReady | status => rfl

end Service

variable {plays : Action → Nat → Script → Prop}

theorem Phase.Step.gauges {task : Task α} {service next : Service} {phase later : Phase}
    {happening : Happening α} (step : Phase.Step plays task service phase happening next later) :
    next.world.journal.gauges =
      service.world.journal.gauges ++ happening.setting?.toList := by
  cases step with
  | accepts pushed => rw [Service.push_journal pushed, Journal.gauges_append]; rfl
  | refuses | passes | finds | skips => simp [Happening.setting?]
  | arrives | calls | ends | stops =>
      simp [Journal.gauges, Happening.setting?, Service.log_journal, Service.setReady_journal,
        Service.beginCall_journal, Service.endCall_journal]
  | asks left replied => exact Service.reply_gauges replied
  | books booked =>
      rename_i position name outcome finish
      have written := service.book_journal position name outcome
      rw [booked] at written
      rw [written, Journal.gauges_append, Happening.gauges_bookingEntries]

theorem System.Step.gauges {system next : System α} {thread : Nat} {happening : Happening α}
    (step : System.Step plays system thread happening next) :
    next.service.world.journal.gauges =
      system.service.world.journal.gauges ++ happening.setting?.toList := by
  cases step with
  | begins | looks | findsReady | findsUnready | enters | applies | returns =>
      simp [Happening.setting?]
  | registers beginning registered =>
      rename_i name action result after
      have written := system.service.register_journal name action
      rw [registered] at written
      rw [System.put_service, written, Journal.gauges_append,
        Happening.gauges_registrationEntries]
  | works holding worked => exact worked.gauges
  | leaves holding =>
      rw [System.put_service, Service.report_gauges]
      simp [Happening.setting?]

/-! ## What a task sets -/

namespace Trace

def settings (trace : Trace α) : List Bool := trace.filterMap fun entry => entry.2.setting?

theorem settings_snoc (trace : Trace α) (thread : Nat) (happening : Happening α) :
    settings (trace ++ [(thread, happening)]) = trace.settings ++ happening.setting?.toList := by
  unfold settings
  rw [List.filterMap_append]
  cases set : happening.setting? <;> simp [set]

def current (trace : Trace α) (thread : Nat) : List (Happening α) :=
  trace.foldl (fun done entry =>
    if entry.1 = thread then
      match entry.2 with
      | .began _ => []
      | happening => done ++ [happening]
    else done) []

theorem current_began (trace : Trace α) (thread : Nat) (task : Task α) :
    current (trace ++ [(thread, .began task)]) thread = [] := by
  simp [current]

theorem current_other (trace : Trace α) {thread other : Nat} (different : other ≠ thread)
    (happening : Happening α) :
    current (trace ++ [(thread, happening)]) other = trace.current other := by
  simp [current, Ne.symm different]

theorem current_snoc (trace : Trace α) (thread : Nat) {happening : Happening α}
    (outside : happening.begun = []) :
    current (trace ++ [(thread, happening)]) thread = trace.current thread ++ [happening] := by
  cases happening with
  | began task => cases outside
  | registered | rejected | called | ended | completed | walked | stopped | returned | silent =>
      simp [current]

end Trace

namespace Finish

/-- The value that the end of a walk sets the gauge to. A panic sets nothing. -/
def setting? : Finish (Except InitError Unit) → Option Bool
  | returned (.ok ()) => some true
  | returned (.error _) => some false
  | panicked _ => none

end Finish

namespace Phase

def setting? (task : Task α) : Phase → Option Bool
  | leaving finish => if task.isWalk then finish.setting? else none
  | _ => none

def StopsWalk (task : Task α) : Phase → Prop
  | stopping _ => task.isWalk = true
  | _ => True

theorem Opens.setting {task : Task α} {phase : Phase} (opens : phase.Opens task) :
    phase.setting? task = none ∧ phase.StopsWalk task := by
  cases phase with
  | registering | visiting => exact ⟨rfl, trivial⟩
  | starting | acting | booking | stopping | leaving => cases opens

theorem proceed_setting (task : Task α) (position : Nat)
    (finish : Finish (Except InitError Unit)) :
    (task.proceed position finish).setting? task = none ∧
      (task.proceed position finish).StopsWalk task := by
  unfold Task.proceed
  cases walk : task.isWalk with
  | false => exact ⟨by simp [setting?, walk], trivial⟩
  | true =>
      cases finish with
      | panicked message => exact ⟨by simp [setting?, Finish.setting?], trivial⟩
      | returned result =>
          cases result with
          | ok done => exact ⟨rfl, trivial⟩
          | error fault => exact ⟨rfl, walk⟩

end Phase

/-- What a task has set so far: 0 for each registration of its own, and last of all the
value at the end of its walk. -/
def Happening.Balanced (done : List (Happening α)) (ending : Option Bool) : Prop :=
  done.filterMap setting? =
    List.replicate (done.filterMap registered?).length false ++ ending.toList

theorem Happening.Balanced.quiet {done : List (Happening α)} {ending : Option Bool}
    (balanced : Balanced done ending) {happening : Happening α}
    (unset : happening.setting? = none) : Balanced (done ++ [happening]) ending := by
  have unregistered : happening.registered? = none := by
    cases happening <;> first | rfl | cases unset
  simpa [Balanced, unset, unregistered] using balanced

theorem Happening.Balanced.registers {done : List (Happening α)} (balanced : Balanced done none)
    (name : String) : Balanced (done ++ [.registered name]) none := by
  simp only [Balanced, Option.toList_none, List.append_nil] at balanced
  simp [Balanced, setting?, registered?, balanced, List.replicate_succ']

theorem Happening.Balanced.ends {done : List (Happening α)} (balanced : Balanced done none)
    {happening : Happening α} {ending : Bool} (set : happening.setting? = some ending)
    (unregistered : happening.registered? = none) :
    Balanced (done ++ [happening]) (some ending) := by
  simp only [Balanced, Option.toList_none, List.append_nil] at balanced
  simp [Balanced, set, unregistered, balanced]

/-! ## Over a whole run -/

theorem Phase.Step.balanced {task : Task α} {service next : Service} {phase later : Phase}
    {happening : Happening α} (step : Phase.Step plays task service phase happening next later)
    (fits : phase.Fits task service.manager) (stops : phase.StopsWalk task)
    {done : List (Happening α)} (balanced : Happening.Balanced done (phase.setting? task)) :
    Happening.Balanced (done ++ [happening]) (later.setting? task) ∧ later.StopsWalk task := by
  cases step with
  | accepts pushed => exact ⟨balanced.registers _, trivial⟩
  | refuses pushed =>
      cases fits
      exact ⟨balanced.quiet rfl, trivial⟩
  | passes | finds | calls | ends => exact ⟨balanced.quiet rfl, trivial⟩
  | arrives past =>
      simp only [setting?, fits.1, if_true]
      exact ⟨balanced.ends rfl rfl, trivial⟩
  | @skips position step stands completed =>
      have after := proceed_setting task position (.returned (.ok ()))
      exact ⟨after.1 ▸ balanced.quiet rfl, after.2⟩
  | @asks next performance request rest reply rejected left replied =>
      refine ⟨?_, trivial⟩
      unfold Happening.ofReply
      split
      · rename_i name runs isRequired result
        cases result with
        | ok accepted => exact balanced.registers name
        | error fault => exact balanced.quiet rfl
      · exact balanced.quiet rfl
  | @books next position name outcome finish booked =>
      have after := proceed_setting task position finish
      refine ⟨after.1 ▸ balanced.quiet ?_, after.2⟩
      cases outcome <;> rfl
  | stops =>
      have walk : task.isWalk = true := stops
      simp only [setting?, walk, if_true]
      exact ⟨balanced.ends rfl rfl, trivial⟩

def Place.Balanced (done : List (Happening α)) : Place α → Prop
  | beginning _ | waiting _ _ => Happening.Balanced done none
  | holding task phase => Happening.Balanced done (phase.setting? task) ∧ phase.StopsWalk task
  | idle | applying _ | answering _ _ => True

namespace System

theorem Step.balanced {system next : System α} {thread : Nat} {happening : Happening α}
    (step : Step plays system thread happening next) (sound : system.Sound) {trace : Trace α}
    (balanced : (system.place thread).Balanced (trace.current thread)) :
    (next.place thread).Balanced (Trace.current (trace ++ [(thread, happening)]) thread) := by
  cases step with
  | begins task idle =>
      rw [put_same, Trace.current_began]
      cases task <;> rfl
  | registers | looks | findsReady | applies | returns => rw [put_same]; trivial
  | findsUnready beginning unready =>
      rw [beginning] at balanced
      rw [put_same, Trace.current_snoc _ _ rfl]
      exact balanced.quiet rfl
  | enters waiting free =>
      rw [waiting] at balanced
      have opened := (sound.opens waiting).setting
      rw [put_same, Trace.current_snoc _ _ rfl]
      exact ⟨opened.1 ▸ balanced.quiet rfl, opened.2⟩
  | works holding worked =>
      rw [holding] at balanced
      rw [put_same, Trace.current_snoc _ _ (worked.outside_eq_nil thread).1]
      exact worked.balanced (sound.fits holding) balanced.2 balanced.1
  | leaves holding =>
      rw [put_same]
      unfold Task.after
      split <;> trivial

theorem Run.balanced {world : World} {trace : Trace α} {system : System α}
    (run : Run plays (fresh world) trace system) (thread : Nat) :
    (system.place thread).Balanced (trace.current thread) := by
  induction run with
  | nil => trivial
  | snoc run actor step induction =>
      by_cases same : thread = actor
      · subst actor
        exact step.balanced (run.sound (.fresh world)) induction
      · rw [step.place_other same, Trace.current_other _ same]
        exact induction

theorem Run.gauges {world : World} {trace : Trace α} {system : System α}
    (run : Run plays (fresh world) trace system) (unset : world.journal.gauges = []) :
    system.service.world.journal.gauges = trace.settings ∧
      system.service.manager.ready = trace.settings.getLast?.getD false := by
  induction run with
  | nil => exact ⟨unset, rfl⟩
  | snoc run thread step induction =>
      rw [step.gauges, step.effect.ready_eq, Trace.settings_snoc, induction.1, induction.2]
      refine ⟨rfl, ?_⟩
      rename_i happening _
      cases happening.setting? <;> simp

/-- Whatever threads and actions do, the last value of the gauge is the flag, which is not
set before the gauge is. The gauge is set for what happens in `Happening.setting?` only, in
that order: not for a registration that is rejected. A thread that is done with the steps
has set it to 0 for each registration of its own, and if it has walked them once more at
the end: to 1 if the walk succeeded, and to 0 if it failed. -/
theorem Run.gauge_mirrors_flag {world : World} {trace : Trace α} {system : System α}
    (run : Run plays (fresh world) trace system) (unset : world.journal.gauges = []) :
    system.service.world.journal.gauge?.getD false = system.service.manager.ready ∧
      system.service.world.journal.gauges = trace.settings ∧
      ∀ thread task finish, system.place thread = .holding task (.leaving finish) →
        (trace.current thread).filterMap Happening.setting? =
          List.replicate ((trace.current thread).filterMap Happening.registered?).length false ++
            (if task.isWalk then finish.setting? else none).toList := by
  rcases run.gauges unset with ⟨settings, ready⟩
  refine ⟨?_, settings, ?_⟩
  · rw [Journal.gauge?, settings, ready]
  · intro thread task finish holding
    have balanced := run.balanced thread
    rw [holding] at balanced
    exact balanced.1

def overeager : Action := .scripted [.script [.register "cache" [] false] (.fail "refused")]

def meddling : Trace Unit :=
  [(0, .began (.register "database" overeager)), (0, .registered "database"),
    (0, .returned (.register "database" overeager) .done), (0, .began .initializeAll),
    (0, .silent), (0, .silent), (0, .called 0), (0, .registered "cache"),
    (0, .ended 0 (.failed (.said "refused"))), (0, .silent), (0, .stopped)]

theorem gauge_after_meddling : ∃ system : System Unit,
    Run Action.Plays (fresh {}) meddling system ∧
      system.service.world.journal.gauges = [false, false, false] ∧
      system.service.manager.ready = false ∧
      (meddling.current 0).filterMap Happening.setting? = [false] ++ [false] := by
  have run : Run Action.Plays (fresh {} : System Unit) [] (fresh {}) := .nil _
  have run := run.snoc 0 (.begins (.register "database" overeager) rfl)
  have run := run.snoc 0 (.registers rfl rfl)
  have run := run.snoc 0 (.returns rfl)
  have run := run.snoc 0 (.begins .initializeAll rfl)
  have run := run.snoc 0 (.enters rfl rfl)
  have run := run.snoc 0 (.works rfl (.finds rfl rfl))
  have run := run.snoc 0 (.works rfl (.calls rfl rfl rfl))
  have run := run.snoc 0 (.works rfl (.asks rfl rfl))
  have run := run.snoc 0 (.works rfl (.ends rfl))
  have run := run.snoc 0 (.works rfl (.books rfl))
  have run := run.snoc 0 (.works rfl .stops)
  have mirrored := run.gauge_mirrors_flag rfl
  exact ⟨_, run, mirrored.2.1, mirrored.1.symm.trans rfl,
    mirrored.2.2 0 .initializeAll _ rfl⟩

end System

end Bringup
