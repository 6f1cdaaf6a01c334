import Bringup.Proofs.Completion

namespace Bringup

/-! The flag of readiness, whatever the threads do.

A walk has completed everything below the position it has come to, and only the
holder of the lock of execution can mark a step. Hence whoever comes to the end of
the list finds every step completed (`System.Sound.walked`), and the flag says so
until the next registration. -/

namespace Manager

def DoneBelow (manager : Manager) (position : Nat) : Prop :=
  ∀ earlier, earlier < position → manager.completed? earlier = some true

def Gate (manager : Manager) : Prop :=
  manager.ready = true → ∀ position, manager.completed? position ≠ some false

theorem DoneBelow.succ {manager : Manager} {position : Nat}
    (below : manager.DoneBelow position) (done : manager.completed? position = some true) :
    manager.DoneBelow (position + 1) := by
  intro earlier less
  rcases Nat.lt_or_eq_of_le (Nat.le_of_lt_succ less) with before | equal
  · exact below earlier before
  · rw [equal]
    exact done

theorem DoneBelow.keep {happening : Happening α} {before after : Manager} {position : Nat}
    (effect : happening.Effect before after) (below : before.DoneBelow position) :
    after.DoneBelow position :=
  fun earlier less => effect.keeps_completed (below earlier less)

theorem DoneBelow.noteCall {manager : Manager} {position : Nat}
    (below : manager.DoneBelow position) (called : Nat) :
    (manager.noteCall called).DoneBelow position :=
  fun earlier less => (completed?_noteCall manager called earlier).trans (below earlier less)

theorem DoneBelow.not_pending {manager : Manager} {position : Nat}
    (below : manager.DoneBelow position) (past : manager.steps[position]? = none)
    (other : Nat) : manager.completed? other ≠ some false := by
  intro pending
  rcases Nat.lt_or_ge other position with before | behind
  · rw [below other before] at pending
    cases pending
  · have outside := List.getElem?_eq_none_iff.mp past
    rw [completed?_eq_none.mpr (List.getElem?_eq_none (Nat.le_trans outside behind))] at pending
    cases pending

end Manager

/-! ## The holder of the lock -/

namespace Manager

/-- The step at a position is pending, and it is the first one if a walk has come
to it. -/
structure IsDue (manager : Manager) (task : Task α) (position : Nat) : Prop where
  below : task.isWalk = true → manager.DoneBelow position
  pending : manager.completed? position = some false

end Manager

namespace Phase

def Fits (task : Task α) (manager : Manager) : Phase → Prop
  | registering name action => task = .exec name action
  | visiting position => task.isWalk = true ∧ manager.DoneBelow position
  | starting position => manager.IsDue task position
  | acting performance => manager.IsDue task performance.position
  | booking position _ _ => manager.IsDue task position
  | stopping _ => manager.ready = false
  | leaving _ => True

def Opens (task : Task α) : Phase → Prop
  | registering name action => task = .exec name action
  | visiting position => task.isWalk = true ∧ position = 0
  | _ => False

theorem Opens.fits {task : Task α} {phase : Phase} (opens : phase.Opens task)
    (manager : Manager) : phase.Fits task manager := by
  cases phase with
  | registering => exact opens
  | visiting position =>
      rcases opens with ⟨walk, rfl⟩
      refine ⟨walk, ?_⟩
      intro earlier less
      cases less
  | starting | acting | booking | stopping | leaving => cases opens

theorem Fits.keep {task : Task α} {happening : Happening β} {before after : Manager}
    {phase : Phase} (effect : happening.Effect before after)
    (common : happening.isCommon = true) (fits : phase.Fits task before) :
    phase.Fits task after := by
  have due : ∀ {position}, before.IsDue task position → after.IsDue task position :=
    fun due => ⟨fun walk => (due.below walk).keep effect,
      effect.keeps_pending (fun equal => by rw [equal] at common; cases common) due.pending⟩
  cases phase with
  | registering => exact fits
  | visiting => exact ⟨fits.1, fits.2.keep effect⟩
  | starting | acting | booking => exact due fits
  | stopping =>
      cases happening with
      | registered =>
          rcases effect with ⟨action, pushed⟩
          rw [(Manager.push_eq_ok pushed).2]
          rfl
      | began | rejected | returned | silent => cases effect; exact fits
      | called | ended | completed | walked | stopped => cases common
  | leaving => trivial

theorem Fits.proceed {task : Task α} {manager : Manager} {position : Nat}
    {finish : Finish (Except InitError Unit)}
    (below : task.isWalk = true → manager.DoneBelow position)
    (succeeded : finish = .returned (.ok ()) → manager.completed? position = some true)
    (failed : ∀ fault, finish = .returned (.error fault) → manager.ready = false) :
    (task.proceed position finish).Fits task manager := by
  unfold Task.proceed
  split
  · rename_i walk
    exact ⟨walk, (below walk).succ (succeeded rfl)⟩
  · exact failed _ rfl
  · trivial

end Phase

variable {plays : Action → Nat → Script → Prop}

theorem Phase.Step.fits {task : Task α} {service next : Service} {phase later : Phase}
    {happening : Happening α} (step : Phase.Step plays task service phase happening next later)
    (gate : service.manager.Gate) (fits : phase.Fits task service.manager) :
    later.Fits task next.manager := by
  cases step with
  | accepts pushed =>
      refine ⟨fun walk => ?_, ?_⟩
      · cases fits
        cases walk
      · rw [Manager.completed?_push (Service.push_manager pushed), if_pos rfl]
  | refuses | arrives | stops => trivial
  | passes stands done =>
      refine ⟨fits.1, fits.2.succ ?_⟩
      rw [Manager.completed?_of_stands stands, done]
  | finds stands pending =>
      refine ⟨fun _ => fits.2, ?_⟩
      rw [Manager.completed?_of_stands stands, pending]
  | skips stands done =>
      have pending := fits.pending
      rw [Manager.completed?_of_stands stands, done] at pending
      cases pending
  | calls stands pending played =>
      exact ⟨fun walk => (fits.below walk).noteCall _,
        (Manager.completed?_noteCall _ _ _).trans fits.pending⟩
  | asks left replied =>
      exact Fits.keep (Service.reply_effect (α := α) replied)
        (Happening.isCommon_ofReply _ _) fits
  | ends left => exact fits
  | books booked =>
      have effect := Service.book_effect (α := α) booked
      apply Fits.proceed
      · exact fun walk => (fits.below walk).keep effect
      · intro success
        rename_i position name outcome finish
        cases outcome <;> cases booked
        · exact Happening.Effect.completes (α := α) effect fits.pending
        · cases success
        · cases success
      · intro fault failure
        have unready : service.manager.ready = false := by
          cases ready : service.manager.ready with
          | false => rfl
          | true => exact absurd fits.pending (gate ready _)
        rename_i position name outcome finish
        cases outcome <;> cases booked
        · cases failure
        · exact unready
        · exact unready

/-! ## All threads -/

/-- The flag stays right if a walk ends only where nothing is pending. -/
theorem Happening.Effect.gate {happening : Happening α} {before after : Manager}
    (effect : happening.Effect before after) (gate : before.Gate)
    (walked : happening = .walked → ∀ position, before.completed? position ≠ some false) :
    after.Gate := by
  intro ready position
  cases happening with
  | registered name =>
      rcases effect with ⟨action, pushed⟩
      rw [(Manager.push_eq_ok pushed).2] at ready
      cases ready
  | called called =>
      cases effect
      rw [Manager.completed?_noteCall]
      exact gate ready position
  | completed marked =>
      cases effect
      rw [Manager.completed?_markCompleted]
      split
      · cases before.completed? position <;> simp
      · exact gate ready position
  | walked => cases effect; exact walked rfl position
  | stopped => cases effect; cases ready
  | began | rejected | ended | returned | silent => cases effect; exact gate ready position

namespace Place

def isHolding : Place α → Bool
  | holding _ _ => true
  | _ => false

end Place

namespace System

structure Sound (system : System α) : Prop where
  held : ∀ thread, system.holder = some thread ↔ (system.place thread).isHolding = true
  opens : ∀ {thread task phase}, system.place thread = .waiting task phase → phase.Opens task
  fits : ∀ {thread task phase}, system.place thread = .holding task phase →
    phase.Fits task system.service.manager
  gate : system.service.manager.Gate

theorem Sound.fresh (world : World) : (fresh world : System α).Sound where
  held _ := by simp [System.fresh, Place.isHolding]
  opens waiting := by cases waiting
  fits holding := by cases holding
  gate ready := by cases ready

/-- A step as seen from the lock of execution. -/
inductive Move (plays : Action → Nat → Script → Prop) (system : System α) (thread : Nat) :
    Happening α → System α → Prop
  /-- The step has nothing to do with the lock. -/
  | aside {happening place} {next : Service}
      (effect : happening.Effect system.service.manager next.manager)
      (common : happening.isCommon = true)
      (outside : (system.place thread).isHolding = false) (stays : place.isHolding = false)
      (opens : ∀ task phase, place = .waiting task phase → phase.Opens task) :
      Move plays system thread happening ({ system with service := next }.put thread place)
  | enter {task phase} (waiting : system.place thread = .waiting task phase)
      (free : system.holder = none) :
      Move plays system thread .silent
        ({ system with holder := some thread }.put thread (.holding task phase))
  | work {task phase happening next later}
      (holding : system.place thread = .holding task phase)
      (worked : Phase.Step plays task system.service phase happening next later) :
      Move plays system thread happening
        ({ system with service := next }.put thread (.holding task later))
  | leave {task finish} (holding : system.place thread = .holding task (.leaving finish)) :
      Move plays system thread .silent
        ({ system with service := system.service.report task finish, holder := none }.put
          thread (task.after finish))

theorem Step.move {system next : System α} {thread : Nat} {happening : Happening α}
    (step : Step plays system thread happening next) :
    Move plays system thread happening next := by
  have quiet : ∀ {place : Place α}, (system.place thread).isHolding = false →
      place.isHolding = false → (∀ task phase, place = .waiting task phase → phase.Opens task) →
      ∀ {happening : Happening α}, happening.isCommon = true →
      happening.Effect system.service.manager system.service.manager →
      Move plays system thread happening
        ({ system with service := system.service }.put thread place) :=
    fun outside stays opens _ common effect => .aside effect common outside stays opens
  cases step with
  | begins task idle =>
      refine quiet (by rw [idle]; rfl) (by cases task <;> rfl) ?_ rfl rfl
      intro other phase waiting
      cases task <;> cases waiting
      · rfl
      · exact ⟨rfl, rfl⟩
  | registers beginning registered =>
      exact .aside (Service.register_effect registered) (by simp) (by rw [beginning]; rfl) rfl
        fun _ _ waiting => by cases waiting
  | looks beginning =>
      exact quiet (by rw [beginning]; rfl) rfl (fun _ _ waiting => by cases waiting) rfl rfl
  | findsReady beginning ready =>
      exact quiet (by rw [beginning]; rfl) rfl (fun _ _ waiting => by cases waiting) rfl rfl
  | findsUnready beginning unready =>
      refine quiet (by rw [beginning]; rfl) rfl ?_ rfl rfl
      intro task phase waiting
      cases waiting
      exact ⟨rfl, rfl⟩
  | enters waiting free => exact .enter waiting free
  | works holding worked => exact .work holding worked
  | leaves holding => exact .leave holding
  | applies applying =>
      exact quiet (by rw [applying]; rfl) rfl (fun _ _ waiting => by cases waiting) rfl rfl
  | returns answering =>
      exact quiet (by rw [answering]; rfl) rfl (fun _ _ waiting => by cases waiting) rfl rfl

theorem Sound.aside {system : System α} {thread : Nat} {place : Place α} {next : Service}
    {happening : Happening α} (sound : system.Sound)
    (effect : happening.Effect system.service.manager next.manager)
    (common : happening.isCommon = true)
    (outside : (system.place thread).isHolding = false)
    (stays : place.isHolding = false)
    (opens : ∀ task phase, place = .waiting task phase → phase.Opens task) :
    ({ system with service := next }.put thread place).Sound where
  held other := by
    by_cases same : other = thread
    · subst other
      have free := sound.held thread
      rw [outside] at free
      simpa [stays] using free
    · rw [put_other _ _ same]
      exact sound.held other
  opens {other task phase} waiting := by
    by_cases same : other = thread
    · subst other
      rw [put_same] at waiting
      exact opens task phase waiting
    · rw [put_other _ _ same] at waiting
      exact sound.opens waiting
  fits {other task phase} holding := by
    by_cases same : other = thread
    · subst other
      rw [put_same] at holding
      rw [holding] at stays
      cases stays
    · rw [put_other _ _ same] at holding
      exact (sound.fits holding).keep effect common
  gate := effect.gate sound.gate fun equal => by rw [equal] at common; cases common

theorem Sound.alone {system : System α} {thread other : Nat} {task otherTask : Task α}
    {phase otherPhase : Phase} (sound : system.Sound)
    (holding : system.place thread = .holding task phase)
    (otherHolding : system.place other = .holding otherTask otherPhase) : other = thread := by
  have mine := (sound.held thread).mpr (by rw [holding]; rfl)
  have theirs := (sound.held other).mpr (by rw [otherHolding]; rfl)
  rw [mine] at theirs
  exact (Option.some.inj theirs).symm

/-- Whoever comes to the end of the list finds nothing pending. -/
theorem Sound.walked {system next : System α} {thread : Nat} (sound : system.Sound)
    (step : Step plays system thread .walked next) (position : Nat) :
    system.service.manager.completed? position ≠ some false := by
  generalize happened : (.walked : Happening α) = happening at step
  cases step.move with
  | aside effect common => rw [← happened] at common; cases common
  | enter | leave => cases happened
  | work holding worked =>
      cases worked with
      | arrives past => exact (sound.fits holding).2.not_pending past position
      | asks left replied => exact absurd happened (Happening.ne_ofReply rfl _ _)
      | books booked => rename_i outcome finish; cases outcome <;> cases happened
      | accepts | refuses | passes | finds | skips | calls | ends | stops => cases happened

theorem Sound.enter {system : System α} {thread : Nat} {task : Task α} {phase : Phase}
    (sound : system.Sound) (waiting : system.place thread = .waiting task phase)
    (free : system.holder = none) :
    ({ system with holder := some thread }.put thread (.holding task phase)).Sound where
  held other := by
    by_cases same : other = thread
    · subst other
      simp [Place.isHolding]
    · have outside := sound.held other
      rw [free] at outside
      simpa [put_other _ _ same, Ne.symm same] using outside
  opens {other _ _} elsewhere := by
    by_cases same : other = thread
    · rw [same, put_same] at elsewhere
      cases elsewhere
    · rw [put_other _ _ same] at elsewhere
      exact sound.opens elsewhere
  fits {other _ _} holding := by
    by_cases same : other = thread
    · rw [same, put_same] at holding
      cases holding
      exact (sound.opens waiting).fits _
    · rw [put_other _ _ same] at holding
      have taken := (sound.held other).mpr (by rw [holding]; rfl)
      rw [free] at taken
      cases taken
  gate := sound.gate

theorem Sound.work {system : System α} {thread : Nat} {task : Task α} {phase later : Phase}
    {next : Service} {happening : Happening α} (sound : system.Sound)
    (holding : system.place thread = .holding task phase)
    (worked : Phase.Step plays task system.service phase happening next later)
    (gate : next.manager.Gate) :
    ({ system with service := next }.put thread (.holding task later)).Sound where
  held other := by
    by_cases same : other = thread
    · subst other
      have taken := (sound.held thread).mpr (by rw [holding]; rfl)
      simp [taken, Place.isHolding]
    · rw [put_other _ _ same]
      exact sound.held other
  opens {other _ _} waiting := by
    by_cases same : other = thread
    · rw [same, put_same] at waiting
      cases waiting
    · rw [put_other _ _ same] at waiting
      exact sound.opens waiting
  fits {other _ _} otherHolding := by
    by_cases same : other = thread
    · rw [same, put_same] at otherHolding
      cases otherHolding
      exact worked.fits sound.gate (sound.fits holding)
    · rw [put_other _ _ same] at otherHolding
      exact absurd (sound.alone holding otherHolding) same
  gate := gate

theorem Sound.leave {system : System α} {thread : Nat} {task : Task α}
    {finish : Finish (Except InitError Unit)} (sound : system.Sound)
    (holding : system.place thread = .holding task (.leaving finish)) :
    ({ system with service := system.service.report task finish, holder := none }.put
      thread (task.after finish)).Sound where
  held other := by
    by_cases same : other = thread
    · subst other
      simp only [put_holder, put_same]
      unfold Task.after
      split <;> simp [Place.isHolding]
    · rw [put_other _ _ same]
      cases outside : (system.place other).isHolding with
      | false => simp
      | true =>
          have mine := (sound.held thread).mpr (by rw [holding]; rfl)
          rw [(sound.held other).mpr outside] at mine
          exact absurd (Option.some.inj mine) same
  opens {other _ _} waiting := by
    by_cases same : other = thread
    · rw [same, put_same] at waiting
      unfold Task.after at waiting
      split at waiting <;> cases waiting
    · rw [put_other _ _ same] at waiting
      exact sound.opens waiting
  fits {other _ _} otherHolding := by
    by_cases same : other = thread
    · rw [same, put_same] at otherHolding
      unfold Task.after at otherHolding
      split at otherHolding <;> cases otherHolding
    · rw [put_other _ _ same] at otherHolding
      exact absurd (sound.alone holding otherHolding) same
  gate := by
    rw [put_service, Service.report_manager]
    exact sound.gate

theorem Sound.step {system next : System α} {thread : Nat} {happening : Happening α}
    (sound : system.Sound) (step : Step plays system thread happening next) : next.Sound := by
  have gate := step.effect.gate sound.gate fun equal => sound.walked (equal ▸ step)
  cases step.move with
  | aside effect common outside stays opens =>
      exact sound.aside effect common outside stays opens
  | enter waiting free => exact sound.enter waiting free
  | work holding worked => exact sound.work holding worked gate
  | leave holding => exact sound.leave holding

theorem Run.sound {first last : System α} {trace : Trace α} (run : Run plays first trace last)
    (sound : first.Sound) : last.Sound := by
  induction run with
  | nil => exact sound
  | snoc run _ step induction => exact induction.step step

end System

/-! ## The last turn of the flag -/

namespace Happening

def isTurn : Happening α → Bool
  | registered _ | walked | stopped => true
  | _ => false

theorem Effect.ready {happening : Happening α} {before after : Manager}
    (effect : happening.Effect before after) :
    if happening.isTurn then (after.ready = true ↔ happening = .walked)
    else after.ready = before.ready := by
  cases happening with
  | registered name =>
      rcases effect with ⟨action, pushed⟩
      rw [(Manager.push_eq_ok pushed).2]
      simp [isTurn]
  | walked | stopped => cases effect; simp [isTurn, Manager.setReady]
  | called | completed => cases effect; rfl
  | began | rejected | ended | returned | silent => cases effect; rfl

end Happening

namespace Trace

def lastTurn (trace : Trace α) : Option (Happening α) :=
  ((trace.map Prod.snd).filter Happening.isTurn).getLast?

theorem lastTurn_snoc (trace : Trace α) (thread : Nat) (happening : Happening α) :
    lastTurn (trace ++ [(thread, happening)]) =
      if happening.isTurn then some happening else trace.lastTurn := by
  unfold lastTurn
  cases turn : happening.isTurn <;> simp [turn]

end Trace

namespace System

theorem Run.ready_iff {world : World} {trace : Trace α} {system : System α}
    (run : Run plays (fresh world) trace system) :
    system.service.manager.ready = true ↔ trace.lastTurn = some .walked := by
  induction run with
  | nil => simp [fresh, Trace.lastTurn]
  | snoc run _ step induction =>
      have turned := step.effect.ready
      rw [Trace.lastTurn_snoc]
      split
      · rename_i turn
        rw [if_pos turn] at turned
        rw [turned, Option.some.injEq]
      · rename_i steady
        rw [if_neg steady] at turned
        rw [turned]
        exact induction

/-- Whatever threads and actions do: while the flag of readiness is set, every step
is completed; and it is set exactly when the latest among the registrations that
were accepted, the walks that came to the end and the walks that failed is a walk
that came to the end. -/
theorem Run.ready_completed_and_walked_last {world : World} {trace : Trace α}
    {system : System α} (run : Run plays (fresh world) trace system) :
    (system.service.manager.ready = true →
        ∀ step ∈ system.service.manager.steps, step.completed = true) ∧
      (system.service.manager.ready = true ↔ trace.lastTurn = some .walked) := by
  refine ⟨fun ready step member => ?_, run.ready_iff⟩
  rcases List.getElem?_of_mem member with ⟨position, stands⟩
  have gate := (run.sound (.fresh world)).gate ready position
  rw [Manager.completed?_of_stands stands] at gate
  simpa using gate

theorem ready_after_interleaved : ∃ system : System Unit,
    Run Action.Plays (fresh {}) interleaved system ∧
      (∀ step ∈ system.service.manager.steps, step.completed = true) ∧
      interleaved.lastTurn = some .walked := by
  rcases exists_interleaved with ⟨system, run, _, ready⟩
  have told := run.ready_completed_and_walked_last
  exact ⟨system, run, told.1 ready, told.2.mp ready⟩

end System

end Bringup
