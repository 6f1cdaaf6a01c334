import Bringup.Lifecycle.Locks
import Bringup.Proofs.Answers
import Bringup.Proofs.ReadyGate

namespace Bringup

/-! Threads never get stuck.

Whoever holds the lock of the bookkeeping is about to go through a section or to give the
lock back, and waits for nothing. Hence only the lock of execution can be waited for, and its
holder can go on as soon as the other lock is free (`Guarded.Run.advances`). -/

variable {plays : Action → Nat → Script → Prop}

/-! ## What a thread can do next -/

/-- Unless it is about to leave, the holder of the lock of execution has a next access. -/
theorem Phase.exists_step {task : Task α} {service : Service} {phase : Phase}
    (fits : phase.Fits task service.manager)
    (told : ∀ step ∈ service.manager.steps, ∃ script, plays step.action step.calls script)
    (stays : ∀ finish, phase ≠ .leaving finish) :
    ∃ (happening : Happening α) (next : Service) (later : Phase),
      Phase.Step plays task service phase happening next later := by
  cases phase with
  | registering name action =>
      cases pushed : service.push name action with
      | ok next => exact ⟨_, _, _, .accepts pushed⟩
      | error fault => exact ⟨_, _, _, .refuses pushed⟩
  | visiting position =>
      cases stands : service.manager.steps[position]? with
      | none => exact ⟨_, _, _, .arrives stands⟩
      | some step =>
          cases done : step.completed with
          | true => exact ⟨_, _, _, .passes stands done⟩
          | false => exact ⟨_, _, _, .finds stands done⟩
  | starting position =>
      have due : service.manager.completed? position = some false := fits.pending
      rcases Option.map_eq_some_iff.mp due with ⟨step, stands, pending⟩
      rcases told step (List.mem_of_getElem? stands) with ⟨script, played⟩
      exact ⟨_, _, _, .calls stands pending played⟩
  | acting performance =>
      cases left : performance.requests with
      | nil => exact ⟨_, _, _, .ends left⟩
      | cons request rest =>
          rcases replied : service.reply request with ⟨⟨reply, rejected⟩, next⟩
          exact ⟨_, _, _, .asks left replied⟩
  | booking position name outcome =>
      rcases booked : service.book position name outcome with ⟨finish, next⟩
      exact ⟨_, _, _, .books booked⟩
  | stopping fault => exact ⟨_, _, _, .stops⟩
  | leaving finish => exact absurd rfl (stays finish)

namespace System

/-- Tasks begin by a look at the bookkeeping only if they do not wait for the other lock
first. -/
theorem Run.start_of_beginning {world : World} {trace : Trace α} {system : System α}
    (run : Run plays (fresh world) trace system) {thread : Nat} {task : Task α}
    (beginning : system.place thread = .beginning task) : task.start = .beginning task := by
  induction run generalizing thread task with
  | nil => cases beginning
  | snoc run actor step induction =>
      by_cases same : thread = actor
      · subst actor
        cases step with
        | begins begun idle =>
            rw [put_same] at beginning
            cases begun <;> cases beginning <;> rfl
        | registers | looks | findsReady | findsUnready | enters | works | applies | returns =>
            rw [put_same] at beginning
            cases beginning
        | leaves holding =>
            rw [put_same] at beginning
            unfold Task.after at beginning
            split at beginning <;> cases beginning
      · rw [step.place_other same] at beginning
        exact induction beginning

theorem Step.answering_of_returned {system next : System α} {thread : Nat} {task : Task α}
    {answer : Answer α} (step : Step plays system thread (.returned task answer) next) :
    system.place thread = .answering task answer := by
  generalize happened : (.returned task answer : Happening α) = happening at step
  cases step with
  | returns answering =>
      cases happened
      exact answering
  | @registers name action result next beginning registered =>
      cases result <;> cases happened
  | works holding worked =>
      have nothing := (worked.outside_eq_nil thread).2
      rw [← happened] at nothing
      cases nothing
  | begins | looks | findsReady | findsUnready | enters | leaves | applies => cases happened

/-- A thread at a task can go on unless it waits for a lock that another one holds. -/
theorem Run.exists_step {world : World} {trace : Trace α} {system : System α}
    (run : Run plays (fresh world) trace system) {thread : Nat}
    (told : ∀ step ∈ system.service.manager.steps, ∃ script, plays step.action step.calls script)
    (busy : system.place thread ≠ .idle)
    (unblocked : ∀ task phase, system.place thread = .waiting task phase →
      system.holder = none) :
    ∃ happening next, Step plays system thread happening next := by
  cases place : system.place thread with
  | idle => exact absurd place busy
  | beginning task =>
      have starts := run.start_of_beginning place
      cases task with
      | register name action =>
          rcases registered : system.service.register name action with ⟨result, next⟩
          exact ⟨_, _, .registers place registered⟩
      | look query => exact ⟨_, _, .looks place⟩
      | run application =>
          cases ready : system.service.manager.ready with
          | true => exact ⟨_, _, .findsReady place ready⟩
          | false => exact ⟨_, _, .findsUnready place ready⟩
      | exec | initializeAll => cases starts
  | waiting task phase => exact ⟨_, _, .enters place (unblocked task phase place)⟩
  | holding task phase =>
      by_cases leaves : ∃ finish, phase = .leaving finish
      · rcases leaves with ⟨finish, rfl⟩
        exact ⟨_, _, .leaves place⟩
      · have fits := (run.sound (.fresh world)).fits place
        rcases Phase.exists_step fits told fun finish equal => leaves ⟨finish, equal⟩ with
          ⟨happening, next, later, worked⟩
        exact ⟨_, _, .works place worked⟩
  | applying application => exact ⟨_, _, .applies place⟩
  | answering task answer => exact ⟨_, _, .returns place⟩

end System

/-! ## With both locks -/

namespace Guarded

variable {first last guarded next : Guarded α} {trace : Trace α} {thread : Nat}
  {happened : Option (Happening α)}

/-- A step with both locks is a step of the threads, or none of them moves. -/
theorem Step.system (step : Step plays guarded thread happened next) :
    (∃ happening, happened = some happening ∧
        System.Step plays guarded.system thread happening next.system) ∨
      happened = none ∧ next.system = guarded.system := by
  cases step with
  | locks | unlocks => exact .inr ⟨rfl, rfl⟩
  | passes before step => exact .inl ⟨_, rfl, step⟩
  | moves outside apart step => exact .inl ⟨_, rfl, step⟩

theorem Run.system (run : Run plays first trace last) :
    System.Run plays first.system trace last.system := by
  induction run with
  | nil => exact .nil _
  | snoc run thread step induction =>
      rcases step.system with ⟨happening, rfl, moved⟩ | ⟨rfl, same⟩
      · exact induction.snoc thread moved
      · rw [same, Option.map_none, Option.toList_none, List.append_nil]
        exact induction

def free (system : System α) : Guarded α where
  system

/-- A thread that has gone through a section leaves nothing behind but what it did there. -/
theorem free_of_turns (system next : System α) (thread : Nat) :
    ({ ({ ({ free system with keeper := some thread }.turn thread .before) with
        system := next }.turn thread .behind) with keeper := none }.turn thread .outside) =
      free next := by
  simp only [turn, free, Guarded.mk.injEq, true_and]
  funext other
  by_cases same : other = thread <;> simp [same]

theorem ofSystem {first last : System α} (run : System.Run plays first trace last) :
    Run plays (free first) trace (free last) := by
  induction run with
  | nil => exact .nil _
  | @snoc trace middle happening last run thread step induction =>
      cases comes : (middle.place thread).isSection with
      | false => exact induction.snoc thread (.moves rfl comes step)
      | true =>
          have locked := induction.snoc thread (.locks rfl comes rfl)
          have passed := locked.snoc thread (.passes (turn_same _ _ _) step)
          have left := passed.snoc thread (.unlocks (turn_same _ _ _))
          rw [free_of_turns] at left
          simpa using left

/-- What holds at all times: the lock of the bookkeeping is held around sections only. -/
structure Sound (guarded : Guarded α) : Prop where
  kept : ∀ thread, guarded.keeper = some thread ↔ guarded.stand thread ≠ .outside
  comes : ∀ thread, guarded.stand thread = .before →
    (guarded.system.place thread).isSection = true

theorem Sound.fresh (world : World) : (fresh world : Guarded α).Sound where
  kept thread := by simp [Guarded.fresh]
  comes thread before := by cases before

theorem Sound.outside (sound : guarded.Sound) {other : Nat}
    (apart : guarded.keeper ≠ some other) : guarded.stand other = .outside := by
  apply Decidable.byContradiction
  intro inside
  exact apart ((sound.kept other).mpr inside)

theorem Sound.step (sound : guarded.Sound) (step : Step plays guarded thread happened next) :
    next.Sound := by
  cases step with
  | locks outside comes free =>
      constructor
      · intro other
        by_cases same : other = thread
        · simp [same]
        · have apart : guarded.stand other = .outside := sound.outside (by simp [free])
          simp [turn_other _ _ same, apart, Ne.symm same]
      · intro other before
        by_cases same : other = thread
        · rw [same]
          exact comes
        · rw [turn_other _ _ same] at before
          exact sound.comes other before
  | passes before moved =>
      constructor
      · intro other
        by_cases same : other = thread
        · have held := (sound.kept thread).mpr (by simp [before])
          simp [same, held]
        · rw [turn_other _ _ same]
          exact sound.kept other
      · intro other stands
        by_cases same : other = thread
        · rw [same, turn_same] at stands
          cases stands
        · rw [turn_other _ _ same] at stands
          rw [turn_system, moved.place_other same]
          exact sound.comes other stands
  | unlocks behind =>
      have held := (sound.kept thread).mpr (by simp [behind])
      constructor
      · intro other
        by_cases same : other = thread
        · simp [same]
        · have apart : guarded.stand other = .outside :=
            sound.outside (by simp [held, Ne.symm same])
          simp [turn_other _ _ same, apart]
      · intro other before
        by_cases same : other = thread
        · rw [same, turn_same] at before
          cases before
        · rw [turn_other _ _ same] at before
          exact sound.comes other before
  | moves outside apart moved =>
      constructor
      · exact sound.kept
      · intro other before
        have same : other ≠ thread := by
          intro equal
          rw [equal, outside] at before
          cases before
        rw [moved.place_other same]
        exact sound.comes other before

theorem Run.sound {world : World} (run : Run plays (fresh world) trace guarded) :
    guarded.Sound := by
  induction run with
  | nil => exact .fresh world
  | snoc run thread step induction => exact induction.step step

/-! ## Going on -/

/-- While the lock of the bookkeeping is free, a thread at a task can go on unless it waits
for the other lock. -/
theorem Run.exists_step {world : World} (run : Run plays (fresh world) trace guarded)
    (told : ∀ step ∈ guarded.system.service.manager.steps,
      ∃ script, plays step.action step.calls script)
    (free : guarded.keeper = none) (busy : guarded.system.place thread ≠ .idle)
    (unblocked : ∀ task phase, guarded.system.place thread = .waiting task phase →
      guarded.system.holder = none) :
    ∃ happened next, Step plays guarded thread happened next := by
  have outside : guarded.stand thread = .outside := run.sound.outside (by simp [free])
  cases comes : (guarded.system.place thread).isSection with
  | true => exact ⟨_, _, .locks outside comes free⟩
  | false =>
      rcases run.system.exists_step told busy unblocked with ⟨happening, next, step⟩
      exact ⟨_, _, .moves outside comes step⟩

theorem Run.keeper_step {world : World} (run : Run plays (fresh world) trace guarded)
    (told : ∀ step ∈ guarded.system.service.manager.steps,
      ∃ script, plays step.action step.calls script)
    (held : guarded.keeper = some thread) :
    ∃ happened next, Step plays guarded thread happened next := by
  have inside := (run.sound.kept thread).mp held
  cases stand : guarded.stand thread with
  | outside => exact absurd stand inside
  | behind => exact ⟨_, _, .unlocks stand⟩
  | before =>
      have comes := run.sound.comes thread stand
      have busy : guarded.system.place thread ≠ .idle := by
        intro idle
        rw [idle] at comes
        cases comes
      have unblocked : ∀ task phase, guarded.system.place thread = .waiting task phase →
          guarded.system.holder = none := by
        intro task phase waiting
        rw [waiting] at comes
        cases comes
      rcases run.system.exists_step told busy unblocked with ⟨happening, next, step⟩
      exact ⟨_, _, .passes stand step⟩

theorem Run.exists_busy_step {world : World} (run : Run plays (fresh world) trace guarded)
    (told : ∀ step ∈ guarded.system.service.manager.steps,
      ∃ script, plays step.action step.calls script)
    (busy : guarded.IsBusy thread) :
    ∃ other happened next, guarded.IsBusy other ∧ Step plays guarded other happened next := by
  cases held : guarded.keeper with
  | some keeper =>
      rcases run.keeper_step told held with ⟨happened, next, step⟩
      exact ⟨keeper, happened, next, .inr ((run.sound.kept keeper).mp held), step⟩
  | none =>
      have atTask : guarded.system.place thread ≠ .idle := by
        rcases busy with task | inside
        · exact task
        · exact absurd (run.sound.outside (by simp [held])) inside
      cases taken : guarded.system.holder with
      | none =>
          rcases run.exists_step told held atTask fun _ _ _ => taken with ⟨happened, next, step⟩
          exact ⟨thread, happened, next, .inl atTask, step⟩
      | some holder =>
          -- The holder of the lock of execution is past waiting, so it is the one to go on.
          have holding := ((run.system.sound (.fresh world)).held holder).mp taken
          have atWork : guarded.system.place holder ≠ .idle := by
            intro idle
            rw [idle] at holding
            cases holding
          have unblocked : ∀ task phase, guarded.system.place holder = .waiting task phase →
              guarded.system.holder = none := by
            intro task phase waiting
            rw [waiting] at holding
            cases holding
          rcases run.exists_step told held atWork unblocked with ⟨happened, next, step⟩
          exact ⟨holder, happened, next, .inl atWork, step⟩

/-- A thread that comes back from a task holds no lock. -/
theorem Run.unlocked_of_returned {world : World} (run : Run plays (fresh world) trace guarded)
    {task : Task α} {answer : Answer α}
    (step : Step plays guarded thread (some (.returned task answer)) next) :
    guarded.keeper ≠ some thread ∧ guarded.system.holder ≠ some thread := by
  have answering : guarded.system.place thread = .answering task answer := by
    rcases step.system with ⟨happening, same, moved⟩ | ⟨none, _⟩
    · cases same
      exact moved.answering_of_returned
    · cases none
  constructor
  · intro held
    have inside := (run.sound.kept thread).mp held
    cases step with
    | passes before moved =>
        have comes := run.sound.comes thread before
        rw [answering] at comes
        cases comes
    | moves outside apart moved => exact inside outside
  · intro taken
    have holding := ((run.system.sound (.fresh world)).held thread).mp taken
    rw [answering] at holding
    cases holding

/-- Whatever threads do with both locks, as long as each call of an action asks what scripts
can ask and comes to an end: if some thread is in the middle of a task, then one that is can
take a step, and all others can begin any task. Whoever comes back from a task holds no lock,
however the task ended: the lock of execution is held by the one that executes, and the lock of
the bookkeeping by the one that is at a section. -/
theorem Run.advances {world : World} (run : Run plays (fresh world) trace guarded)
    (told : ∀ step ∈ guarded.system.service.manager.steps,
      ∃ script, plays step.action step.calls script) :
    (∀ thread, guarded.IsBusy thread →
      ∃ other happened next, guarded.IsBusy other ∧ Step plays guarded other happened next) ∧
    (∀ thread task, ¬ guarded.IsBusy thread →
      ∃ next, Step plays guarded thread (some (.began task)) next) ∧
    (∀ thread task answer next, Step plays guarded thread (some (.returned task answer)) next →
      guarded.keeper ≠ some thread ∧ guarded.system.holder ≠ some thread) ∧
    (∀ thread, guarded.system.holder = some thread ↔
      (guarded.system.place thread).isHolding = true) ∧
    ∀ thread, guarded.keeper = some thread ↔ guarded.stand thread ≠ .outside := by
  refine ⟨fun thread => run.exists_busy_step told, fun thread task free => ?_,
    fun thread task answer next => run.unlocked_of_returned,
    (run.system.sound (.fresh world)).held, run.sound.kept⟩
  rw [IsBusy, not_or, Classical.not_not, Classical.not_not] at free
  have apart : (guarded.system.place thread).isSection = false := by
    rw [free.1]
    rfl
  exact ⟨_, .moves free.2 apart (.begins task free.1)⟩

/-! While one thread is in a call of an action and another one waits for it to end, a third one
holds the lock of the bookkeeping. -/

def crowded : Trace Unit :=
  [(0, .began (.exec "database" System.tardy)), (0, .silent), (0, .registered "database"),
    (0, .called 0), (1, .began .initializeAll), (2, .began (.look .status))]

theorem advances_crowded : ∃ guarded : Guarded Unit,
    Run Action.Plays (fresh {}) crowded guarded ∧ guarded.system.holder = some 0 ∧
      guarded.keeper = some 2 ∧ guarded.IsBusy 1 ∧
      (∃ other happened next,
        guarded.IsBusy other ∧ Step Action.Plays guarded other happened next) ∧
      ∃ next, Step Action.Plays guarded 3 (some (.began .initializeAll)) next := by
  have run : Run Action.Plays (fresh {} : Guarded Unit) [] (fresh {}) := .nil _
  have run := run.snoc 0 (.moves rfl rfl (.begins (.exec "database" System.tardy) rfl))
  have run := run.snoc 0 (.moves rfl rfl (.enters rfl rfl))
  have run := run.snoc 0 (.locks rfl rfl rfl)
  have run := run.snoc 0 (.passes rfl (.works rfl (.accepts rfl)))
  have run := run.snoc 0 (.unlocks rfl)
  have run := run.snoc 0 (.locks rfl rfl rfl)
  have run := run.snoc 0 (.passes rfl (.works rfl (.calls rfl rfl rfl)))
  have run := run.snoc 0 (.unlocks rfl)
  have run := run.snoc 1 (.moves rfl rfl (.begins .initializeAll rfl))
  have run := run.snoc 2 (.moves rfl rfl (.begins (.look .status) rfl))
  have run := run.snoc 2 (.locks rfl rfl rfl)
  have told := run.advances (by
    intro step stands
    cases stands with
    | head => exact ⟨_, rfl⟩
    | tail _ later => cases later)
  have busy := told.1 1 (.inl (by rintro ⟨⟩))
  have free := told.2.1 3 .initializeAll (by
    rintro (task | inside)
    · exact task rfl
    · exact inside rfl)
  exact ⟨_, run, rfl, rfl, .inl (by rintro ⟨⟩), busy, free⟩

end Guarded

end Bringup
