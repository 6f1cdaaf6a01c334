import Bringup.Proofs.ReadyGate

namespace Bringup

/-! How often the action of a step is called.

Calls are made by the holder of the lock of execution only, so the calls of all
threads follow one pattern (`CallStep`): a call begins while none is under way, it
ends before anything is booked for it, and it is booked before the next one begins.
What has happened to one step is read off that pattern. -/

/-- A call under way, with its outcome once it has ended and is yet to be booked. -/
structure Underway where
  thread : Nat
  position : Nat
  outcome : Option Outcome := none

namespace Phase

def underway (thread : Nat) : Phase → Option Underway
  | acting performance => some { thread, position := performance.position }
  | booking position _ outcome => some { thread, position, outcome := some outcome }
  | _ => none

@[simp] theorem underway_proceed (task : Task α) (position thread : Nat)
    (finish : Finish (Except InitError Unit)) :
    (task.proceed position finish).underway thread = none := by
  unfold Task.proceed
  split <;> rfl

theorem Opens.underway {task : Task α} {phase : Phase} (opens : phase.Opens task)
    (thread : Nat) : phase.underway thread = none := by
  cases phase with
  | acting | booking => cases opens
  | registering | visiting | starting | stopping | leaving => rfl

end Phase

namespace System

def underway (system : System α) : Option Underway :=
  system.holder.bind fun thread =>
    match system.place thread with
    | .holding _ phase => phase.underway thread
    | _ => none

theorem underway_of_holding {system : System α} {thread : Nat} {task : Task α} {phase : Phase}
    (held : system.holder = some thread) (holding : system.place thread = .holding task phase) :
    system.underway = phase.underway thread := by
  simp [underway, held, holding]

theorem underway_put_holding {system : System α} {thread : Nat}
    (held : system.holder = some thread) (task : Task α) (phase : Phase) :
    (system.put thread (.holding task phase)).underway = phase.underway thread :=
  underway_of_holding held (put_same _ _ _)

/-- What a thread without the lock does leaves the call under way alone. -/
theorem Sound.underway_put {system : System α} {thread : Nat} (sound : system.Sound)
    (outside : (system.place thread).isHolding = false) (next : Service) (place : Place α) :
    ({ system with service := next }.put thread place).underway = system.underway := by
  unfold underway
  simp only [put_holder]
  cases taken : system.holder with
  | none => rfl
  | some holder =>
      have other : holder ≠ thread := by
        intro same
        have inside := (sound.held holder).mp taken
        rw [same, outside] at inside
        cases inside
      simp only [Option.bind_some, put_other _ _ other]

end System

/-! ## The pattern of calls -/

namespace Happening

def isCall : Happening α → Bool
  | called _ | ended _ _ | completed _ => true
  | _ => false

theorem isCall_of_isCommon {happening : Happening α} (common : happening.isCommon = true) :
    happening.isCall = false := by
  cases happening <;> first | rfl | cases common

end Happening

inductive CallStep (manager : Manager) :
    Option Underway → Nat → Happening α → Option Underway → Prop
  | rest {underway thread happening} (quiet : happening.isCall = false) :
      CallStep manager underway thread happening underway
  | call {thread position} (pending : manager.completed? position = some false) :
      CallStep manager none thread (.called position) (some { thread, position })
  | finish {thread position outcome} (pending : manager.completed? position = some false) :
      CallStep manager (some { thread, position }) thread (.ended position outcome)
        (some { thread, position, outcome := some outcome })
  | complete {thread position} (pending : manager.completed? position = some false) :
      CallStep manager (some { thread, position, outcome := some .succeeded }) thread
        (.completed position) none
  | forgo {thread position outcome} (pending : manager.completed? position = some false)
      (unsuccessful : outcome ≠ .succeeded) :
      CallStep manager (some { thread, position, outcome := some outcome }) thread .silent none

variable {plays : Action → Nat → Script → Prop}

theorem Phase.Step.callStep {task : Task α} {service next : Service} {phase later : Phase}
    {happening : Happening α} (step : Phase.Step plays task service phase happening next later)
    (fits : phase.Fits task service.manager) (thread : Nat) :
    CallStep service.manager (phase.underway thread) thread happening
      (later.underway thread) := by
  cases step with
  | accepts | refuses | passes | finds | arrives | stops => exact .rest rfl
  | skips stands done =>
      rw [Phase.underway_proceed]
      exact .rest rfl
  | calls stands pending played =>
      refine .call ?_
      rw [Manager.completed?_of_stands stands, pending]
  | asks left replied =>
      exact .rest (Happening.isCall_of_isCommon (Happening.isCommon_ofReply _ _))
  | ends left => exact .finish fits.pending
  | books booked =>
      rw [Phase.underway_proceed]
      rename_i position name outcome finish
      cases outcome with
      | succeeded => exact .complete fits.pending
      | failed cause => exact .forgo fits.pending (by simp)
      | panicked message => exact .forgo fits.pending (by simp)

theorem System.Step.callStep {system next : System α} {thread : Nat} {happening : Happening α}
    (step : System.Step plays system thread happening next) (sound : system.Sound) :
    CallStep system.service.manager system.underway thread happening next.underway := by
  cases step.move with
  | aside effect common outside stays opens =>
      rw [sound.underway_put outside]
      exact .rest (Happening.isCall_of_isCommon common)
  | enter waiting free =>
      rw [System.underway_put_holding rfl, (sound.opens waiting).underway]
      simp only [System.underway, free, Option.bind_none]
      exact .rest rfl
  | work holding worked =>
      have held := (sound.held thread).mpr (by rw [holding]; rfl)
      rw [System.underway_of_holding held holding, System.underway_put_holding (by exact held)]
      exact worked.callStep (sound.fits holding) thread
  | leave holding =>
      have held := (sound.held thread).mpr (by rw [holding]; rfl)
      rw [System.underway_of_holding held holding]
      exact .rest rfl

/-! ## What happened to one step -/

namespace Happening

def isBound : Happening α → Bool
  | called _ | ended _ _ => true
  | _ => false

def isCallAt (position : Nat) : Happening α → Bool
  | called other | ended other _ | completed other => other == position
  | _ => false

end Happening

/-- Calls for the step at a position that all ended without success. -/
inductive Failures (position : Nat) : List (Happening α) → Prop
  | nil : Failures position []
  | snoc {calls outcome} (earlier : Failures position calls)
      (unsuccessful : outcome ≠ .succeeded) :
      Failures position (calls ++ [.called position, .ended position outcome])

inductive InTurn : Trace α → Prop
  | nil : InTurn []
  | snoc {calls thread position outcome} (earlier : InTurn calls) :
      InTurn (calls ++ [(thread, .called position), (thread, .ended position outcome)])

namespace Trace

def callsAt (trace : Trace α) (position : Nat) : List (Happening α) :=
  (trace.map Prod.snd).filter (Happening.isCallAt position)

def calls (trace : Trace α) : Trace α :=
  trace.filter fun entry => entry.2.isBound

theorem callsAt_snoc (trace : Trace α) (thread position : Nat) (happening : Happening α) :
    callsAt (trace ++ [(thread, happening)]) position =
      trace.callsAt position ++ if happening.isCallAt position then [happening] else [] := by
  unfold callsAt
  cases about : happening.isCallAt position <;> simp [about]

theorem calls_snoc (trace : Trace α) (thread : Nat) (happening : Happening α) :
    calls (trace ++ [(thread, happening)]) =
      trace.calls ++ if happening.isBound then [(thread, happening)] else [] := by
  unfold calls
  cases bound : happening.isBound <;> simp [bound]

end Trace

namespace Happening

def success (position : Nat) : List (Happening α) :=
  [.called position, .ended position .succeeded, .completed position]

end Happening

namespace Underway

def latest (underway : Option Underway) (manager : Manager) (position : Nat) :
    List (Happening α) :=
  match underway with
  | some ⟨_, busy, outcome⟩ =>
      if busy = position then
        .called position :: (outcome.map (Happening.ended position)).toList
      else if manager.completed? position = some true then Happening.success position else []
  | none => if manager.completed? position = some true then Happening.success position else []

end Underway

/-- What happened to the step at a position: failures, and since then what the call
under way and the mark account for. -/
def Accounted (underway : Option Underway) (manager : Manager) (position : Nat)
    (calls : List (Happening α)) : Prop :=
  ∃ failed, Failures position failed ∧
    calls = failed ++ Underway.latest underway manager position

theorem CallStep.accounted {before after : Manager} {underway later : Option Underway}
    {thread position : Nat} {happening : Happening α} {calls : List (Happening α)}
    (step : CallStep before underway thread happening later)
    (effect : happening.Effect before after)
    (accounted : Accounted underway before position calls) :
    Accounted later after position
      (calls ++ if happening.isCallAt position then [happening] else []) := by
  rcases accounted with ⟨failed, failures, split⟩
  cases step with
  | rest quiet =>
      have elsewhere : happening.isCallAt position = false := by
        cases happening <;> first | rfl | cases quiet
      have unmarked : happening ≠ .completed position := by
        intro equal
        rw [equal] at quiet
        cases quiet
      refine ⟨failed, failures, ?_⟩
      simp only [split, elsewhere, Underway.latest, effect.completed_iff unmarked]
      simp
  | @call _ busy pending =>
      by_cases here : busy = position
      · subst busy
        refine ⟨failed, failures, ?_⟩
        simp [split, Underway.latest, pending, Happening.isCallAt]
      · refine ⟨failed, failures, ?_⟩
        simp [split, Underway.latest, here, Happening.isCallAt,
          effect.completed_iff (by simp : Happening.called busy ≠ .completed position)]
  | @finish _ busy outcome pending =>
      by_cases here : busy = position
      · subst busy
        refine ⟨failed, failures, ?_⟩
        simp [split, Underway.latest, Happening.isCallAt]
      · refine ⟨failed, failures, ?_⟩
        simp [split, Underway.latest, here, Happening.isCallAt,
          effect.completed_iff (by simp : Happening.ended busy outcome ≠ .completed position)]
  | @complete _ busy pending =>
      by_cases here : busy = position
      · subst busy
        refine ⟨failed, failures, ?_⟩
        simp [split, Underway.latest, Happening.isCallAt, Happening.success,
          effect.completes pending]
      · refine ⟨failed, failures, ?_⟩
        simp [split, Underway.latest, here, Happening.isCallAt,
          effect.completed_iff (by simp [here] : Happening.completed busy ≠ .completed position)]
  | @forgo _ busy outcome pending unsuccessful =>
      by_cases here : busy = position
      · subst busy
        refine ⟨_, failures.snoc unsuccessful, ?_⟩
        cases effect
        simp [split, Underway.latest, Happening.isCallAt, pending]
      · refine ⟨failed, failures, ?_⟩
        cases effect
        simp [split, Underway.latest, here, Happening.isCallAt]

/-- The calls of all threads: each has ended before the next one begins, but for one
that is still under way. -/
def OneByOne (underway : Option Underway) (calls : Trace α) : Prop :=
  ∃ ended, InTurn ended ∧
    calls = ended ++
      match underway with
      | some ⟨thread, position, none⟩ => [(thread, .called position)]
      | _ => []

theorem CallStep.oneByOne {manager : Manager} {underway later : Option Underway}
    {thread : Nat} {happening : Happening α} {calls : Trace α}
    (step : CallStep manager underway thread happening later)
    (oneByOne : OneByOne underway calls) :
    OneByOne later (calls ++ if happening.isBound then [(thread, happening)] else []) := by
  rcases oneByOne with ⟨ended, inTurn, split⟩
  cases step with
  | rest quiet =>
      have unbound : happening.isBound = false := by
        cases happening <;> first | rfl | cases quiet
      exact ⟨ended, inTurn, by simp [split, unbound]⟩
  | call pending => exact ⟨ended, inTurn, by simp [split, Happening.isBound]⟩
  | @finish _ position outcome pending =>
      refine ⟨ended ++ [(thread, .called position), (thread, .ended position outcome)],
        inTurn.snoc, ?_⟩
      simp [split, Happening.isBound]
  | complete pending => exact ⟨ended, inTurn, by simp [split, Happening.isBound]⟩
  | forgo pending unsuccessful => exact ⟨ended, inTurn, by simp [split, Happening.isBound]⟩

namespace System

variable {world : World} {trace : Trace α} {system : System α}

theorem Run.accounted (run : Run plays (fresh world) trace system) (position : Nat) :
    Accounted system.underway system.service.manager position (trace.callsAt position) := by
  induction run with
  | nil => exact ⟨[], .nil, rfl⟩
  | snoc run _ step induction =>
      rw [Trace.callsAt_snoc]
      exact (step.callStep (run.sound (.fresh world))).accounted step.effect induction

theorem Run.oneByOne (run : Run plays (fresh world) trace system) :
    OneByOne system.underway trace.calls := by
  induction run with
  | nil => exact ⟨[], .nil, rfl⟩
  | snoc run _ step induction =>
      rw [Trace.calls_snoc]
      exact (step.callStep (run.sound (.fresh world))).oneByOne induction

theorem Sound.underway_pending (sound : system.Sound) {underway : Underway}
    (busy : system.underway = some underway) :
    system.service.manager.completed? underway.position = some false := by
  unfold System.underway at busy
  rcases Option.bind_eq_some_iff.mp busy with ⟨thread, held, found⟩
  split at found
  · rename_i task phase holding
    have fits := sound.fits holding
    cases phase with
    | acting | booking => cases found; exact fits.pending
    | registering | visiting | starting | stopping | leaving => cases found
  · cases found

/-- The account of a step in terms of its failures and of a part of the only call
that succeeds. -/
theorem Sound.split_account (sound : system.Sound) {position : Nat}
    {calls : List (Happening α)}
    (accounted : Accounted system.underway system.service.manager position calls) :
    ∃ failed last, calls = failed ++ last ∧ Failures position failed ∧
      last <+: Happening.success position ∧
      (system.service.manager.completed? position = some true ↔
        last = Happening.success position) := by
  rcases accounted with ⟨failed, failures, split⟩
  have marked : ∀ manager : Manager, ∃ last,
      (if manager.completed? position = some true then Happening.success (α := α) position
        else []) = last ∧ last <+: Happening.success position ∧
      (manager.completed? position = some true ↔ last = Happening.success position) := by
    intro manager
    by_cases done : manager.completed? position = some true
    · exact ⟨_, by rw [if_pos done], List.prefix_rfl, by simp [done]⟩
    · exact ⟨_, by rw [if_neg done], List.nil_prefix, by simp [done, Happening.success]⟩
  cases busy : system.underway with
  | none =>
      rw [busy] at split
      rcases marked system.service.manager with ⟨last, equal, part, whole⟩
      exact ⟨failed, last, by rw [split, ← equal]; rfl, failures, part, whole⟩
  | some underway =>
      rw [busy] at split
      by_cases here : underway.position = position
      · have pending := sound.underway_pending busy
        rw [here] at pending
        cases ending : underway.outcome with
        | none =>
            refine ⟨failed, [.called position], ?_, failures, ?_, ?_⟩
            · simp [split, Underway.latest, here, ending]
            · simp [Happening.success]
            · simp [Happening.success, pending]
        | some outcome =>
            cases outcome with
            | succeeded =>
                refine ⟨failed, [.called position, .ended position .succeeded], ?_, failures,
                  ?_, ?_⟩
                · simp [split, Underway.latest, here, ending]
                · simp [Happening.success]
                · simp [Happening.success, pending]
            | failed cause =>
                refine ⟨_, [], ?_, failures.snoc (by simp : Outcome.failed cause ≠ .succeeded),
                  List.nil_prefix, ?_⟩
                · simp [split, Underway.latest, here, ending]
                · simp [Happening.success, pending]
            | panicked message =>
                refine ⟨_, [], ?_, failures.snoc (by simp : Outcome.panicked message ≠ .succeeded),
                  List.nil_prefix, ?_⟩
                · simp [split, Underway.latest, here, ending]
                · simp [Happening.success, pending]
      · rcases marked system.service.manager with ⟨last, equal, part, whole⟩
        refine ⟨failed, last, ?_, failures, part, whole⟩
        rw [split, ← equal]
        simp [Underway.latest, here]

/-- Whatever threads and actions do, the calls for a step are failures and then at
most one success, which is followed by nothing but the mark; the step is completed
exactly once the mark is made. No call begins before the one before it has ended. -/
theorem Run.calls_fail_then_succeed_once (run : Run plays (fresh world) trace system) :
    (∀ position, ∃ failed last, trace.callsAt position = failed ++ last ∧
        Failures position failed ∧ last <+: Happening.success position ∧
        (system.service.manager.completed? position = some true ↔
          last = Happening.success position)) ∧
      ∃ ended last, trace.calls = ended ++ last ∧ InTurn ended ∧
        (last = [] ∨ ∃ thread position, last = [(thread, .called position)]) := by
  have sound := run.sound (.fresh world)
  refine ⟨fun position => sound.split_account (run.accounted position), ?_⟩
  rcases run.oneByOne with ⟨ended, inTurn, split⟩
  refine ⟨ended, _, split, inTurn, ?_⟩
  split
  · exact .inr ⟨_, _, rfl⟩
  · exact .inl rfl

theorem calls_of_interleaved : ∃ system : System Unit,
    Run Action.Plays (fresh {}) interleaved system ∧
      ∃ failed last, interleaved.callsAt 0 = failed ++ last ∧ Failures 0 failed ∧
        last <+: Happening.success 0 ∧
        (system.service.manager.completed? 0 = some true ↔ last = Happening.success 0) := by
  rcases exists_interleaved with ⟨system, run, _, _⟩
  exact ⟨system, run, run.calls_fail_then_succeed_once.1 0⟩

end System

end Bringup
