import Bringup.Metrics
import Bringup.Proofs.Course
import Bringup.Proofs.Index

namespace Bringup

/-! The calls of the actions, as the metrics and the log tell them.

A call writes down in one go that its step is run, that it has ended and how it is booked;
meanwhile its action may register steps, but calls nothing. So what is told of the calls is
told call by call (`Service.Books.told`), and every count is a count of calls. How often a
step was called and whether it is completed follow from the same calls (`Manager.Settled`). -/

namespace Outcome

def isSuccess : Outcome → Bool
  | succeeded => true
  | failed _ | panicked _ => false

def isFailure : Outcome → Bool
  | failed _ => true
  | succeeded | panicked _ => false

def settle (outcome : Outcome) (step : Step) : Step :=
  { step with calls := step.calls + 1, completed := step.completed || outcome.isSuccess }

theorem mark_called (outcome : Outcome) (manager : Manager) (position : Nat) :
    outcome.mark (manager.change position Step.called) position =
      manager.change position outcome.settle := by
  have unsettled : Step.called = fun step => { step with
      calls := step.calls + 1, completed := step.completed || false } := by
    funext step
    rw [Bool.or_false]
    rfl
  cases outcome with
  | succeeded =>
      simp only [mark, Manager.markCompleted, Manager.change, List.modify_modify_eq]
      congr 2
      funext step
      simp [Step.called, Step.complete, settle, isSuccess]
  | failed | panicked =>
      rw [unsettled]
      rfl

@[simp] theorem settle_name (outcome : Outcome) (step : Step) :
    (outcome.settle step).name = step.name := rfl

@[simp] theorem settle_completed (outcome : Outcome) (step : Step) :
    (outcome.settle step).completed = (step.completed || outcome.isSuccess) := rfl

end Outcome

namespace Call

def ofStep (name : String) (calls : List Call) : List Call :=
  calls.filter fun call => call.step = name

theorem ofStep_snoc_same {name : String} {call : Call} (own : call.step = name)
    (calls : List Call) : ofStep name (calls ++ [call]) = ofStep name calls ++ [call] := by
  simp [ofStep, own]

theorem ofStep_snoc_other {name : String} {call : Call} (other : call.step ≠ name)
    (calls : List Call) : ofStep name (calls ++ [call]) = ofStep name calls := by
  simp [ofStep, other]

end Call

/-! ## Calls and steps -/

namespace Manager

/-- The calls so far were calls of registered steps, and every step knows how many were its
own and whether one of them succeeded; no second one does. -/
structure Settled (manager : Manager) (calls : List Call) : Prop where
  indexed : manager.Indexed
  known : ∀ call ∈ calls, call.step ∈ manager.steps.map Step.name
  called : ∀ step ∈ manager.steps, (Call.ofStep step.name calls).length = step.calls
  completed : ∀ step ∈ manager.steps,
    (Call.ofStep step.name calls).countP (·.outcome.isSuccess) = step.completed.toNat

theorem Settled.fresh : Settled {} [] where
  indexed := .fresh
  known call member := by cases member
  called step member := by cases member
  completed step member := by cases member

namespace Settled

variable {manager : Manager} {calls : List Call}

theorem enlist (settled : manager.Settled calls) (name : String) (action : Action) :
    (manager.enlist name action).Settled calls := by
  cases known : manager.position? name with
  | some position => rwa [enlist_of_taken known]
  | none =>
      have unused := settled.indexed.unused known
      have grown := settled.indexed.enlist name action
      rw [enlist_of_free known] at grown ⊢
      -- Only registered steps are called, so a name that was free has no calls.
      have uncalled : Call.ofStep name calls = [] := by
        refine List.filter_eq_nil_iff.mpr fun call member same => unused ?_
        rw [← of_decide_eq_true same]
        exact settled.known call member
      refine ⟨grown, fun call member => ?_, fun step member => ?_, fun step member => ?_⟩
      · rw [List.map_append]
        exact List.mem_append_left _ (settled.known call member)
      · rcases List.mem_append.mp member with old | new
        · exact settled.called step old
        · rw [List.mem_singleton.mp new, uncalled]
          rfl
      · rcases List.mem_append.mp member with old | new
        · exact settled.completed step old
        · rw [List.mem_singleton.mp new, uncalled]
          rfl

theorem enlistAll (settled : manager.Settled calls) (meanwhile : List (String × Action)) :
    (manager.enlistAll meanwhile).Settled calls := by
  induction meanwhile generalizing manager with
  | nil => exact settled
  | cons registration rest induction => exact induction (settled.enlist _ _)

theorem setReady (settled : manager.Settled calls) (ready : Bool) :
    (manager.setReady ready).Settled calls :=
  ⟨settled.indexed, settled.known, settled.called, settled.completed⟩

theorem call (settled : manager.Settled calls) {position : Nat} {step : Step}
    (stands : manager.steps[position]? = some step) (pending : step.completed = false)
    {call : Call} (own : call.step = step.name) :
    (manager.change position call.outcome.settle).Settled (calls ++ [call]) := by
  have names : (manager.change position call.outcome.settle).steps.map Step.name =
      manager.steps.map Step.name := names_modify _ _ fun _ => rfl
  -- No other step has the name of the one that was called.
  have steps : ∀ other ∈ (manager.change position call.outcome.settle).steps,
      other = call.outcome.settle step ∨ other ∈ manager.steps ∧ call.step ≠ other.name := by
    intro other member
    rcases List.mem_iff_getElem?.mp member with ⟨place, found⟩
    simp only [change, List.getElem?_modify] at found
    by_cases here : position = place
    · subst place
      simp only [stands, if_true] at found
      exact .inl (Option.some.inj found).symm
    · simp only [if_neg here] at found
      have stood : manager.steps[place]? = some other := by simpa using found
      refine .inr ⟨List.mem_of_getElem? stood, fun same => here ?_⟩
      exact settled.indexed.position_eq stands stood (own.symm.trans same)
  refine ⟨settled.indexed.change position fun _ => rfl, fun other member => ?_,
    fun other member => ?_, fun other member => ?_⟩
  · rw [names]
    rcases List.mem_append.mp member with old | new
    · exact settled.known other old
    · rw [List.mem_singleton.mp new, own]
      exact List.mem_map_of_mem (List.mem_of_getElem? stands)
  · rcases steps other member with rfl | ⟨old, different⟩
    · have before := settled.called step (List.mem_of_getElem? stands)
      rw [Outcome.settle_name, Call.ofStep_snoc_same own, List.length_append, before]
      rfl
    · rw [Call.ofStep_snoc_other different]
      exact settled.called other old
  · rcases steps other member with rfl | ⟨old, different⟩
    · have before := settled.completed step (List.mem_of_getElem? stands)
      rw [Outcome.settle_name, Call.ofStep_snoc_same own, List.countP_append, before,
        Outcome.settle_completed, pending]
      cases succeeded : call.outcome.isSuccess <;> simp [succeeded]
    · rw [Call.ofStep_snoc_other different]
      exact settled.completed other old

end Settled

end Manager

/-! ## What is told of a call -/

namespace Entry

def isOfCall : Entry → Bool
  | sample _ _ | call _ => true
  | .event (.stepRunning _) | .event (.stepCompleted _) | .event (.stepFailed _ _) => true
  | _ => false

def completion? : Entry → Option Nat
  | .event (.bootstrapComplete steps) => some steps
  | _ => none

def isQuiet : Entry → Bool
  | sample _ _ | call _ => false
  | .event logged => !logged.isAboutSteps
  | _ => true

theorem isQuiet_of_isAside {entry : Entry} (aside : entry.isAside = true) :
    entry.isQuiet = true := by
  cases entry <;> first | exact aside | rfl

theorem of_isQuiet {entry : Entry} (quiet : entry.isQuiet = true) :
    entry.isOfCall = false ∧ entry.completion? = none := by
  cases entry with
  | event logged => cases logged <;> first | exact ⟨rfl, rfl⟩ | cases quiet
  | sample | call => cases quiet
  | gauge | serverEvent | loggerInstalled | bound | exporterInstalled | sought | login
  | command => exact ⟨rfl, rfl⟩

end Entry

namespace Call

/-- What is told of a call: that the step is run, that the call has ended, and how it is
booked. -/
def told (call : Call) : List Entry :=
  .event (.stepRunning call.step) :: .call call ::
    Service.bookingEntries call.step call.outcome

end Call

namespace Journal

def toldOfCalls (journal : Journal) : List Entry := journal.filter Entry.isOfCall

def completions (journal : Journal) : List Nat := journal.filterMap Entry.completion?

@[simp] theorem toldOfCalls_append (first second : Journal) :
    toldOfCalls (first ++ second) = first.toldOfCalls ++ second.toldOfCalls :=
  List.filter_append ..

@[simp] theorem completions_append (first second : Journal) :
    completions (first ++ second) = first.completions ++ second.completions :=
  List.filterMap_append

theorem calls_toldOfCalls (journal : Journal) :
    calls journal.toldOfCalls = journal.calls := by
  unfold calls toldOfCalls
  rw [List.filterMap_filter]
  congr 1
  funext entry
  cases entry <;> first | rfl | exact ite_self _

theorem Adds.quiet {first second : Journal} (adds : Adds Entry.isQuiet first second) :
    second.toldOfCalls = first.toldOfCalls ∧ second.completions = first.completions := by
  rcases adds with ⟨entries, rfl, quiet⟩
  have untold : toldOfCalls entries = [] := List.filter_eq_nil_iff.mpr fun entry member => by
    rw [(Entry.of_isQuiet (quiet entry member)).1]
    exact Bool.false_ne_true
  have unfinished : completions entries = [] := List.filterMap_eq_nil_iff.mpr
    fun entry member => (Entry.of_isQuiet (quiet entry member)).2
  rw [toldOfCalls_append, completions_append, untold, unfinished, List.append_nil,
    List.append_nil]
  exact ⟨rfl, rfl⟩

end Journal

namespace Service

def Walked.completion? (walked : Walked) : Option Nat :=
  match walked.1 with
  | .returned (.ok ()) => some walked.2.manager.steps.length
  | _ => none

variable {direct : Prop}

theorem Deed.quiet {service next : Service} (deed : Deed service next) :
    Journal.Adds Entry.isQuiet service.world.journal next.world.journal := by
  cases deed with
  | registers name action =>
      rw [register_journal]
      refine .all _ ?_
      cases (service.register name action).1 <;>
        simp [registrationEntries, Entry.isQuiet, Event.isAboutSteps]
  | attempts stage =>
      rcases service.world.attempt_notes stage with noted | ⟨_, address, chosen, noted⟩
      · exact noted.mono fun _ => Entry.isQuiet_of_isAside
      · refine .trans (.all _ ?_) (noted.mono fun _ => Entry.isQuiet_of_isAside)
        simp [World.installationEntries, Entry.isQuiet, Event.isAboutSteps]

theorem Deeds.quiet {service next : Service} (deeds : Deeds service next) :
    Journal.Adds Entry.isQuiet service.world.journal next.world.journal := by
  induction deeds with
  | refl => exact .refl _ _
  | tail _ deed induction => exact induction.trans deed.quiet

theorem book_told {service ended : Service} {position : Nat} {step : Step}
    (quiet : Journal.Adds Entry.isQuiet (service.beginCall position step).world.journal
      ended.world.journal) (replies : List Reply) (outcome : Outcome) :
    ((ended.endCall step replies outcome).book position
        step.name outcome).2.world.journal.toldOfCalls =
      service.world.journal.toldOfCalls ++
        Call.told ⟨step.name, step.calls + 1, replies, outcome⟩ := by
  rw [book_journal, endCall_journal, Journal.toldOfCalls_append, Journal.toldOfCalls_append,
    quiet.quiet.1, beginCall_journal, Journal.toldOfCalls_append, List.append_assoc,
    List.append_assoc]
  cases outcome <;> rfl

theorem runStep_call (service : Service) (position : Nat) (step : Step)
    (inside : position < service.manager.steps.length) :
    ∃ meanwhile, ∃ call : Call, call.step = step.name ∧
      (service.runStep position step).2.manager =
        (service.manager.enlistAll meanwhile).change position call.outcome.settle ∧
      (service.runStep position step).2.world.journal.toldOfCalls =
        service.world.journal.toldOfCalls ++ call.told ∧
      (service.runStep position step).2.world.journal.completions =
        service.world.journal.completions := by
  rcases service.runStep_cases position step with ⟨ended, replies, outcome, deeds, ran⟩
  rcases deeds.manager with ⟨meanwhile, same⟩
  refine ⟨meanwhile, ⟨step.name, step.calls + 1, replies, outcome⟩, rfl, ?_, ?_, ?_⟩
  · rw [ran, book_manager, endCall_manager, same, beginCall_manager, ← Outcome.mark_called,
      ← Manager.enlistAll_change inside]
    rfl
  · rw [ran]
    exact book_told deeds.quiet replies outcome
  · rw [ran, book_journal, endCall_journal, Journal.completions_append,
      Journal.completions_append, deeds.quiet.quiet.2, beginCall_journal,
      Journal.completions_append, List.append_assoc, List.append_assoc]
    cases outcome <;> exact List.append_nil _

/-- The books of a process: what is told of the calls is told call by call, the calls agree
with the steps, and a walk that came to the end told how many steps it came past. -/
structure Books (walks : List Walked) (service : Service) : Prop where
  told : service.world.journal.toldOfCalls = service.world.journal.calls.flatMap Call.told
  settled : service.manager.Settled service.world.journal.calls
  completions : service.world.journal.completions = walks.filterMap Walked.completion?

theorem calls_told (call : Call) : Journal.calls call.told = [call] := by
  unfold Call.told
  cases call.outcome <;> rfl

theorem events_told (call : Call) :
    Journal.events call.told = .stepRunning call.step :: match call.outcome with
      | .succeeded => [.stepCompleted call.step]
      | .failed cause => [.stepFailed call.step cause.message]
      | .panicked _ => [] := by
  unfold Call.told
  cases call.outcome <;> rfl

theorem Books.fresh {world : World} (unused : world.journal = []) :
    ({ world } : Service).Books [] := by
  refine ⟨?_, ?_, ?_⟩ <;> rw [unused]
  · rfl
  · exact .fresh
  · rfl

theorem Books.quiet {walks : List Walked} {service next : Service} (books : service.Books walks)
    (quiet : Journal.Adds Entry.isQuiet service.world.journal next.world.journal)
    (settled : next.manager.Settled service.world.journal.calls) : next.Books walks := by
  rcases quiet.quiet with ⟨told, completions⟩
  have calls : next.world.journal.calls = service.world.journal.calls := by
    rw [← Journal.calls_toldOfCalls, told, Journal.calls_toldOfCalls]
  refine ⟨?_, ?_, completions.trans books.completions⟩
  · rw [told, calls, books.told]
  · rw [calls]
    exact settled

theorem Move.books {walks : List Walked} {service next : Service}
    (move : Move direct service next) (books : service.Books walks) : next.Books walks := by
  cases move with
  | registers name action =>
      refine books.quiet (Deed.registers service name action).quiet ?_
      rw [register_manager]
      exact books.settled.enlist name action
  | @pushes next name action pushed =>
      refine books.quiet (by rw [push_journal pushed]; exact .one _ rfl) ?_
      have enlisted := books.settled.enlist name action
      rwa [Manager.enlist, push_manager pushed] at enlisted
  | @runs position step stands pending =>
      have inside := (List.getElem?_eq_some_iff.mp stands).1
      rcases service.runStep_call position step inside with
        ⟨meanwhile, call, own, manager, told, completions⟩
      have calls : (service.runStep position step).2.world.journal.calls =
          service.world.journal.calls ++ [call] := by
        rw [← Journal.calls_toldOfCalls, told, Journal.calls_append,
          Journal.calls_toldOfCalls, calls_told]
      refine ⟨?_, ?_, completions.trans books.completions⟩
      · rw [told, calls, books.told, List.flatMap_append, List.flatMap_singleton]
      · rw [manager, calls]
        exact (books.settled.enlistAll meanwhile).call
          (Manager.enlistAll_stands stands meanwhile) pending own
  | exports address allowed =>
      refine books.quiet ?_ books.settled
      rcases service.world.installExporter_cases address with
        ⟨_, _, _, _, grown⟩ | ⟨⟨_, failed⟩, _⟩
      · rw [grown]
        refine .all _ ?_
        simp [World.installationEntries, Entry.isQuiet, Event.isAboutSteps]
      · exact (World.installExporter_notes failed).mono fun _ => Entry.isQuiet_of_isAside
  | notes noted =>
      exact books.quiet (noted.mono fun _ => Entry.isQuiet_of_isAside) books.settled

theorem Ends.books {walks : List Walked} {service : Service} {walked : Walked}
    (ended : Ends service walked) (books : service.Books walks) :
    walked.2.Books (walks ++ [walked]) := by
  cases ended with
  | @arrives position past below =>
      have shown : (service.setReady true).Books walks :=
        books.quiet (.one _ rfl) (books.settled.setReady true)
      have calls : Journal.calls [.event (.bootstrapComplete position)] = [] := rfl
      have told : Journal.toldOfCalls [.event (.bootstrapComplete position)] = [] := rfl
      refine ⟨?_, ?_, ?_⟩ <;> rw [log_journal]
      · rw [Journal.toldOfCalls_append, Journal.calls_append, told, calls, List.append_nil,
          List.append_nil]
        exact shown.told
      · rw [Journal.calls_append, calls, List.append_nil]
        exact shown.settled
      · rw [Journal.completions_append, List.filterMap_append, shown.completions,
          below.eq_length past]
        rfl
  | stops fault =>
      have shown : (service.setReady false).Books walks :=
        books.quiet (.one _ rfl) (books.settled.setReady false)
      refine ⟨shown.told, shown.settled, ?_⟩
      rw [List.filterMap_append]
      exact shown.completions.trans (List.append_nil _).symm
  | panics message =>
      refine ⟨books.told, books.settled, ?_⟩
      rw [List.filterMap_append]
      exact books.completions.trans (List.append_nil _).symm

theorem Course.books {first last : Service} {walks : List Walked}
    (course : Course direct first walks last) (books : first.Books []) : last.Books walks := by
  induction course with
  | nil => exact books
  | move _ move induction => exact move.books induction
  | ends _ ended induction => exact ended.books induction

end Service

/-! ## Counting -/

namespace Metrics

theorem mem_measuredSteps {journal : Journal} {step : String} :
    step ∈ journal.measuredSteps ↔ 0 < journal.timings step := by
  rw [Journal.measuredSteps, List.mem_eraseDups, List.mem_map, Journal.timings,
    Nat.add_pos_iff_pos_or_pos, Journal.count, Journal.count, List.count_pos_iff,
    List.count_pos_iff]
  constructor
  · rintro ⟨⟨_, success⟩, sampled, rfl⟩
    cases success
    · exact .inr sampled
    · exact .inl sampled
  · rintro (sampled | sampled) <;> exact ⟨_, sampled, rfl⟩

theorem mem_outcomes {journal : Journal} {step : String} {measure : Measure} :
    measure ∈ outcomes journal step ↔ ∃ success, 0 < journal.count step success ∧
      measure = ⟨counterName, [("step", step), ("outcome", outcomeName success)],
        journal.count step success⟩ := by
  rw [outcomes, List.mem_filterMap]
  constructor
  · rintro ⟨success, _, found⟩
    simp only at found
    split at found
    · cases found
    · rename_i counted
      exact ⟨success, Nat.pos_of_ne_zero counted, (Option.some.inj found).symm⟩
  · rintro ⟨success, counted, rfl⟩
    refine ⟨success, by cases success <;> simp, ?_⟩
    exact if_neg (Nat.ne_of_gt counted)

theorem mem_measures {journal : Journal} {measure : Measure} :
    measure ∈ measures journal ↔ ∃ step, 0 < journal.timings step ∧
      (measure = ⟨timerName, [("step", step)], journal.timings step⟩ ∨
        measure ∈ outcomes journal step) := by
  simp only [measures, List.mem_flatMap, List.mem_cons, mem_measuredSteps]

theorem counterName_ne_timerName : counterName ≠ timerName := by decide

theorem outcomeName_injective {first second : Bool}
    (same : outcomeName first = outcomeName second) : first = second := by
  revert same
  cases first <;> cases second <;> decide

theorem mem_measures_counter {journal : Journal} {step : String} (success : Bool)
    {total : Nat} :
    ⟨counterName, [("step", step), ("outcome", outcomeName success)], total⟩ ∈ measures journal ↔
      0 < total ∧ total = journal.count step success := by
  rw [mem_measures]
  constructor
  · rintro ⟨other, _, timer | counter⟩
    · exact absurd (congrArg Measure.metric timer) counterName_ne_timerName
    · rcases mem_outcomes.mp counter with ⟨outcome, counted, same⟩
      simp only [Measure.mk.injEq, List.cons.injEq, Prod.mk.injEq, true_and, and_true] at same
      rcases same with ⟨⟨rfl, named⟩, rfl⟩
      rw [outcomeName_injective named]
      exact ⟨counted, rfl⟩
  · rintro ⟨counted, rfl⟩
    refine ⟨step, ?_, .inr (mem_outcomes.mpr ⟨success, counted, rfl⟩)⟩
    cases success
    · exact Nat.add_pos_right _ counted
    · exact Nat.add_pos_left counted _

theorem mem_measures_timer {journal : Journal} {step : String} {total : Nat} :
    ⟨timerName, [("step", step)], total⟩ ∈ measures journal ↔
      0 < total ∧ total = journal.timings step := by
  rw [mem_measures]
  constructor
  · rintro ⟨other, timed, timer | counter⟩
    · simp only [Measure.mk.injEq, List.cons.injEq, Prod.mk.injEq, true_and, and_true] at timer
      rcases timer with ⟨rfl, rfl⟩
      exact ⟨timed, rfl⟩
    · rcases mem_outcomes.mp counter with ⟨outcome, _, same⟩
      exact absurd (congrArg Measure.metric same).symm counterName_ne_timerName
  · rintro ⟨timed, rfl⟩
    exact ⟨step, timed, .inl rfl⟩

end Metrics

namespace Journal

def callsOf (journal : Journal) (name : String) : List Call := Call.ofStep name journal.calls

def failuresOf (journal : Journal) (name : String) : Nat :=
  (journal.callsOf name).countP (·.outcome.isFailure)

end Journal

def Event.isFailureOf (name : String) : Event → Bool
  | stepFailed step _ => step == name
  | _ => false

namespace Service

/-- What the metrics and the log tell of a registered step. A measure that is nothing is
absent. -/
structure Accounted (journal : Journal) (step : Step) : Prop where
  calls : (journal.callsOf step.name).length = step.calls
  successes : ∀ total,
    ⟨Metrics.counterName, [("step", step.name), ("outcome", "success")], total⟩ ∈
      Metrics.measures journal ↔ step.completed = true ∧ total = 1
  failures : ∀ total,
    ⟨Metrics.counterName, [("step", step.name), ("outcome", "failure")], total⟩ ∈
      Metrics.measures journal ↔ 0 < total ∧ total = journal.failuresOf step.name
  timings : ∀ total,
    ⟨Metrics.timerName, [("step", step.name)], total⟩ ∈ Metrics.measures journal ↔
      0 < total ∧ total = step.completed.toNat + journal.failuresOf step.name
  running : journal.events.count (.stepRunning step.name) =
    (journal.callsOf step.name).length
  completed : journal.events.count (.stepCompleted step.name) = step.completed.toNat
  failed : journal.events.countP (Event.isFailureOf step.name) = journal.failuresOf step.name

variable {walks : List Walked} {service : Service}

/-- What is only told of calls is counted call by call. -/
theorem Books.countP (books : service.Books walks) {view : Entry → Option β}
    {told : β → Bool} {counted : Call → Bool}
    (ofCall : ∀ entry, ((view entry).map told).getD false = true → entry.isOfCall = true)
    (each : ∀ call : Call, (call.told.filterMap view).countP told = (counted call).toNat) :
    (service.world.journal.filterMap view).countP told =
      service.world.journal.calls.countP counted := by
  -- What is counted is told of calls, so it may be looked for among that alone.
  have kept : (service.world.journal.filterMap view).countP told =
      (service.world.journal.toldOfCalls.filterMap view).countP told := by
    rw [List.countP_filterMap, List.countP_filterMap, Journal.toldOfCalls, List.countP_filter]
    congr 1
    funext entry
    cases seen : ((view entry).map told).getD false with
    | false => rfl
    | true => rw [ofCall entry seen]; rfl
  rw [kept, books.told]
  induction service.world.journal.calls with
  | nil => rfl
  | cons call rest induction =>
      rw [List.flatMap_cons, List.filterMap_append, List.countP_append, each, induction,
        List.countP_cons, Nat.add_comm]
      cases counted call <;> rfl

theorem countP_ofStep (name : String) (how : Outcome → Bool) (calls : List Call) :
    (Call.ofStep name calls).countP (fun call => how call.outcome) =
      calls.countP fun call => how call.outcome && call.step = name :=
  List.countP_filter

theorem Books.count (books : service.Books walks) (name : String) :
    service.world.journal.count name true =
        (service.world.journal.callsOf name).countP (·.outcome.isSuccess) ∧
      service.world.journal.count name false = service.world.journal.failuresOf name := by
  constructor
  · rw [Journal.callsOf, countP_ofStep]
    refine books.countP (fun entry seen => ?_) fun call => ?_
    · cases entry <;> first | rfl | cases seen
    · cases outcome : call.outcome <;> by_cases same : call.step = name <;>
        simp [Call.told, outcome, bookingEntries, Outcome.isSuccess, same]
  · rw [Journal.failuresOf, Journal.callsOf, countP_ofStep]
    refine books.countP (fun entry seen => ?_) fun call => ?_
    · cases entry <;> first | rfl | cases seen
    · cases outcome : call.outcome <;> by_cases same : call.step = name <;>
        simp [Call.told, outcome, bookingEntries, Outcome.isFailure, same]

theorem Books.countP_events (books : service.Books walks) {told : Event → Bool}
    {counted : Call → Bool}
    (ofCall : ∀ event, told event = true → Entry.isOfCall (.event event) = true)
    (each : ∀ call : Call, (Journal.events call.told).countP told = (counted call).toNat) :
    service.world.journal.events.countP told = service.world.journal.calls.countP counted := by
  refine books.countP (fun entry seen => ?_) each
  cases entry with
  | event logged => exact ofCall logged seen
  | gauge | sample | serverEvent | call | loggerInstalled | bound | exporterInstalled | sought
  | login | command => cases seen

theorem Books.events (books : service.Books walks) (name : String) :
    service.world.journal.events.count (.stepRunning name) =
        (service.world.journal.callsOf name).length ∧
      service.world.journal.events.count (.stepCompleted name) =
        (service.world.journal.callsOf name).countP (·.outcome.isSuccess) ∧
      service.world.journal.events.countP (Event.isFailureOf name) =
        service.world.journal.failuresOf name := by
  refine ⟨?_, ?_, ?_⟩
  · rw [Journal.callsOf, Call.ofStep, ← List.countP_eq_length_filter]
    refine books.countP_events (fun event seen => ?_) fun call => ?_
    · cases event <;> first | rfl | cases seen
    · cases outcome : call.outcome <;> by_cases same : call.step = name <;>
        simp [events_told, outcome, same]
  · rw [Journal.callsOf, countP_ofStep]
    refine books.countP_events (fun event seen => ?_) fun call => ?_
    · cases event <;> first | rfl | cases seen
    · cases outcome : call.outcome <;> by_cases same : call.step = name <;>
        simp [events_told, outcome, Outcome.isSuccess, same]
  · rw [Journal.failuresOf, Journal.callsOf, countP_ofStep]
    refine books.countP_events (fun event seen => ?_) fun call => ?_
    · cases event <;> first | rfl | cases seen
    · cases outcome : call.outcome <;> by_cases same : call.step = name <;>
        simp [events_told, outcome, Outcome.isFailure, Event.isFailureOf, same]

theorem Books.accounted (books : service.Books walks) {step : Step}
    (registered : step ∈ service.manager.steps) :
    Accounted service.world.journal step := by
  have successes : (service.world.journal.callsOf step.name).countP (·.outcome.isSuccess) =
      step.completed.toNat := books.settled.completed step registered
  rcases books.count step.name with ⟨succeeded, failed⟩
  rcases books.events step.name with ⟨running, completions, failures⟩
  refine ⟨books.settled.called step registered, fun total => ?_, fun total => ?_, fun total => ?_,
    running, completions.trans successes, failures⟩
  · refine (Metrics.mem_measures_counter true).trans ?_
    rw [succeeded, successes]
    cases step.completed <;> simp <;> omega
  · refine (Metrics.mem_measures_counter false).trans ?_
    rw [failed]
  · rw [Metrics.mem_measures_timer, Journal.timings, succeeded, failed, successes]

/-- In every session on a fresh manager, the metrics and the log agree with the steps: each
step is accounted for, all calls are told one after the other, and the ends of walks that
are logged are those of the walks that succeeded, each with the number of steps there were. -/
theorem session_accounted (world : World) (unused : world.journal = [])
    (operations : List (Operation α)) :
    let last := (Service.session { world } operations).2
    (∀ step ∈ last.manager.steps, Accounted last.world.journal step) ∧
    last.world.journal.toldOfCalls = last.world.journal.calls.flatMap Call.told ∧
    last.world.journal.completions =
      (Service.walks { world } operations).filterMap Walked.completion? := by
  intro last
  have books : last.Books (Service.walks { world } operations) :=
    (session_course { world } operations).books (.fresh unused)
  exact ⟨fun step => books.accounted, books.told, books.completions⟩

def retried : List (Operation Unit) :=
  [.exec "database" [.script [] (.fail "refused"), .script [] .succeed], .initializeAll]

theorem session_retried : (Service.session {} retried).2 = {
    manager := {
      steps := [⟨"database", .scripted [.script [] (.fail "refused"), .script [] .succeed],
        true, 2⟩]
      positions := [("database", 0)]
      ready := true }
    world := {
      journal := [.gauge false, .event (.stepRunning "database"),
        .call ⟨"database", 1, [], .failed (.said "refused")⟩, .sample "database" false,
        .event (.stepFailed "database" "refused"), .event (.stepRunning "database"),
        .call ⟨"database", 2, [], .succeeded⟩, .sample "database" true,
        .event (.stepCompleted "database"), .gauge true, .event (.bootstrapComplete 1)] } } := by
  simp only [retried, session, Operation.perform, initializeAll]
  rw [walk_of_pending rfl rfl]
  exact congrArg Prod.snd (walk_of_none rfl)

theorem session_retried_accounted :
    let last := (Service.session {} retried).2
    last.manager.status = [⟨"database", true⟩] ∧
      last.world.journal.failuresOf "database" = 1 ∧ last.world.journal.completions = [1] ∧
      ∀ step ∈ last.manager.steps, Accounted last.world.journal step := by
  have accounted := session_accounted {} rfl retried
  rw [session_retried] at accounted ⊢
  exact ⟨rfl, rfl, rfl, accounted.1⟩

end Service

end Bringup
