import Bringup.Proofs.ExactlyOnce
import Bringup.Proofs.Progress
import Bringup.Proofs.Registry

namespace Bringup

/-! What is told of the steps, and when.

Threads ask how all steps stand, and so do actions while they are called. Each of them is told
how the steps stand in one moment (`System.Step.told?_eq`). As steps are only appended and what
is completed stays completed, whatever is told later goes on from what was told before
(`System.Run.status_precedes`). What is told also goes back to what has happened: each entry to
a registration, and each completed entry to a call that succeeded
(`System.Chronicle.exists_success`). All of this is put together in `System.Album`. -/

abbrev Snapshot := List StepStatus

/-- A snapshot goes on from an earlier one: it begins with the same names in the same order, and
still lists as completed whatever the earlier one does. -/
structure Snapshot.Precedes (earlier later : Snapshot) : Prop where
  names : earlier.map StepStatus.name <+: later.map StepStatus.name
  completed : ∀ (position : Nat) (name : String),
    earlier[position]? = some ⟨name, true⟩ → later[position]? = some ⟨name, true⟩

namespace Manager

variable {manager : Manager} {position : Nat} {name : String} {completed : Bool}

theorem names_status (manager : Manager) :
    manager.status.map StepStatus.name = manager.steps.map Step.name :=
  List.map_map

theorem names_roster (manager : Manager) :
    manager.roster.map Prod.fst = manager.steps.map Step.name :=
  List.map_map

theorem status_eq_some_iff :
    manager.status[position]? = some ⟨name, completed⟩ ↔
      (manager.steps.map Step.name)[position]? = some name ∧
        manager.completed? position = some completed := by
  rw [status, List.getElem?_map, List.getElem?_map, completed?]
  cases manager.steps[position]? with
  | none => simp
  | some step => simp [Step.status]

end Manager

theorem Happening.Effect.keeps_roster {happening : Happening α} {before after : Manager}
    (effect : happening.Effect before after) : before.roster <+: after.roster := by
  cases named : happening.registered? with
  | none => simp [effect.roster_eq named]
  | some name =>
      cases happening with
      | registered name =>
          rcases effect with ⟨action, pushed⟩
          rw [(Manager.push_eq_ok pushed).2, Manager.roster, Manager.roster, List.map_append]
          exact List.prefix_append _ _
      | began | rejected | called | ended | completed | walked | stopped | returned | silent =>
          cases named

/-! ## Being told -/

namespace Place

/-- Whether a thread is about to ask how the steps stand, for a call of its own or for the
action that it is calling. -/
def asksStatus : Place α → Bool
  | beginning (.look .status) => true
  | holding _ (.acting performance) =>
      match performance.requests with
      | .status :: _ => true
      | _ => false
  | _ => false

def told? : Place α → Option Snapshot
  | answering (.look .status) (.statuses snapshot) => some snapshot
  | holding _ (.acting performance) =>
      match performance.replies.getLast? with
      | some (.statuses snapshot) => some snapshot
      | _ => none
  | _ => none

theorem told?_start (task : Task α) : task.start.told? = none := by
  cases task <;> rfl

theorem told?_after (task : Task α) (finish : Finish (Except InitError Unit)) :
    (task.after finish).told? = none := by
  cases task with
  | register | exec | initializeAll | run => rcases finish with (fault | ⟨⟩) | message <;> rfl
  | look query => cases query <;> rcases finish with (fault | ⟨⟩) | message <;> rfl

theorem told?_proceed (task other : Task α) (position : Nat)
    (finish : Finish (Except InitError Unit)) :
    (holding other (task.proceed position finish)).told? = none := by
  unfold Task.proceed
  split <;> rfl

end Place

variable {plays : Action → Nat → Script → Prop}

theorem Phase.Step.told?_eq {task : Task α} {service next : Service} {phase later : Phase}
    {happening : Happening α} (step : Phase.Step plays task service phase happening next later) :
    (Place.holding task later).told? =
      if (Place.holding task phase).asksStatus then some service.manager.status else none := by
  cases step with
  | accepts | refuses | passes | finds | arrives | calls | stops => rfl
  | skips | books => exact Place.told?_proceed task task _ _
  | ends left => simp [Place.told?, Place.asksStatus, left]
  | @asks _ performance request rest reply rejected left replied =>
      simp only [Place.told?, Place.asksStatus, left, Performance.hear, List.getLast?_concat]
      cases request with
      | register name runs isRequired =>
          simp only [Service.reply] at replied
          split at replied <;> cases replied <;> rfl
      | isInitialized | isReady | status => cases replied; rfl

/-! ## Calls and the steps they are for -/

namespace Performance

/-- A call is one of the step at its position, as that was registered, and ends as one of the
scripts that the action plays. -/
structure Belongs (plays : Action → Nat → Script → Prop) (performance : Performance)
    (manager : Manager) : Prop where
  registered : manager.roster[performance.position]? =
    some (performance.step.name, performance.step.action)
  played : ∃ script, plays performance.step.action performance.step.calls script ∧
    script.ending = performance.ending

theorem Belongs.keep {performance : Performance} {before after : Manager}
    (belongs : performance.Belongs plays before) (grown : before.roster <+: after.roster) :
    performance.Belongs plays after :=
  ⟨getElem?_of_grown grown belongs.registered, belongs.played⟩

end Performance

theorem Phase.Step.belongs {task : Task α} {service next : Service} {phase : Phase}
    {performance : Performance} {happening : Happening α}
    (step : Phase.Step plays task service phase happening next (.acting performance))
    (belongs : ∀ earlier, phase = .acting earlier → earlier.Belongs plays service.manager) :
    performance.Belongs plays next.manager := by
  have grown := step.effect.keeps_roster
  generalize comes : Phase.acting performance = later at step
  cases step with
  | @calls position step script stands pending played =>
      cases comes
      exact ⟨getElem?_of_grown grown (Manager.roster_of_stands stands), script, played, rfl⟩
  | @asks _ earlier _ _ _ _ left replied =>
      cases comes
      have kept := (belongs earlier rfl).keep grown
      exact ⟨kept.registered, kept.played⟩
  | skips | books =>
      unfold Task.proceed at comes
      split at comes <;> cases comes
  | accepts | refuses | passes | finds | arrives | ends | stops => cases comes

/-- A call is ended by whoever has nothing left to ask in it. -/
theorem Phase.Step.acting_of_ended {task : Task α} {service next : Service}
    {phase later : Phase} {position : Nat} {outcome : Outcome}
    (step : Phase.Step plays task service phase (.ended position outcome : Happening α)
      next later) :
    ∃ performance, phase = .acting performance ∧ performance.requests = [] ∧
      performance.position = position ∧ performance.outcome = outcome := by
  generalize happened : (.ended position outcome : Happening α) = happening at step
  cases step with
  | ends left =>
      cases happened
      exact ⟨_, rfl, left, rfl, rfl⟩
  | asks left replied => exact absurd happened (Happening.ne_ofReply rfl _ _)
  | @books _ _ _ booked => cases booked <;> cases happened
  | accepts | refuses | passes | finds | arrives | skips | calls | stops => cases happened

theorem Service.ending_of_outcome {ending : Ending} {rejected : Option DuplicateName}
    (succeeded : Service.outcome ending rejected = .succeeded) : ending = .succeed := by
  cases ending with
  | succeed => rfl
  | fail => cases rejected <;> cases succeeded
  | panic => cases succeeded

namespace System

variable {world : World} {first system next last : System α} {thread position : Nat}
  {happening : Happening α} {moment : Moment α} {moments earlier later : List (Moment α)}

/-! ## Moments -/

theorem Step.told?_eq (step : Step plays system thread happening next) (sound : system.Sound) :
    (next.place thread).told? =
      if (system.place thread).asksStatus then some system.service.manager.status else none := by
  cases step with
  | begins task idle => rw [put_same, idle, Place.told?_start]; rfl
  | registers beginning => rw [put_same, beginning]; rfl
  | @looks query beginning => rw [put_same, beginning]; cases query <;> rfl
  | findsReady beginning | findsUnready beginning => rw [put_same, beginning]; rfl
  | @enters task phase waiting free =>
      have opens := sound.opens waiting
      rw [put_same, waiting]
      cases phase with
      | registering | visiting => rfl
      | starting | acting | booking | stopping | leaving => cases opens
  | works holding worked => rw [put_same, holding, worked.told?_eq]
  | leaves holding => rw [put_same, holding, Place.told?_after]; rfl
  | applies applying => rw [put_same, applying]; rfl
  | returns answering => rw [put_same, answering]; rfl

def Moment.snapshot? (moment : Moment α) : Option Snapshot :=
  (moment.after.place moment.thread).told?

theorem Chronicle.run_from (chronicle : Chronicle plays first moments last)
    (split : moments = earlier ++ moment :: later) :
    Run plays moment.before (Moment.trace (moment :: later)) last := by
  induction chronicle generalizing later with
  | nil => cases earlier <;> cases split
  | snoc chronicle thread step induction =>
      -- The moment is the last one, or the last one comes later.
      rcases List.eq_nil_or_concat later with rfl | ⟨rest, final, rfl⟩
      · rcases List.append_inj' split rfl with ⟨_, same⟩
        cases same
        exact (Run.nil _).snoc thread step
      · rw [List.concat_eq_append, ← List.cons_append, ← List.append_assoc] at split
        rcases List.append_inj' split rfl with ⟨before, same⟩
        cases same
        rw [List.concat_eq_append, ← List.cons_append, Moment.trace, List.map_append]
        exact (induction before).snoc thread step

theorem Run.status_precedes {trace : Trace α} (run : Run plays first trace last) :
    Snapshot.Precedes first.service.manager.status last.service.manager.status where
  names := by
    rw [Manager.names_status, Manager.names_status, run.names]
    exact List.prefix_append _ _
  completed position name listed := by
    rw [Manager.status_eq_some_iff] at listed ⊢
    refine ⟨?_, run.keeps_completed listed.2⟩
    rw [run.names]
    exact getElem?_of_grown (List.prefix_append _ _) listed.1

/-! ## The holder of the lock -/

/-- What holds of the holder of the lock as it enters, and is kept by its accesses and by
whatever others do, holds of it at all times. -/
theorem Run.holding {motive : Task α → Phase → Manager → Prop}
    (opens : ∀ {task phase manager}, phase.Opens task → motive task phase manager)
    (works : ∀ {task service phase} {happening : Happening α} {next later},
      Phase.Step plays task service phase happening next later →
        motive task phase service.manager → motive task later next.manager)
    (keeps : ∀ {task phase} {happening : Happening α} {before after},
      happening.Effect before after → motive task phase before → motive task phase after)
    {trace : Trace α} (run : Run plays (fresh world) trace system) {task : Task α}
    {phase : Phase} (holding : system.place thread = .holding task phase) :
    motive task phase system.service.manager := by
  induction run generalizing thread task phase with
  | nil => cases holding
  | @snoc trace middle happening last run actor step induction =>
      by_cases same : thread = actor
      · subst actor
        cases step.move with
        | aside effect common outside stays =>
            rw [put_same] at holding
            rw [holding] at stays
            cases stays
        | enter waiting free =>
            rw [put_same] at holding
            cases holding
            exact opens ((run.sound (.fresh world)).opens waiting)
        | work held worked =>
            rw [put_same] at holding
            cases holding
            exact works worked (induction held)
        | leave held =>
            rw [put_same] at holding
            unfold Task.after at holding
            split at holding <;> cases holding
      · -- Another thread has moved, which may have changed the manager.
        rw [step.place_other same] at holding
        exact keeps step.effect (induction holding)

theorem Run.belongs {trace : Trace α} (run : Run plays (fresh world) trace system)
    {task : Task α} {performance : Performance}
    (acting : system.place thread = .holding task (.acting performance)) :
    performance.Belongs plays system.service.manager := by
  refine run.holding (motive := fun _ phase manager => ∀ performance,
    phase = .acting performance → performance.Belongs plays manager) ?_ ?_ ?_ acting _ rfl
  · rintro task phase manager opens performance rfl
    cases opens
  · rintro task service phase happening next later worked belongs performance rfl
    exact worked.belongs belongs
  · intro task phase happening before after effect belongs performance acting
    exact (belongs performance acting).keep effect.keeps_roster

theorem Run.not_look {trace : Trace α} (run : Run plays (fresh world) trace system)
    {query : Query} {phase : Phase} : system.place thread ≠ .holding (.look query) phase := by
  intro holding
  refine run.holding (motive := fun task _ _ => ∀ query, task ≠ .look query) ?_
    (fun _ kept => kept) (fun _ kept => kept) holding query rfl
  rintro task phase manager opens query rfl
  cases phase with
  | registering => cases opens
  | visiting => cases opens.1
  | starting | acting | booking | stopping | leaving => cases opens

/-! ## Calls that succeeded -/

/-- A step is completed only once a call of its action has succeeded. -/
theorem Chronicle.exists_ended (chronicle : Chronicle plays (fresh world) moments last)
    (done : last.service.manager.completed? position = some true) :
    ∃ call ∈ moments, call.happening = .ended position .succeeded := by
  have run := chronicle.run
  rcases (run.sound (.fresh world)).split_account (run.accounted position) with
    ⟨failed, success, split, _, _, whole⟩
  have ended : .ended position .succeeded ∈ (Moment.trace moments).callsAt position := by
    rw [Moment.trace, split, whole.mp done]
    simp [Happening.success]
  rcases List.mem_map.mp (List.mem_filter.mp ended).1 with ⟨entry, member, happened⟩
  rcases List.mem_map.mp member with ⟨call, taken, rfl⟩
  exact ⟨call, taken, happened⟩

structure Moment.Succeeds (plays : Action → Nat → Script → Prop) (moment : Moment α)
    (position : Nat) (name : String) (action : Action) : Prop where
  happened : moment.happening = .ended position .succeeded
  /-- The action had nothing left to ask, and one of the scripts that it plays ends so. -/
  performed : ∃ task performance script,
    moment.before.place moment.thread = .holding task (.acting performance) ∧
      performance.requests = [] ∧ performance.outcome = .succeeded ∧
      performance.step.name = name ∧ performance.step.action = action ∧
      plays action performance.step.calls script ∧ script.ending = .succeed

theorem Chronicle.names_eq (chronicle : Chronicle plays (fresh world) moments last) :
    last.service.manager.steps.map Step.name =
      (moments.filterMap Moment.accepted?).map Prod.fst := by
  rw [← chronicle.roster_eq, Manager.names_roster]

/-- What is listed as completed is a step whose action has come back with success, as it was
registered. -/
theorem Chronicle.exists_success {name : String}
    (chronicle : Chronicle plays (fresh world) moments last)
    (listed : last.service.manager.status[position]? = some ⟨name, true⟩) :
    ∃ action, (moments.filterMap Moment.accepted?)[position]? = some (name, action) ∧
      ∃ call ∈ moments, call.Succeeds plays position name action := by
  rcases Manager.status_eq_some_iff.mp listed with ⟨named, done⟩
  rcases chronicle.exists_ended done with ⟨call, member, happened⟩
  rcases List.append_of_mem member with ⟨earlier, later, split⟩
  rcases chronicle.cut split with ⟨before, step⟩
  rw [happened] at step
  rcases step.worked rfl with ⟨task, phase, after, acting, worked⟩
  rcases worked.acting_of_ended with ⟨performance, rfl, left, rfl, succeeded⟩
  rcases before.run.belongs acting with ⟨registered, script, played, ending⟩
  -- The name that the call goes by is still the one at its position.
  have stands : (moments.filterMap Moment.accepted?)[performance.position]? =
      some (performance.step.name, performance.step.action) := by
    rw [before.roster_eq] at registered
    rw [split, List.filterMap_append]
    exact getElem?_of_grown (List.prefix_append _ _) registered
  have same : performance.step.name = name := by
    rw [chronicle.names_eq, List.getElem?_map, stands] at named
    exact Option.some.inj named
  subst same
  exact ⟨_, stands, call, member, happened, task, performance, script, acting, left, succeeded,
    rfl, rfl, played, ending.trans (Service.ending_of_outcome succeeded)⟩

/-! ## Calls that ask -/

theorem Step.looked_of_answering {answer : Answer α}
    (step : Step plays system thread happening next)
    (unheld : ∀ phase, system.place thread ≠ .holding (.look .status) phase)
    (answering : next.place thread = .answering (.look .status) answer) :
    system.place thread = .beginning (.look .status) ∧
      answer = .statuses system.service.manager.status := by
  cases step with
  | begins task =>
      rw [put_same] at answering
      cases task <;> cases answering
  | looks beginning =>
      rw [put_same] at answering
      cases answering
      exact ⟨beginning, rfl⟩
  | leaves holding =>
      rw [put_same] at answering
      unfold Task.after at answering
      split at answering
      · cases answering
      · cases answering
        exact absurd holding (unheld _)
  | registers | findsReady | findsUnready | enters | works | applies | returns =>
      rw [put_same] at answering
      cases answering

/-- What a call comes back with that asks how the steps stand is what its thread was told when it
last moved, by its own look. -/
theorem Chronicle.exists_look {answer : Answer α}
    (chronicle : Chronicle plays (fresh world) moments last)
    (answering : last.place thread = .answering (.look .status) answer) :
    ∃ earlier look later snapshot, moments = earlier ++ look :: later ∧
      look.thread = thread ∧ look.before.place thread = .beginning (.look .status) ∧
      look.snapshot? = some snapshot ∧ answer = .statuses snapshot ∧
      ∀ other ∈ later, other.thread ≠ thread := by
  induction chronicle with
  | nil => cases answering
  | @snoc moments middle happening last chronicle actor step induction =>
      by_cases same : actor = thread
      · subst actor
        rcases step.looked_of_answering (fun _ => chronicle.run.not_look) answering with
          ⟨beginning, rfl⟩
        refine ⟨moments, _, [], _, rfl, rfl, beginning, ?_, rfl, by simp⟩
        rw [Moment.snapshot?, answering]
        rfl
      · rw [step.place_other (Ne.symm same)] at answering
        rcases induction answering with
          ⟨earlier, look, later, snapshot, rfl, own, beginning, told, rfl, still⟩
        refine ⟨earlier, look, later ++ [_], snapshot, List.append_assoc .., own, beginning, told,
          rfl, ?_⟩
        intro other member
        rcases List.mem_append.mp member with before | here
        · exact still other before
        · cases List.mem_singleton.mp here
          exact same

/-! ## The whole album -/

/-- What holds of all snapshots of one manager, whatever threads and actions do. -/
structure Album (plays : Action → Nat → Script → Prop) (moments : List (Moment α)) : Prop where
  /-- Whoever asks is told how the steps stand, and nobody else is told. -/
  told : ∀ moment ∈ moments, moment.snapshot? =
    if (moment.before.place moment.thread).asksStatus then
      some moment.before.service.manager.status else none
  /-- Of two snapshots that are taken one after the other, the later one goes on from the
  earlier one. -/
  grows : ∀ earlier first between second later,
    moments = earlier ++ first :: between ++ second :: later →
    ∀ one other, first.snapshot? = some one → second.snapshot? = some other →
      one.Precedes other
  /-- There is one entry for each registration that was accepted before, in that order. -/
  counted : ∀ earlier moment later, moments = earlier ++ moment :: later →
    ∀ snapshot, moment.snapshot? = some snapshot →
      snapshot.length = (earlier.filterMap Moment.accepted?).length ∧
        snapshot.map StepStatus.name = (earlier.filterMap Moment.accepted?).map Prod.fst
  /-- What is listed as completed is a step whose action came back with success before. -/
  succeeded : ∀ earlier moment later, moments = earlier ++ moment :: later →
    ∀ snapshot, moment.snapshot? = some snapshot →
    ∀ position name, snapshot[position]? = some ⟨name, true⟩ →
      ∃ action, (earlier.filterMap Moment.accepted?)[position]? = some (name, action) ∧
        ∃ call ∈ earlier, call.Succeeds plays position name action
  /-- A call comes back with the one snapshot that it took. -/
  returned : ∀ earlier moment later, moments = earlier ++ moment :: later →
    ∀ answer, moment.happening = .returned (.look .status) answer →
    ∃ before look between snapshot, earlier = before ++ look :: between ∧
      look.thread = moment.thread ∧
      look.before.place moment.thread = .beginning (.look .status) ∧
      look.snapshot? = some snapshot ∧ answer = .statuses snapshot ∧
      ∀ other ∈ between, other.thread ≠ moment.thread

theorem Chronicle.snapshot_eq (chronicle : Chronicle plays (fresh world) moments last)
    (split : moments = earlier ++ moment :: later) {snapshot : Snapshot}
    (told : moment.snapshot? = some snapshot) :
    snapshot = moment.before.service.manager.status := by
  rcases chronicle.cut split with ⟨before, step⟩
  rw [Moment.snapshot?, step.told?_eq (before.run.sound (.fresh world))] at told
  split at told <;> cases told
  rfl

/-- Whatever threads and actions do on a new manager: snapshots only grow. -/
theorem Chronicle.snapshots_grow (chronicle : Chronicle plays (fresh world) moments last) :
    Album plays moments where
  told moment member := by
    rcases List.append_of_mem member with ⟨earlier, later, split⟩
    rcases chronicle.cut split with ⟨before, step⟩
    exact step.told?_eq (before.run.sound (.fresh world))
  grows earlier first between second later split one other told again := by
    rcases chronicle.cut split with ⟨before, _⟩
    rw [before.snapshot_eq rfl told, chronicle.snapshot_eq split again]
    exact (before.run_from rfl).status_precedes
  counted earlier moment later split snapshot told := by
    have names := (chronicle.cut split).1.names_eq
    rw [chronicle.snapshot_eq split told, Manager.names_status, names]
    refine ⟨?_, rfl⟩
    rw [Manager.status, List.length_map, ← List.length_map Step.name, names, List.length_map]
  succeeded earlier moment later split snapshot told position name listed := by
    rw [chronicle.snapshot_eq split told] at listed
    exact (chronicle.cut split).1.exists_success listed
  returned earlier moment later split answer happened := by
    rcases chronicle.cut split with ⟨before, step⟩
    rw [happened] at step
    exact before.exists_look step.answering_of_returned

def inquisitive : Action :=
  .scripted [.script [.register "cache" [] true, .status] (.panic "gone"),
    .script [.status] .succeed]

/-- One thread asks before the action panics and another one once it has succeeded. In between,
the action itself asks twice. -/
theorem snapshots_around_panic : ∃ (moments : List (Moment Unit)) (last : System Unit),
    Chronicle Action.Plays (fresh {}) moments last ∧
      moments.filterMap Moment.snapshot? =
        [[⟨"database", false⟩], [⟨"database", false⟩, ⟨"cache", false⟩],
          [⟨"database", false⟩, ⟨"cache", false⟩], [⟨"database", true⟩, ⟨"cache", false⟩]] ∧
      Album Action.Plays moments := by
  have chronicle : Chronicle Action.Plays (fresh {} : System Unit) [] (fresh {}) := .nil
  have chronicle := chronicle.snoc 0 (.begins (.exec "database" inquisitive) rfl)
  have chronicle := chronicle.snoc 0 (.enters rfl rfl)
  have chronicle := chronicle.snoc 0 (.works rfl (.accepts rfl))
  have chronicle := chronicle.snoc 1 (.begins (.look .status) rfl)
  have chronicle := chronicle.snoc 1 (.looks rfl)
  have chronicle := chronicle.snoc 0 (.works rfl (.calls rfl rfl rfl))
  have chronicle := chronicle.snoc 0 (.works rfl (.asks rfl rfl))
  have chronicle := chronicle.snoc 0 (.works rfl (.asks rfl rfl))
  have chronicle := chronicle.snoc 0 (.works rfl (.ends rfl))
  have chronicle := chronicle.snoc 0 (.works rfl (.books rfl))
  have chronicle := chronicle.snoc 0 (.leaves rfl)
  have chronicle := chronicle.snoc 2 (.begins .initializeAll rfl)
  have chronicle := chronicle.snoc 2 (.enters rfl rfl)
  have chronicle := chronicle.snoc 2 (.works rfl (.finds rfl rfl))
  have chronicle := chronicle.snoc 2 (.works rfl (.calls rfl rfl rfl))
  have chronicle := chronicle.snoc 2 (.works rfl (.asks rfl rfl))
  have chronicle := chronicle.snoc 2 (.works rfl (.ends rfl))
  have chronicle := chronicle.snoc 2 (.works rfl (.books rfl))
  have chronicle := chronicle.snoc 3 (.begins (.look .status) rfl)
  have chronicle := chronicle.snoc 3 (.looks rfl)
  have chronicle := chronicle.snoc 1 (.returns rfl)
  exact ⟨_, _, chronicle, rfl, chronicle.snapshots_grow⟩

end System

end Bringup
