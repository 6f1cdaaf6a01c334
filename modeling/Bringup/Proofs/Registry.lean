import Bringup.Proofs.Admission
import Bringup.Proofs.Gauge

namespace Bringup

/-! Who gets a name.

Steps are registered by calls of threads and by actions at the same time. Each registration is
decided in one access, by whether its name leads to a step (`System.Step.decides`). As names lead
to exactly the steps that bear them, the first registration of a name is accepted and every other
one is refused, which leaves everything as it was. What a call comes back with follows from what
its thread has done since it began the call (`Place.Records`). All of this is put together in
`System.Registry`. -/

namespace Place

/-- The registration that comes next at a place: of a call, or requested by an action. -/
def attempt? : Place α → Option (String × Action)
  | beginning (.register name action) => some (name, action)
  | holding _ (.registering name action) => some (name, action)
  | holding _ (.acting performance) =>
      match performance.requests with
      | .register name runs _ :: _ => some (name, .scripted runs)
      | _ => none
  | _ => none

/-- Whoever comes to a place has been told that a name is taken. -/
def IsTold (fault : DuplicateName) : Place α → Prop
  | answering _ answer => answer = .rejected fault
  | holding _ (.leaving finish) => finish = .returned (.error (.duplicate fault))
  | holding _ (.acting performance) =>
      performance.replies.getLast? = some (.registered (.error fault))
  | _ => False

end Place

theorem Happening.Effect.roster_eq {happening : Happening α} {before after : Manager}
    (effect : happening.Effect before after) (unregistered : happening.registered? = none) :
    after.roster = before.roster := by
  cases happening with
  | registered => cases unregistered
  | called position => cases effect; exact before.roster_change position fun _ => ⟨rfl, rfl⟩
  | completed position => cases effect; exact before.roster_change position fun _ => ⟨rfl, rfl⟩
  | began | rejected | ended | walked | stopped | returned | silent => cases effect; rfl

def Phase.index? : Phase → Option Nat
  | starting position | booking position _ _ => some position
  | acting performance => some performance.position
  | registering _ _ | visiting _ | stopping _ | leaving _ => none

namespace Service

variable {service next : Service} {name : String}

theorem push_cases (service : Service) (name : String) (action : Action) :
    service.manager.position? name = none ∧
        (∃ next, service.push name action = .ok next ∧
          next.manager = service.manager.enlist name action) ∨
      (∃ position, service.manager.position? name = some position) ∧
        service.push name action = .error ⟨name⟩ := by
  cases known : service.manager.position? name with
  | none => exact .inl ⟨rfl, by simp [push, Manager.push, Manager.enlist, known]⟩
  | some position => exact .inr ⟨⟨position, rfl⟩, by simp [push, Manager.push, known]⟩

theorem register_cases {action : Action} {result : Except DuplicateName Unit}
    (registered : service.register name action = (result, next)) :
    service.manager.position? name = none ∧ result = .ok () ∧
        next.manager = service.manager.enlist name action ∨
      (∃ position, service.manager.position? name = some position) ∧
        result = .error ⟨name⟩ ∧ next.manager = service.manager := by
  rcases service.push_cases name action with ⟨free, grown, pushed, appended⟩ | ⟨taken, refused⟩
  · rw [register, pushed] at registered
    cases registered
    exact .inl ⟨free, rfl, appended⟩
  · rw [register, refused] at registered
    cases registered
    exact .inr ⟨taken, rfl, rfl⟩

end Service

namespace System

variable {plays : Action → Nat → Script → Prop} {world : World} {system next last : System α}
  {thread : Nat} {happening : Happening α} {moment : Moment α} {moments : List (Moment α)}
  {name : String} {action : Action}

/-! ## Registrations -/

def Moment.attempt? (moment : Moment α) : Option (String × Action) :=
  (moment.before.place moment.thread).attempt?

def Moment.asked? (moment : Moment α) : Option String := moment.attempt?.map Prod.fst

def Moment.accepted? (moment : Moment α) : Option (String × Action) :=
  moment.happening.registered?.bind fun _ => moment.attempt?

structure Moment.Accepts (moment : Moment α) (name : String) (action : Action) : Prop where
  happened : moment.happening = .registered name
  free : moment.before.service.manager.position? name = none
  appended : moment.after.service.manager = moment.before.service.manager.enlist name action

/-- A registration is refused. Whoever asked for it is told so, and nothing else changes: not
the steps and whether they are completed, nor the positions, the flag and the gauge. -/
structure Moment.Refuses (moment : Moment α) (name : String) : Prop where
  happened : moment.happening = .rejected name
  unchanged : moment.after.service.manager = moment.before.service.manager
  ungauged : moment.after.service.world.journal.gauges =
    moment.before.service.world.journal.gauges
  told : (moment.after.place moment.thread).IsTold ⟨name⟩

/-- A name that leads nowhere is given to whoever asks for it, and no other. -/
theorem Step.decides (step : Step plays system thread happening next)
    (asked : (system.place thread).attempt? = some (name, action)) :
    Moment.Accepts ⟨system, thread, happening, next⟩ name action ∨
      (∃ position, system.service.manager.position? name = some position) ∧
        Moment.Refuses ⟨system, thread, happening, next⟩ name := by
  have ungauged : happening.setting? = none →
      next.service.world.journal.gauges = system.service.world.journal.gauges := by
    intro unset
    rw [step.gauges, unset, Option.toList_none, List.append_nil]
  cases step with
  | begins task idle =>
      rw [idle] at asked
      cases asked
  | registers beginning registered =>
      rw [beginning] at asked
      cases asked
      rcases Service.register_cases registered with ⟨free, rfl, appended⟩ | ⟨taken, rfl, same⟩
      · exact .inl ⟨rfl, free, appended⟩
      · exact .inr ⟨taken, rfl, same, ungauged rfl, by rw [put_same]; rfl⟩
  | looks beginning | findsReady beginning | findsUnready beginning =>
      rw [beginning] at asked
      cases asked
  | enters waiting =>
      rw [waiting] at asked
      cases asked
  | @works task phase happening service later holding worked =>
      rw [holding] at asked
      cases worked with
      | accepts pushed =>
          cases asked
          rcases system.service.push_cases name action with
            ⟨free, _, again, appended⟩ | ⟨_, refused⟩
          · rw [pushed] at again
            cases again
            exact .inl ⟨rfl, free, appended⟩
          · rw [pushed] at refused
            cases refused
      | refuses pushed =>
          cases asked
          rcases system.service.push_cases name action with
            ⟨_, _, accepted, _⟩ | ⟨taken, refused⟩
          · rw [pushed] at accepted
            cases accepted
          · rw [pushed] at refused
            cases refused
            exact .inr ⟨taken, rfl, rfl, ungauged rfl, by rw [put_same]; rfl⟩
      | @asks _ performance request rest reply rejected left replied =>
          simp only [Place.attempt?, left] at asked
          cases request with
          | register other runs isRequired =>
              cases asked
              rcases registered : system.service.register name (.scripted runs) with
                ⟨result, after⟩
              simp only [Service.reply, registered] at replied
              rcases Service.register_cases registered with
                ⟨free, rfl, appended⟩ | ⟨taken, rfl, same⟩
              · cases replied
                exact .inl ⟨rfl, free, appended⟩
              · cases replied
                refine .inr ⟨taken, rfl, same, ungauged rfl, ?_⟩
                rw [put_same]
                simp [Place.IsTold, Performance.hear]
          | isInitialized | isReady | status => cases asked
      | ends left =>
          simp only [Place.attempt?, left] at asked
          cases asked
      | passes | finds | arrives | skips | calls | books | stops => cases asked
  | leaves holding =>
      rw [holding] at asked
      cases asked
  | applies applying =>
      rw [applying] at asked
      cases asked
  | returns answering =>
      rw [answering] at asked
      cases asked

/-- Nothing is registered that was not asked for. -/
theorem Step.unregistered (step : Step plays system thread happening next)
    (unasked : (system.place thread).attempt? = none) : happening.registered? = none := by
  cases step with
  | begins | looks | findsReady | findsUnready | enters | leaves | applies | returns => rfl
  | registers beginning =>
      rw [beginning] at unasked
      cases unasked
  | works holding worked =>
      rw [holding] at unasked
      cases worked with
      | accepts | refuses => cases unasked
      | @asks _ performance request rest reply rejected left replied =>
          simp only [Place.attempt?, left] at unasked
          cases request with
          | register => cases unasked
          | isInitialized | isReady | status => rfl
      | @books _ _ _ outcome => cases outcome <;> rfl
      | passes | finds | arrives | skips | calls | ends | stops => rfl

/-! ## The first that asks -/

theorem Chronicle.cut {earlier later : List (Moment α)}
    (chronicle : Chronicle plays system moments last)
    (split : moments = earlier ++ moment :: later) :
    Chronicle plays system earlier moment.before ∧
      Step plays moment.before moment.thread moment.happening moment.after := by
  induction chronicle generalizing later with
  | nil => cases earlier <;> cases split
  | snoc chronicle thread step induction =>
      rcases split_of_snoc split with ⟨rfl, rfl⟩ | ⟨rest, before⟩
      · exact ⟨chronicle, step⟩
      · exact induction before

theorem Chronicle.indexed (chronicle : Chronicle plays (fresh world) moments last) :
    last.service.manager.Indexed :=
  chronicle.run.indexed .fresh

theorem Chronicle.named_iff (chronicle : Chronicle plays (fresh world) moments last) :
    name ∈ last.service.manager.steps.map Step.name ↔
      ∃ moment ∈ moments, moment.asked? = some name := by
  induction chronicle with
  | nil => simp [fresh]
  | @snoc moments middle happening last chronicle thread step induction =>
      rw [step.effect.names, List.mem_append, induction]
      simp only [List.mem_append, List.mem_singleton, or_and_right, exists_or, exists_eq_left]
      -- It remains to see that the name of an attempt that is refused was asked for before.
      cases asked : (middle.place thread).attempt? with
      | none => simp [step.unregistered asked, Moment.asked?, Moment.attempt?, asked]
      | some attempt =>
          rcases attempt with ⟨other, action⟩
          simp only [Moment.asked?, Moment.attempt?, asked, Option.map_some]
          rcases step.decides asked with accepts | ⟨⟨position, taken⟩, refuses⟩
          · have happened : happening = .registered other := accepts.happened
            simp [happened, Happening.registered?, eq_comm]
          · have happened : happening = .rejected other := refuses.happened
            have known := List.mem_of_getElem? ((chronicle.indexed _ _).mp taken)
            simp only [happened, Happening.registered?, Option.toList_none, List.not_mem_nil,
              or_false, Option.some.injEq]
            refine ⟨.inl, fun known_or => known_or.elim id ?_⟩
            rintro rfl
            exact induction.mp known

/-- Of all that ask for a name, the first is accepted and every other one is refused. -/
theorem Chronicle.first_wins {earlier later : List (Moment α)}
    (chronicle : Chronicle plays (fresh world) moments last)
    (split : moments = earlier ++ moment :: later)
    (asked : moment.attempt? = some (name, action)) :
    ((∀ other ∈ earlier, other.asked? ≠ some name) → moment.Accepts name action) ∧
      ((∃ other ∈ earlier, other.asked? = some name) → moment.Refuses name) := by
  rcases chronicle.cut split with ⟨before, step⟩
  rcases step.decides asked with accepts | ⟨⟨position, taken⟩, refuses⟩
  · refine ⟨fun _ => accepts, fun known => ?_⟩
    exact absurd (before.named_iff.mpr known) (before.indexed.unused accepts.free)
  · refine ⟨fun unknown => ?_, fun _ => refuses⟩
    have known := List.mem_of_getElem? ((before.indexed _ _).mp taken)
    rcases before.named_iff.mp known with ⟨other, member, same⟩
    exact absurd same (unknown other member)

/-! ## What is called -/

theorem Chronicle.roster_eq (chronicle : Chronicle plays (fresh world) moments last) :
    last.service.manager.roster = moments.filterMap Moment.accepted? := by
  induction chronicle with
  | nil => rfl
  | @snoc moments middle happening last chronicle thread step induction =>
      rw [List.filterMap_append, ← induction]
      cases named : happening.registered? with
      | none =>
          rw [step.effect.roster_eq named]
          simp [Moment.accepted?, named]
      | some name =>
          cases asked : (middle.place thread).attempt? with
          | none =>
              rw [step.unregistered asked] at named
              cases named
          | some attempt =>
              rcases attempt with ⟨other, action⟩
              rcases step.decides asked with accepts | ⟨_, refuses⟩
              · rw [accepts.appended, Manager.enlist_of_free accepts.free]
                simp [Moment.accepted?, Moment.attempt?, named, asked, Manager.roster]
              · rw [show happening = _ from refuses.happened] at named
                cases named

theorem Step.calls_stands {position : Nat}
    (step : Step plays system thread (.called position) next) :
    ∃ task found script, system.service.manager.steps[position]? = some found ∧
      plays found.action found.calls script ∧
      next.place thread = .holding task (.acting (.start position found script)) := by
  generalize happened : (.called position : Happening α) = happening at step
  cases step with
  | @works task _ _ _ _ holding worked =>
      cases worked with
      | calls stands pending played =>
          cases happened
          exact ⟨task, _, _, stands, played, put_same ..⟩
      | asks left replied => exact absurd happened (Happening.ne_ofReply rfl _ _)
      | @books _ _ _ outcome => cases outcome <;> cases happened
      | accepts | refuses | passes | finds | arrives | skips | ends | stops => cases happened
  | @registers name _ result =>
      have common := Happening.isCommon_ofRegistration (α := α) name result
      rw [← happened] at common
      cases common
  | begins | looks | findsReady | findsUnready | enters | leaves | applies | returns =>
      cases happened

end System

/-! ## What calls come back with -/

/-- What a thread has done for a call that registers a step, from where the call began up to a
place. Before the steps are accessed it waits for the lock of execution, if it executes the
step. -/
def Place.Records (done : List (Happening α)) : Place α → Prop
  | beginning (.register _ _) => done = []
  | answering (.register name _) answer =>
      done = [.registered name] ∧ answer = .done ∨
        done = [.rejected name] ∧ answer = .rejected ⟨name⟩
  | waiting (.exec _ _) _ => done = []
  | holding (.exec _ _) (.registering _ _) => done = [.silent]
  | holding (.exec name _) (.leaving finish) =>
      [.silent, .registered name] <+: done ∧
          (∀ fault, finish ≠ .returned (.error (.duplicate fault))) ∨
        done = [.silent, .rejected name] ∧ finish = .returned (.error (.duplicate ⟨name⟩))
  | holding (.exec name _) (.starting _) | holding (.exec name _) (.acting _)
  | holding (.exec name _) (.booking _ _ _) => [.silent, .registered name] <+: done
  | answering (.exec name _) answer =>
      [.silent, .registered name] <+: done ∧
          (∀ fault, answer ≠ .notStarted (.duplicate fault)) ∨
        done = [.silent, .rejected name, .silent] ∧ answer = .notStarted (.duplicate ⟨name⟩)
  | holding (.exec _ _) (.visiting _) | holding (.exec _ _) (.stopping _)
  | waiting (.register _ _) _ | holding (.register _ _) _ => False
  | _ => True

variable {plays : Action → Nat → Script → Prop}

theorem Phase.Step.records {name : String} {action : Action} {service next : Service}
    {phase later : Phase} {happening : Happening α}
    (step : Phase.Step plays (.exec name action : Task α) service phase happening next later)
    (fits : phase.Fits (.exec name action : Task α) service.manager)
    {done : List (Happening α)}
    (records : (Place.holding (.exec name action) phase).Records done) :
    (Place.holding (.exec name action) later).Records (done ++ [happening]) := by
  have goes_on : [.silent, .registered name] <+: done →
      [.silent, .registered name] <+: done ++ [happening] :=
    fun begun => begun.trans (List.prefix_append _ _)
  cases step with
  | accepts pushed =>
      cases fits
      rw [show done = [.silent] from records]
      exact List.prefix_refl _
  | refuses pushed =>
      cases fits
      rw [show done = [.silent] from records]
      rcases service.push_cases name action with ⟨_, _, accepted, _⟩ | ⟨_, refused⟩
      · rw [pushed] at accepted
        cases accepted
      · rw [pushed] at refused
        cases refused
        exact .inr ⟨rfl, rfl⟩
  | passes | finds | arrives | stops => exact absurd records id
  | skips => exact .inl ⟨goes_on records, nofun⟩
  | calls | asks | ends => exact goes_on records
  | @books _ _ _ outcome _ booked =>
      refine .inl ⟨goes_on records, ?_⟩
      cases outcome <;> cases booked <;> exact nofun

namespace System

variable {world : World} {system next last : System α} {thread : Nat} {happening : Happening α}
  {moments : List (Moment α)}

theorem Step.records (step : Step plays system thread happening next) (sound : system.Sound)
    {trace : Trace α} (records : (system.place thread).Records (trace.current thread)) :
    (next.place thread).Records (Trace.current (trace ++ [(thread, happening)]) thread) := by
  cases step with
  | begins task idle =>
      rw [put_same, Trace.current_began]
      cases task <;> first | rfl | trivial
  | registers beginning registered =>
      rw [beginning] at records
      rw [put_same, Trace.current_snoc _ _ (Happening.outside_ofRegistration _ _ thread).1,
        show trace.current thread = [] from records]
      rcases Service.register_cases registered with ⟨_, rfl, _⟩ | ⟨_, rfl, _⟩
      · exact .inl ⟨rfl, rfl⟩
      · exact .inr ⟨rfl, rfl⟩
  | looks | findsReady | findsUnready | applies | returns =>
      rw [put_same]
      trivial
  | @enters task phase waiting free =>
      have opens := sound.opens waiting
      rw [waiting] at records
      rw [put_same, Trace.current_snoc _ _ rfl]
      cases task with
      | exec name action =>
          rw [show trace.current thread = [] from records]
          cases phase with
          | registering => rfl
          | visiting => cases opens.1
          | starting | acting | booking | stopping | leaving => cases opens
      | register => cases records
      | initializeAll | run | look => trivial
  | @works task phase happening service later holding worked =>
      rw [holding] at records
      rw [put_same, Trace.current_snoc _ _ (worked.outside_eq_nil thread).1]
      cases task with
      | exec name action => exact worked.records (sound.fits holding) records
      | register => cases records
      | initializeAll | run | look => trivial
  | @leaves task finish holding =>
      rw [holding] at records
      rw [put_same, Trace.current_snoc _ _ rfl]
      cases task with
      | exec name action =>
          rcases records with ⟨begun, tried⟩ | ⟨done, rfl⟩
          · refine .inl ⟨begun.trans (List.prefix_append _ _), fun fault told => ?_⟩
            rcases finish with (other | ⟨⟩) | message <;> cases told
            exact tried fault rfl
          · rw [done]
            exact .inr ⟨rfl, rfl⟩
      | register => cases records
      | initializeAll | look => trivial
      | run => unfold Task.after; split <;> trivial

theorem Run.records {trace : Trace α} (run : Run plays (fresh world) trace last)
    (thread : Nat) : (last.place thread).Records (trace.current thread) := by
  induction run with
  | nil => trivial
  | snoc run actor step induction =>
      by_cases same : thread = actor
      · subst actor
        exact step.records (run.sound (.fresh world)) induction
      · rw [step.place_other same, Trace.current_other _ same]
        exact induction

/-! ## The whole register -/

def Moment.trace (moments : List (Moment α)) : Trace α :=
  moments.map fun moment => (moment.thread, moment.happening)

structure Registry (plays : Action → Nat → Script → Prop) (moments : List (Moment α))
    (last : System α) : Prop where
  /-- Names lead to exactly the steps that bear them. -/
  indexed : last.service.manager.Indexed
  unique : (last.service.manager.steps.map Step.name).Nodup
  /-- A position that is kept is in bounds, and so is one that a thread has been given. -/
  inside : ∀ name position, last.service.manager.position? name = some position →
    position < last.service.manager.steps.length
  handled : ∀ thread task phase position, last.place thread = .holding task phase →
    phase.index? = some position → position < last.service.manager.steps.length
  initialized : ∀ name, last.service.manager.isInitialized name = true ↔
    ⟨name, true⟩ ∈ last.service.manager.status
  /-- Of all that ask for one name, the first is accepted and every other one is refused. -/
  accepted : ∀ earlier moment later, moments = earlier ++ moment :: later →
    ∀ name action, moment.attempt? = some (name, action) →
    (∀ other ∈ earlier, other.asked? ≠ some name) → moment.Accepts name action
  refused : ∀ earlier moment later, moments = earlier ++ moment :: later →
    ∀ name action, moment.attempt? = some (name, action) →
    (∃ other ∈ earlier, other.asked? = some name) → moment.Refuses name
  /-- Only what was accepted is called. -/
  called : ∀ earlier moment later, moments = earlier ++ moment :: later →
    ∀ position, moment.happening = .called position →
    ∃ task step script, moment.after.place moment.thread =
        .holding task (.acting (.start position step script)) ∧
      plays step.action step.calls script ∧
      (earlier.filterMap Moment.accepted?)[position]? = some (step.name, step.action)
  /-- A call comes back with what became of its registration. If that was refused, it has done
  nothing else but to wait. -/
  registered : ∀ thread name action answer,
    last.place thread = .answering (.register name action) answer →
    (Moment.trace moments).current thread = [.registered name] ∧ answer = .done ∨
      (Moment.trace moments).current thread = [.rejected name] ∧ answer = .rejected ⟨name⟩
  executed : ∀ thread name action answer,
    last.place thread = .answering (.exec name action) answer →
    [.silent, .registered name] <+: (Moment.trace moments).current thread ∧
        (∀ fault, answer ≠ .notStarted (.duplicate fault)) ∨
      (Moment.trace moments).current thread = [.silent, .rejected name, .silent] ∧
        answer = .notStarted (.duplicate ⟨name⟩)

theorem Sound.handled (sound : system.Sound) {task : Task α} {phase : Phase} {position : Nat}
    (holding : system.place thread = .holding task phase)
    (handled : phase.index? = some position) :
    position < system.service.manager.steps.length := by
  have fits := sound.fits holding
  cases phase with
  | starting | acting | booking =>
      cases handled
      exact Manager.inside_of_completed? fits.pending
  | registering | visiting | stopping | leaving => cases handled

/-- Whatever threads and actions do on a new manager, it keeps a register of names. -/
theorem Chronicle.keeps_registry (chronicle : Chronicle plays (fresh world) moments last) :
    Registry plays moments last where
  indexed := chronicle.indexed
  unique := chronicle.indexed.nodup
  inside _ _ := chronicle.indexed.inside
  handled _ _ _ _ := (chronicle.run.sound (.fresh world)).handled
  initialized := chronicle.indexed.isInitialized_iff
  accepted _ _ _ split _ _ asked := (chronicle.first_wins split asked).1
  refused _ _ _ split _ _ asked := (chronicle.first_wins split asked).2
  called earlier moment later split position happened := by
    rcases chronicle.cut split with ⟨before, step⟩
    rw [happened] at step
    rcases step.calls_stands with ⟨task, found, script, stands, played, calling⟩
    refine ⟨task, found, script, calling, played, ?_⟩
    rw [← before.roster_eq]
    exact Manager.roster_of_stands stands
  registered thread name action answer answering := by
    have records := chronicle.run.records thread
    rw [answering] at records
    exact records
  executed thread name action answer answering := by
    have records := chronicle.run.records thread
    rw [answering] at records
    exact records

/-- While the action of a step is under way, another thread registers the name that the action
then asks for; a third one asks for it too and comes back without having called anything. -/
theorem registry_of_rivals : ∃ (moments : List (Moment Unit)) (last : System Unit),
    Chronicle Action.Plays (fresh {}) moments last ∧
      moments.filterMap Moment.asked? = ["database", "cache", "cache", "cache"] ∧
      moments.filterMap Moment.accepted? = [("database", overeager), ("cache", prompt)] ∧
      last.place 2 = .answering (.exec "cache" tardy) (.notStarted (.duplicate ⟨"cache"⟩)) ∧
      Registry Action.Plays moments last := by
  have chronicle : Chronicle Action.Plays (fresh {} : System Unit) [] (fresh {}) := .nil
  have chronicle := chronicle.snoc 0 (.begins (.exec "database" overeager) rfl)
  have chronicle := chronicle.snoc 2 (.begins (.exec "cache" tardy) rfl)
  have chronicle := chronicle.snoc 0 (.enters rfl rfl)
  have chronicle := chronicle.snoc 0 (.works rfl (.accepts rfl))
  have chronicle := chronicle.snoc 0 (.works rfl (.calls rfl rfl rfl))
  have chronicle := chronicle.snoc 1 (.begins (.register "cache" prompt) rfl)
  have chronicle := chronicle.snoc 1 (.registers rfl rfl)
  have chronicle := chronicle.snoc 0 (.works rfl (.asks rfl rfl))
  have chronicle := chronicle.snoc 0 (.works rfl (.ends rfl))
  have chronicle := chronicle.snoc 0 (.works rfl (.books rfl))
  have chronicle := chronicle.snoc 0 (.leaves rfl)
  have chronicle := chronicle.snoc 2 (.enters rfl rfl)
  have chronicle := chronicle.snoc 2 (.works rfl (.refuses rfl))
  have chronicle := chronicle.snoc 2 (.leaves rfl)
  exact ⟨_, _, chronicle, rfl, rfl, rfl, chronicle.keeps_registry⟩

end System

end Bringup
