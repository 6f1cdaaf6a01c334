import Bringup.Proofs.Precedence
import Bringup.Proofs.Reachable
import Bringup.Proofs.Walking

namespace Bringup

/-! When applications start.

A thread that runs an application looks at the flag, walks the steps if the flag is not set, and
starts the application once it has given back the lock, so that others can register steps at any
moment in between. What it can rely on is that the flag was set, with every step completed, at
some moment since it began (`System.Gated.seen`). When one operation is performed after the
other, nobody comes in between, and every step is completed as an application starts
(`Service.starts_complete`). -/

/-- The flag is set, and every step is completed. -/
structure Manager.IsComplete (manager : Manager) : Prop where
  ready : manager.ready = true
  completed : ∀ step ∈ manager.steps, step.completed = true

theorem Manager.Gate.isComplete {manager : Manager} (gate : manager.Gate)
    (ready : manager.ready = true) : manager.IsComplete :=
  ⟨ready, fun _ => gate.completed ready⟩

namespace System

/-! ## Moments -/

structure Moment (α : Type) where
  before : System α
  thread : Nat
  happening : Happening α
  after : System α

inductive Chronicle (plays : Action → Nat → Script → Prop) (first : System α) :
    List (Moment α) → System α → Prop
  | nil : Chronicle plays first [] first
  | snoc {moments : List (Moment α)} {middle : System α} {happening : Happening α}
      {last : System α} (chronicle : Chronicle plays first moments middle) (thread : Nat)
      (step : Step plays middle thread happening last) :
      Chronicle plays first (moments ++ [⟨middle, thread, happening, last⟩]) last

variable {plays : Action → Nat → Script → Prop} {first last : System α}

theorem Chronicle.run {moments : List (Moment α)} (chronicle : Chronicle plays first moments last) :
    Run plays first (moments.map fun moment => (moment.thread, moment.happening)) last := by
  induction chronicle with
  | nil => exact .nil _
  | snoc _ thread step induction =>
      rw [List.map_append]
      exact induction.snoc thread step

theorem Run.exists_chronicle {trace : Trace α} (run : Run plays first trace last) :
    ∃ moments, Chronicle plays first moments last ∧
      moments.map (fun moment => (moment.thread, moment.happening)) = trace := by
  induction run with
  | nil => exact ⟨[], .nil, rfl⟩
  | snoc _ thread step induction =>
      rcases induction with ⟨moments, chronicle, rfl⟩
      exact ⟨_, chronicle.snoc thread step, List.map_append⟩

theorem Chronicle.last_mem {moments : List (Moment α)}
    (chronicle : Chronicle plays first moments last) :
    last ∈ first :: moments.map Moment.after := by
  cases chronicle with
  | nil => exact .head _
  | snoc => simp

/-! ## Calls that run an application -/

end System

namespace Place

def look? (ready : Bool) : Place α → Option Bool
  | beginning (.run _) => some ready
  | _ => none

def finish? : Place α → Option (Finish (Except InitError Unit))
  | holding (.run _) (.leaving finish) => some finish
  | _ => none

def isApplying : Place α → Bool
  | applying _ => true
  | _ => false

end Place

namespace System

variable {plays : Action → Nat → Script → Prop}

def Moment.invokes (moment : Moment α) : Bool :=
  (moment.after.place moment.thread).isApplying

/-- What the moments of a thread tell: what it found when it looked at the flag, how the walks
ended that its applications waited for, how many applications started, at which positions it
called actions, and what it came back with. -/
structure Tally (α : Type) where
  looks : List Bool := []
  finishes : List (Finish (Except InitError Unit)) := []
  invocations : Nat := 0
  called : List Nat := []
  served : List (Served α) := []

namespace Tally

def add (tally : Tally α) (moment : Moment α) : Tally α :=
  let place := moment.before.place moment.thread
  { looks := tally.looks ++ (place.look? moment.before.service.manager.ready).toList
    finishes := tally.finishes ++ place.finish?.toList
    invocations := tally.invocations + moment.invokes.toNat
    called := tally.called ++ moment.happening.called?.toList
    served := tally.served ++ moment.happening.served moment.thread }

def ofThread (thread : Nat) (moments : List (Moment α)) : Tally α :=
  (moments.filter (·.thread == thread)).foldl add {}

theorem ofThread_snoc (thread : Nat) (moments : List (Moment α)) (moment : Moment α) :
    ofThread thread (moments ++ [moment]) =
      if moment.thread = thread then (ofThread thread moments).add moment
      else ofThread thread moments := by
  by_cases same : moment.thread = thread <;> simp [ofThread, same]

/-- An application was admitted: the flag was set when its thread looked, which then has not
called anything, or the walk has come to the end of the list. -/
structure Admitted (tally : Tally α) : Prop where
  once : tally.invocations = 1
  admitted : tally.looks = [true] ∧ tally.finishes = [] ∧ tally.called = [] ∨
    tally.looks = [false] ∧ tally.finishes = [.returned (.ok ())]

inductive Ended (application : Finish α) (tally : Tally α) : Answer α → Prop
  | applied (admitted : tally.Admitted) :
      Ended application tally (Task.answer (.run application) (.returned (.ok ())))
  | shut {finish : Finish (Except InitError Unit)} (broken : finish ≠ .returned (.ok ()))
      (looks : tally.looks = [false]) (finishes : tally.finishes = [finish])
      (uninvoked : tally.invocations = 0) :
      Ended application tally (Task.answer (.run application) finish)

/-- Where a thread has come to that runs an application, and what its moments tell until
there. -/
inductive Told (thread : Nat) (application : Finish α) : Tally α → Place α → Prop
  | beginning : Told thread application {} (.beginning (.run application))
  | waiting {phase : Phase} {called : List Nat} :
      Told thread application { looks := [false], called } (.waiting (.run application) phase)
  | holding {phase : Phase} {called : List Nat} :
      Told thread application { looks := [false], called } (.holding (.run application) phase)
  | applying {tally : Tally α} (admitted : tally.Admitted) (unserved : tally.served = []) :
      Told thread application tally (.applying application)
  | answering {tally : Tally α} {answer : Answer α} (ended : Ended application tally answer)
      (unserved : tally.served = []) :
      Told thread application tally (.answering (.run application) answer)
  | idle {tally : Tally α} {answer : Answer α} (ended : Ended application tally answer)
      (served : tally.served = [⟨thread, .run application, answer⟩]) :
      Told thread application tally .idle

/-- What a thread comes back with makes no other difference. -/
theorem Ended.keep {application : Finish α} {tally : Tally α} {answer : Answer α}
    (ended : Ended application tally answer) (served : List (Served α)) :
    Ended application ⟨tally.looks ++ [], tally.finishes ++ [], tally.invocations,
      tally.called ++ [], served⟩ answer := by
  simp only [List.append_nil]
  cases ended with
  | applied admitted => exact .applied ⟨admitted.once, admitted.admitted⟩
  | shut broken looks finishes uninvoked => exact .shut broken looks finishes uninvoked

theorem add_eq {tally : Tally α} {system next : System α} {thread : Nat}
    {happening : Happening α} {place later : Place α} (was : system.place thread = place)
    (comes : next.place thread = later) :
    tally.add ⟨system, thread, happening, next⟩ =
      { looks := tally.looks ++ (place.look? system.service.manager.ready).toList
        finishes := tally.finishes ++ place.finish?.toList
        invocations := tally.invocations + later.isApplying.toNat
        called := tally.called ++ happening.called?.toList
        served := tally.served ++ happening.served thread } := by
  rw [← was, ← comes]
  rfl

theorem Told.step {thread : Nat} {application : Finish α} {tally : Tally α}
    {system next : System α} {happening : Happening α}
    (told : Told thread application tally (system.place thread))
    (step : Step plays system thread happening next)
    (single : ∀ task, happening ≠ .began task) :
    Told thread application (tally.add ⟨system, thread, happening, next⟩)
      (next.place thread) := by
  cases step with
  | begins task => exact absurd rfl (single task)
  | registers beginning | looks beginning =>
      rw [beginning] at told
      cases told
  | findsReady beginning ready =>
      rw [beginning] at told
      cases told
      rw [add_eq beginning (put_same ..), put_same, ready]
      exact .applying ⟨rfl, .inl ⟨rfl, rfl, rfl⟩⟩ rfl
  | findsUnready beginning unready =>
      rw [beginning] at told
      cases told
      rw [add_eq beginning (put_same ..), put_same, unready]
      exact .waiting
  | enters waiting free =>
      rw [waiting] at told
      cases told
      rw [add_eq waiting (put_same ..), put_same]
      exact .holding
  | works holding worked =>
      rw [holding] at told
      cases told
      rw [add_eq holding (put_same ..), put_same, (worked.outside_eq_nil thread).2]
      cases worked <;> exact .holding
  | @leaves task finish holding =>
      rw [holding] at told
      cases told
      rw [add_eq holding (put_same ..), put_same]
      rcases finish with (fault | ⟨⟩) | message
      case returned.error => exact .answering (.shut nofun rfl rfl rfl) rfl
      case returned.ok => exact .applying ⟨rfl, .inr ⟨rfl, rfl⟩⟩ rfl
      case panicked => exact .answering (.shut nofun rfl rfl rfl) rfl
  | @applies application applying =>
      rw [applying] at told
      cases told with
      | applying admitted unserved =>
          rw [add_eq applying (put_same ..), put_same, unserved]
          have ended : Ended application tally _ := .applied admitted
          exact .answering (ended.keep _) rfl
  | returns answering =>
      rw [answering] at told
      cases told with
      | answering ended unserved =>
          rw [add_eq answering (put_same ..), put_same, unserved]
          exact .idle (ended.keep _) rfl

end Tally

variable {start last : System α} {thread : Nat} {application : Finish α}
  {moments : List (Moment α)}

theorem Chronicle.told (chronicle : Chronicle plays start moments last)
    (beginning : start.place thread = .beginning (.run application))
    (single : ∀ moment ∈ moments, moment.thread = thread →
      ∀ task, moment.happening ≠ .began task) :
    Tally.Told thread application (Tally.ofThread thread moments) (last.place thread) := by
  induction chronicle with
  | nil =>
      rw [beginning]
      exact .beginning
  | @snoc moments middle happening last chronicle actor step induction =>
      have before := induction fun moment member => single moment (List.mem_append_left _ member)
      have here := single ⟨middle, actor, happening, last⟩ (by simp)
      rw [Tally.ofThread_snoc]
      by_cases same : actor = thread
      · subst actor
        rw [if_pos rfl]
        exact before.step step (here rfl)
      · rw [if_neg same, step.place_other (Ne.symm same)]
        exact before

/-! ## Seen complete -/

/-- A walk for an application is about to leave with success only once it has set the flag. -/
theorem Step.ready_of_leaving {system next : System α} {happening : Happening α}
    (step : Step plays system thread happening next) (sound : system.Sound)
    (holding : next.place thread = .holding (.run application) (.leaving (.returned (.ok ())))) :
    next.service.manager.ready = true := by
  cases step.move with
  | aside effect common outside stays opens =>
      rw [put_same] at holding
      rw [holding] at stays
      cases stays
  | enter waiting free =>
      rw [put_same] at holding
      cases holding
      cases sound.opens waiting
  | @work task phase happening service later held worked =>
      rw [put_same] at holding
      cases holding
      generalize left : Phase.leaving (.returned (.ok ())) = later at worked
      cases worked with
      | arrives past => rfl
      | @books next position name outcome finish booked =>
          rcases finish with (fault | ⟨⟩) | message <;> cases left
      | refuses | passes | finds | accepts | skips | calls | asks | ends | stops => cases left
  | @leave task finish held =>
      rw [put_same] at holding
      unfold Task.after at holding
      split at holding <;> cases holding

theorem Step.admits {system next : System α} {happening : Happening α}
    (step : Step plays system thread happening next)
    (starts : (next.place thread).isApplying = true) :
    system.service.manager.ready = true ∨ ∃ awaited,
      system.place thread = .holding (.run awaited) (.leaving (.returned (.ok ()))) := by
  cases step with
  | begins task =>
      rw [put_same] at starts
      cases task <;> cases starts
  | findsReady beginning ready => exact .inl ready
  | @leaves task finish holding =>
      rw [put_same] at starts
      unfold Task.after at starts
      split at starts
      · exact .inr ⟨_, holding⟩
      · cases starts
  | registers | looks | findsUnready | enters | works | applies | returns =>
      rw [put_same] at starts
      cases starts

/-- A system that was initialized has been led through by the time a walk has succeeded, and
before an application starts. -/
theorem Chronicle.seen (chronicle : Chronicle plays start moments last) (sound : start.Sound)
    (beginning : start.place thread = .beginning (.run application)) :
    (∀ awaited, last.place thread =
        .holding (.run awaited) (.leaving (.returned (.ok ()))) →
      ∃ system ∈ start :: moments.map Moment.after, system.service.manager.IsComplete) ∧
    ∀ earlier invocation later, moments = earlier ++ invocation :: later →
      invocation.thread = thread → invocation.invokes = true →
      ∃ system ∈ start :: earlier.map Moment.after, system.service.manager.IsComplete := by
  induction chronicle with
  | nil =>
      refine ⟨fun awaited holding => ?_, fun earlier invocation later split => ?_⟩
      · rw [beginning] at holding
        cases holding
      · cases earlier <;> cases split
  | @snoc moments middle happening last chronicle actor step induction =>
      have settled := chronicle.run.sound sound
      rcases induction with ⟨walked, invoked⟩
      refine ⟨fun awaited holding => ?_, fun earlier invocation later split own starts => ?_⟩
      · by_cases same : actor = thread
        · subst actor
          refine ⟨last, by simp, (settled.step step).gate.isComplete ?_⟩
          exact step.ready_of_leaving settled holding
        · rw [step.place_other (Ne.symm same)] at holding
          rcases walked awaited holding with ⟨system, member, complete⟩
          refine ⟨system, ?_, complete⟩
          rw [List.map_append, ← List.cons_append]
          exact List.mem_append_left _ member
      · rcases split_of_snoc split with ⟨rfl, rfl⟩ | ⟨rest, before⟩
        · cases own
          rcases step.admits starts with ready | ⟨awaited, holding⟩
          · exact ⟨middle, chronicle.last_mem, settled.gate.isComplete ready⟩
          · exact walked awaited holding
        · exact invoked earlier invocation rest before own starts

/-! ## The gate -/

/-- What a call gates that runs an application, from its first moment on and at whatever moments
of all threads come after. -/
structure Gated (thread : Nat) (application : Finish α) (start : System α)
    (moments : List (Moment α)) : Prop where
  /-- The application starts at most once. -/
  once : (Tally.ofThread thread moments).invocations ≤ 1
  /-- Between the beginning of the call and the start of the application, the flag was set with
  every step completed. -/
  seen : ∀ earlier invocation later, moments = earlier ++ invocation :: later →
    invocation.thread = thread → invocation.invokes = true →
    ∃ system ∈ start :: earlier.map Moment.after, system.service.manager.IsComplete
  /-- If the call finds the flag set, it calls no action. -/
  uncalled : true ∈ (Tally.ofThread thread moments).looks →
    (Tally.ofThread thread moments).called = []
  /-- If the walk fails that the call waits for, the application does not start. -/
  shut : ∀ fault, .returned (.error fault) ∈ (Tally.ofThread thread moments).finishes →
    (Tally.ofThread thread moments).invocations = 0
  /-- The call comes back with a failure exactly if that walk has failed so, and otherwise with
  the value of the application, unless an action or the application panics. -/
  served : ∀ one ∈ (Tally.ofThread thread moments).served, one.task = .run application ∧
    (∀ fault, one.answer = .notStarted fault ↔
      .returned (.error fault) ∈ (Tally.ofThread thread moments).finishes) ∧
    ∀ value, application = .returned value → (∀ fault, one.answer ≠ .notStarted fault) →
      (∀ message, .panicked message ∉ (Tally.ofThread thread moments).finishes) →
      one.answer = .ran value [] ∧ (Tally.ofThread thread moments).invocations = 1

namespace Tally

variable {tally : Tally α} {answer : Answer α}

theorem Admitted.uncalled (admitted : tally.Admitted) (ready : true ∈ tally.looks) :
    tally.called = [] := by
  rcases admitted.admitted with ⟨_, _, uncalled⟩ | ⟨looks, _⟩
  · exact uncalled
  · rw [looks] at ready
    simp at ready

theorem Admitted.unfailed (admitted : tally.Admitted)
    {finish : Finish (Except InitError Unit)} (finished : finish ∈ tally.finishes) :
    finish = .returned (.ok ()) := by
  rcases admitted.admitted with ⟨_, finishes, _⟩ | ⟨_, finishes⟩
  · rw [finishes] at finished
    cases finished
  · rw [finishes] at finished
    exact List.mem_singleton.mp finished

theorem Ended.invocations_le (ended : Ended application tally answer) :
    tally.invocations ≤ 1 := by
  cases ended with
  | applied admitted => exact Nat.le_of_eq admitted.once
  | shut _ _ _ uninvoked => rw [uninvoked]; exact Nat.zero_le 1

theorem Ended.uncalled (ended : Ended application tally answer) (ready : true ∈ tally.looks) :
    tally.called = [] := by
  cases ended with
  | applied admitted => exact admitted.uncalled ready
  | shut _ looks =>
      rw [looks] at ready
      simp at ready

theorem Ended.shut_of_error (ended : Ended application tally answer) {fault : InitError}
    (failed : .returned (.error fault) ∈ tally.finishes) : tally.invocations = 0 := by
  cases ended with
  | applied admitted => cases admitted.unfailed failed
  | shut _ _ _ uninvoked => exact uninvoked

theorem Ended.answer_iff (ended : Ended application tally answer) (fault : InitError) :
    answer = .notStarted fault ↔ .returned (.error fault) ∈ tally.finishes := by
  cases ended with
  | applied admitted =>
      refine ⟨fun same => ?_, fun failed => ?_⟩
      · cases application <;> cases same
      · cases admitted.unfailed failed
  | @shut finish broken looks finishes uninvoked =>
      rw [finishes, List.mem_singleton]
      rcases finish with (other | ⟨⟩) | message
      case returned.error =>
        refine ⟨fun same => ?_, fun same => ?_⟩ <;> cases same <;> rfl
      case returned.ok => exact absurd rfl broken
      case panicked => refine ⟨fun same => ?_, fun same => ?_⟩ <;> cases same

theorem Ended.ran {value : α} (ended : Ended (.returned value) tally answer)
    (started : ∀ fault, answer ≠ .notStarted fault)
    (unbroken : ∀ message, .panicked message ∉ tally.finishes) :
    answer = .ran value [] ∧ tally.invocations = 1 := by
  cases ended with
  | applied admitted => exact ⟨rfl, admitted.once⟩
  | @shut finish broken looks finishes uninvoked =>
      rcases finish with (fault | ⟨⟩) | message
      case returned.error => exact absurd rfl (started fault)
      case returned.ok => exact absurd rfl broken
      case panicked => exact absurd (by simp [finishes]) (unbroken message)

/-- Whatever a call has come to, it starts its application only if it may. -/
theorem Told.gated {place : Place α} (told : Told thread application tally place) :
    tally.invocations ≤ 1 ∧ (true ∈ tally.looks → tally.called = []) ∧
    (∀ fault, .returned (.error fault) ∈ tally.finishes → tally.invocations = 0) ∧
    ∀ one ∈ tally.served, one.task = .run application ∧ Ended application tally one.answer := by
  cases told with
  | beginning => simp
  | waiting => simp
  | holding => simp
  | applying admitted unserved =>
      have ended : Ended application tally _ := .applied admitted
      exact ⟨ended.invocations_le, ended.uncalled, fun _ => ended.shut_of_error, by simp [unserved]⟩
  | answering ended unserved =>
      exact ⟨ended.invocations_le, ended.uncalled, fun _ => ended.shut_of_error, by simp [unserved]⟩
  | idle ended served =>
      refine ⟨ended.invocations_le, ended.uncalled, fun _ => ended.shut_of_error, ?_⟩
      intro one member
      rw [served, List.mem_singleton] at member
      cases member
      exact ⟨rfl, ended⟩

end Tally

theorem Chronicle.gated (chronicle : Chronicle plays start moments last) (sound : start.Sound)
    (beginning : start.place thread = .beginning (.run application))
    (single : ∀ moment ∈ moments, moment.thread = thread →
      ∀ task, moment.happening ≠ .began task) : Gated thread application start moments := by
  rcases (chronicle.told beginning single).gated with ⟨once, uncalled, shut, served⟩
  refine ⟨once, (chronicle.seen sound beginning).2, uncalled, shut, fun one member => ?_⟩
  rcases served one member with ⟨own, ended⟩
  refine ⟨own, ended.answer_iff, fun value returned => ?_⟩
  subst returned
  exact ended.ran

end System

/-! ## One operation after the other -/

namespace Operation

mutual

def starts (service : Service) : Operation α → List Service
  | run _ inner =>
      match service.prepare with
      | (.returned (.ok ()), next) => next :: startsAll next inner
      | _ => []
  | _ => []

def startsAll (service : Service) : List (Operation α) → List Service
  | [] => []
  | operation :: rest =>
      starts service operation ++
        match operation.perform service with
        | (.returned _, next) => startsAll next rest
        | (.panicked _, _) => []

end

end Operation

namespace Service

def starts (service : Service) : List (Operation α) → List Service
  | [] => []
  | operation :: rest => operation.starts service ++ (operation.perform service).2.starts rest

theorem prepare_ready {service next : Service}
    (prepared : service.prepare = (.returned (.ok ()), next)) : next.manager.ready = true := by
  unfold prepare at prepared
  split at prepared
  · rename_i ready
    cases prepared
    exact ready
  · split at prepared
    · cases prepared
    · rcases initializeAll_accomplished service with ⟨trials, accomplished, _⟩
      rw [prepared] at accomplished
      exact accomplished.2.1

end Service

namespace Operation

open Service

mutual

theorem starts_complete (service : Service) (operation : Operation α)
    (intact : service.manager.Intact) :
    ∀ started ∈ operation.starts service, started.manager.IsComplete := by
  cases operation with
  | run value inner =>
      have course : Course True service _ _ := prepare_course service
      unfold starts
      split
      · rename_i next prepared
        rw [prepared] at course
        have kept : next.manager.Intact := course.intact intact
        intro started member
        rcases List.mem_cons.mp member with rfl | later
        · exact kept.gate.isComplete (prepare_ready prepared)
        · exact startsAll_complete next inner kept started later
      · simp
  | register | exec | initializeAll | isInitialized | isReady | status | statusText
  | initializeAtOnce | setConfig | getConfig | getDatabase | getCache | components | setDatabase
  | setCache | registerConnectors | request | bootstrap | writeFile | installLogger
  | installExporter | scrape | signal | elapse =>
      simp [starts]

theorem startsAll_complete (service : Service) (operations : List (Operation α))
    (intact : service.manager.Intact) :
    ∀ started ∈ startsAll service operations, started.manager.IsComplete := by
  cases operations with
  | nil => simp [startsAll]
  | cons operation rest =>
      have course : Course True service _ _ := operation.perform_course service fun _ => trivial
      unfold startsAll
      intro started member
      rcases List.mem_append.mp member with first | later
      · exact starts_complete service operation intact started first
      · split at later
        · rename_i answer next performed
          rw [performed] at course
          exact startsAll_complete next rest (course.intact intact) started later
        · cases later

end

end Operation

namespace Service

theorem starts_complete {service : Service} (intact : service.manager.Intact)
    (operations : List (Operation α)) :
    ∀ started ∈ service.starts operations, started.manager.IsComplete := by
  induction operations generalizing service with
  | nil => simp [starts]
  | cons operation rest induction =>
      have course : Course True service _ _ := operation.perform_course service fun _ => trivial
      intro started member
      rcases List.mem_append.mp member with first | later
      · exact operation.starts_complete service intact started first
      · exact induction (course.intact intact) started later

end Service

namespace System

theorem Step.place_of_began {system next : System α} {task : Task α}
    (step : Step plays system thread (.began task) next) : next.place thread = task.start := by
  generalize happened : (.began task : Happening α) = happening at step
  cases step with
  | begins begun idle =>
      cases happened
      exact put_same ..
  | @registers name action result next beginning registered =>
      cases result <;> cases happened
  | works holding worked =>
      have nothing := (worked.outside_eq_nil thread).1
      rw [← happened] at nothing
      cases nothing
  | looks | findsReady | findsUnready | enters | leaves | applies | returns => cases happened

/-- Whatever threads and actions do: a call that runs an application is a gate, as `Gated` says.
And when one operation is performed after the other on a new manager, every step is completed
whenever an application starts, those included that other applications run. -/
theorem Run.gates {world : World} {earlier : Trace α} {before : System α}
    (run : Run plays (fresh world) earlier before)
    (begins : Step plays before thread (.began (.run application)) start)
    (chronicle : Chronicle plays start moments last)
    (single : ∀ moment ∈ moments, moment.thread = thread →
      ∀ task, moment.happening ≠ .began task) :
    Gated thread application start moments ∧
      ∀ operations : List (Operation α), ∀ started ∈ Service.starts { world } operations,
        started.manager.IsComplete := by
  have sound := (run.snoc thread begins).sound (.fresh world)
  exact ⟨chronicle.gated sound begins.place_of_began single,
    Service.starts_complete Manager.Intact.fresh⟩

/-- Another thread registers a step once the walk has succeeded, before the application starts
that it is for. The application starts all the same. -/
theorem gates_overtaken : ∃ (start last : System Unit) (moments : List (Moment Unit)),
    Chronicle Action.Plays start moments last ∧
      (Tally.ofThread 0 moments).served = [⟨0, .run (.returned ()), .ran () []⟩] ∧
      last.service.manager.status = [⟨"late", false⟩] ∧
      Gated 0 (.returned ()) start moments := by
  have run : Run Action.Plays (fresh {} : System Unit) [] (fresh {}) := .nil _
  have begins : Step Action.Plays (fresh {}) 0 (.began (.run (.returned ()))) _ := .begins _ rfl
  have chronicle : Chronicle Action.Plays ((fresh {}).put 0 (.beginning (.run (.returned ())))) []
    _ := .nil
  have chronicle := chronicle.snoc 0 (.findsUnready rfl rfl)
  have chronicle := chronicle.snoc 0 (.enters rfl rfl)
  have chronicle := chronicle.snoc 0 (.works rfl (.arrives rfl))
  have chronicle := chronicle.snoc 1 (.begins (.register "late" prompt) rfl)
  have chronicle := chronicle.snoc 1 (.registers rfl rfl)
  have chronicle := chronicle.snoc 0 (.leaves rfl)
  have chronicle := chronicle.snoc 0 (.applies rfl)
  have chronicle := chronicle.snoc 0 (.returns rfl)
  have told := run.gates begins chronicle (by simp)
  exact ⟨_, _, _, chronicle, rfl, rfl, told.1⟩

end System

end Bringup
