import Bringup.Session

namespace Bringup

/-! Threads at work on one manager.

A thread goes from one access to what it shares with the others to the next. A
section under the lock of the bookkeeping is one step, and so is taking the lock of
execution or giving it back. A call of an action begins with one step and ends with
another, and each of its requests is a step in between. Any thread may take the
next step. -/

/-! ## Tasks -/

inductive Query where
  | isInitialized (name : String)
  | isReady
  | status
deriving DecidableEq, Repr

inductive Task (α : Type) where
  | register (name : String) (action : Action)
  | exec (name : String) (action : Action)
  | initializeAll
  /-- Runs an application, which ends as told. No lock is held meanwhile, so what it
  asks of the manager are tasks of their own. -/
  | run (application : Finish α)
  | look (query : Query)

namespace Answer

def ofRegistration : Except DuplicateName Unit → Answer α
  | .ok () => .done
  | .error fault => .rejected fault

end Answer

namespace Manager

def look (manager : Manager) : Query → Answer α
  | .isInitialized name => .truth (manager.isInitialized name)
  | .isReady => .truth manager.ready
  | .status => .statuses manager.status

end Manager

namespace Task

def answer : Task α → Finish (Except InitError Unit) → Answer α
  | run application, .returned (.ok ()) => .ofFinish (application.map (.ran · []))
  | _, finish => .ofFinish (finish.map .ofInit)

end Task

namespace Service

def attend (service : Service) : Task α → Answer α × Service
  | .register name action =>
      let (result, next) := service.register name action
      (.ofRegistration result, next)
  | .exec name action =>
      let (finish, next) := service.exec name action
      (Task.answer (.exec name action) finish, next)
  | .initializeAll =>
      let (finish, next) := service.initializeAll
      (Task.answer .initializeAll finish, next)
  | .run application =>
      let (finish, next) := service.prepare
      (Task.answer (.run application) finish, next)
  | .look query => (service.manager.look query, service)

def attendAll (service : Service) : List (Task α) → List (Answer α) × Service
  | [] => ([], service)
  | task :: rest =>
      let (answer, next) := service.attend task
      let (answers, last) := next.attendAll rest
      (answer :: answers, last)

end Service

/-! ## What happens

A call of the action of the step at a position begins and ends; the step is then marked
as completed if the call succeeded. A walk comes to the end of the list, or it fails and
is stopped. -/

inductive Happening (α : Type) where
  | began (task : Task α)
  | registered (name : String)
  | rejected (name : String)
  | called (position : Nat)
  | ended (position : Nat) (outcome : Outcome)
  | completed (position : Nat)
  | walked
  | stopped
  | returned (task : Task α) (answer : Answer α)
  | silent

abbrev Trace (α : Type) := List (Nat × Happening α)

namespace Happening

def ofRegistration (name : String) : Except DuplicateName Unit → Happening α
  | .ok () => .registered name
  | .error _ => .rejected name

def ofReply : Request → Reply → Happening α
  | .register name _ _, .registered result => ofRegistration name result
  | _, _ => .silent

def ofBooking (position : Nat) : Outcome → Happening α
  | .succeeded => .completed position
  | _ => .silent

end Happening

/-! ## Executing steps

Steps are executed by the thread that holds the lock of execution, one access
after the other. It appends the step that is to be executed, or it visits the steps in
order. It takes the action of a pending step and calls it, goes on with the call, and
books how the call ended. A walk that failed is stopped, which clears the flag of
readiness, before the lock is given back. -/

structure Performance where
  position : Nat
  step : Step
  replies : List Reply := []
  /-- What is still to be asked. -/
  requests : List Request
  ending : Ending
  rejected : Option DuplicateName := none

namespace Performance

def start (position : Nat) (step : Step) (script : Script) : Performance where
  position
  step
  requests := script.requests
  ending := script.ending

def hear (performance : Performance) (reply : Reply) (rejected : Option DuplicateName) :
    Performance :=
  { performance with
    replies := performance.replies ++ [reply]
    requests := if rejected.isSome then [] else performance.requests.tail
    rejected := performance.rejected.or rejected }

def outcome (performance : Performance) : Outcome :=
  Service.outcome performance.ending performance.rejected

end Performance

/-- What the holder of the lock of execution is about to do. -/
inductive Phase where
  | registering (name : String) (action : Action)
  | visiting (position : Nat)
  | starting (position : Nat)
  | acting (performance : Performance)
  | booking (position : Nat) (name : String) (outcome : Outcome)
  | stopping (fault : InitError)
  | leaving (finish : Finish (Except InitError Unit))

namespace Task

def isWalk : Task α → Bool
  | initializeAll | run _ => true
  | _ => false

/-- What follows once the step at a position has run. A walk goes on after a
success. -/
def proceed (task : Task α) (position : Nat) (finish : Finish (Except InitError Unit)) :
    Phase :=
  match task.isWalk, finish with
  | true, .returned (.ok ()) => .visiting (position + 1)
  | true, .returned (.error fault) => .stopping fault
  | _, finish => .leaving finish

end Task

namespace Action

def Plays (action : Action) (call : Nat) (script : Script) : Prop :=
  action.script? call = some script

end Action

/-- One access of the holder of the lock. `plays` tells which scripts the call of an
action may follow, given how often it has been called. -/
inductive Phase.Step (plays : Action → Nat → Script → Prop) (task : Task α) :
    Service → Phase → Happening α → Service → Phase → Prop
  | accepts {service next name action} (pushed : service.push name action = .ok next) :
      Step plays task service (.registering name action) (.registered name)
        next (.starting service.manager.steps.length)
  | refuses {service name action fault} (pushed : service.push name action = .error fault) :
      Step plays task service (.registering name action) (.rejected name)
        service (.leaving (.returned (.error (.duplicate fault))))
  | passes {service : Service} {position step}
      (stands : service.manager.steps[position]? = some step) (done : step.completed = true) :
      Step plays task service (.visiting position) .silent service (.visiting (position + 1))
  | finds {service : Service} {position step}
      (stands : service.manager.steps[position]? = some step)
      (pending : step.completed = false) :
      Step plays task service (.visiting position) .silent service (.starting position)
  | arrives {service : Service} {position}
      (past : service.manager.steps[position]? = none) :
      Step plays task service (.visiting position) .walked
        ((service.setReady true).log (.bootstrapComplete position))
        (.leaving (.returned (.ok ())))
  | skips {service : Service} {position step}
      (stands : service.manager.steps[position]? = some step) (done : step.completed = true) :
      Step plays task service (.starting position) .silent
        service (task.proceed position (.returned (.ok ())))
  | calls {service : Service} {position step script}
      (stands : service.manager.steps[position]? = some step)
      (pending : step.completed = false) (played : plays step.action step.calls script) :
      Step plays task service (.starting position) (.called position)
        (service.beginCall position step) (.acting (.start position step script))
  | asks {service next performance request rest reply rejected}
      (left : performance.requests = request :: rest)
      (replied : service.reply request = ((reply, rejected), next)) :
      Step plays task service (.acting performance) (.ofReply request reply)
        next (.acting (performance.hear reply rejected))
  | ends {service performance} (left : performance.requests = []) :
      Step plays task service (.acting performance)
        (.ended performance.position performance.outcome)
        (service.endCall performance.step performance.replies performance.outcome)
        (.booking performance.position performance.step.name performance.outcome)
  | books {service next position name outcome finish}
      (booked : service.book position name outcome = (finish, next)) :
      Step plays task service (.booking position name outcome) (.ofBooking position outcome)
        next (task.proceed position finish)
  | stops {service fault} :
      Step plays task service (.stopping fault) .stopped
        (service.setReady false) (.leaving (.returned (.error fault)))

/-! ## Threads -/

/-- Where a thread is: between two tasks, or at a task, and then with or without the lock
of execution. -/
inductive Place (α : Type) where
  | idle
  | beginning (task : Task α)
  | waiting (task : Task α) (phase : Phase)
  | holding (task : Task α) (phase : Phase)
  | applying (application : Finish α)
  | answering (task : Task α) (answer : Answer α)

namespace Task

def start : Task α → Place α
  | exec name action => .waiting (.exec name action) (.registering name action)
  | initializeAll => .waiting .initializeAll (.visiting 0)
  | task => .beginning task

def after : Task α → Finish (Except InitError Unit) → Place α
  | run application, .returned (.ok ()) => .applying application
  | task, finish => .answering task (task.answer finish)

end Task

namespace Service

def report (service : Service) : Task α → Finish (Except InitError Unit) → Service
  | .run _, .returned (.error fault) =>
      service.log (.bootstrapFailed fault.stepName fault.message)
  | _, _ => service

end Service

/-- Threads, of which each has a number, and what they share. -/
structure System (α : Type) where
  service : Service
  /-- The thread that holds the lock of execution. -/
  holder : Option Nat := none
  place : Nat → Place α := fun _ => .idle

namespace System

def fresh (world : World) : System α where
  service := { world }

def IsQuiet (system : System α) : Prop := ∀ thread, system.place thread = .idle

def put (system : System α) (thread : Nat) (place : Place α) : System α :=
  { system with
    place := fun other => if other = thread then place else system.place other }

@[simp] theorem put_service (system : System α) (thread : Nat) (place : Place α) :
    (system.put thread place).service = system.service := rfl

@[simp] theorem put_holder (system : System α) (thread : Nat) (place : Place α) :
    (system.put thread place).holder = system.holder := rfl

@[simp] theorem put_same (system : System α) (thread : Nat) (place : Place α) :
    (system.put thread place).place thread = place := by
  simp [put]

theorem put_other (system : System α) {thread other : Nat} (place : Place α)
    (different : other ≠ thread) :
    (system.put thread place).place other = system.place other := by
  simp [put, different]

inductive Step (plays : Action → Nat → Script → Prop) :
    System α → Nat → Happening α → System α → Prop
  | begins {system thread} (task : Task α) (idle : system.place thread = .idle) :
      Step plays system thread (.began task) (system.put thread task.start)
  | registers {system thread name action result next}
      (beginning : system.place thread = .beginning (.register name action))
      (registered : system.service.register name action = (result, next)) :
      Step plays system thread (.ofRegistration name result)
        ({ system with service := next }.put thread
          (.answering (.register name action) (.ofRegistration result)))
  | looks {system thread query} (beginning : system.place thread = .beginning (.look query)) :
      Step plays system thread .silent
        (system.put thread (.answering (.look query) (system.service.manager.look query)))
  | findsReady {system thread application}
      (beginning : system.place thread = .beginning (.run application))
      (ready : system.service.manager.ready = true) :
      Step plays system thread .silent (system.put thread (.applying application))
  | findsUnready {system thread application}
      (beginning : system.place thread = .beginning (.run application))
      (unready : system.service.manager.ready = false) :
      Step plays system thread .silent
        (system.put thread (.waiting (.run application) (.visiting 0)))
  | enters {system thread task phase} (waiting : system.place thread = .waiting task phase)
      (free : system.holder = none) :
      Step plays system thread .silent
        ({ system with holder := some thread }.put thread (.holding task phase))
  | works {system thread task phase happening next later}
      (holding : system.place thread = .holding task phase)
      (worked : Phase.Step plays task system.service phase happening next later) :
      Step plays system thread happening
        ({ system with service := next }.put thread (.holding task later))
  | leaves {system thread task finish}
      (holding : system.place thread = .holding task (.leaving finish)) :
      Step plays system thread .silent
        ({ system with service := system.service.report task finish, holder := none }.put
          thread (task.after finish))
  | applies {system thread application}
      (applying : system.place thread = .applying application) :
      Step plays system thread .silent
        (system.put thread
          (.answering (.run application) (Task.answer (.run application) (.returned (.ok ())))))
  | returns {system thread task answer}
      (answering : system.place thread = .answering task answer) :
      Step plays system thread (.returned task answer) (system.put thread .idle)

inductive Run (plays : Action → Nat → Script → Prop) :
    System α → Trace α → System α → Prop
  | nil (system) : Run plays system [] system
  | snoc {first trace middle happening last} (run : Run plays first trace middle)
      (thread : Nat) (step : Step plays middle thread happening last) :
      Run plays first (trace ++ [(thread, happening)]) last

/-! ## A run

While one thread executes a step that fails at first, another one registers a step and
then initializes. -/

def tardy : Action := .plain fun call => if call = 0 then .fail "refused" else .succeed

def prompt : Action := .plain fun _ => .succeed

def interleaved : Trace Unit :=
  [(0, .began (.exec "database" tardy)), (1, .began (.register "cache" prompt)),
    (0, .silent), (0, .registered "database"), (1, .registered "cache"), (0, .called 0),
    (1, .returned (.register "cache" prompt) .done),
    (0, .ended 0 (.failed (.said "refused"))), (0, .silent), (0, .silent),
    (0, .returned (.exec "database" tardy)
      (.notStarted (.step "database" (.said "refused")))),
    (1, .began .initializeAll), (1, .silent), (1, .silent), (1, .called 0),
    (1, .ended 0 .succeeded), (1, .completed 0), (1, .silent), (1, .called 1),
    (1, .ended 1 .succeeded), (1, .completed 1), (1, .walked), (1, .silent),
    (1, .returned .initializeAll .done)]

theorem exists_interleaved : ∃ system : System Unit,
    Run Action.Plays (fresh {}) interleaved system ∧ system.IsQuiet ∧
      system.service.manager.ready = true := by
  have run : Run Action.Plays (fresh {} : System Unit) [] (fresh {}) := .nil _
  have run := run.snoc 0 (.begins (.exec "database" tardy) rfl)
  have run := run.snoc 1 (.begins (.register "cache" prompt) rfl)
  have run := run.snoc 0 (.enters rfl rfl)
  have run := run.snoc 0 (.works rfl (.accepts rfl))
  have run := run.snoc 1 (.registers rfl rfl)
  have run := run.snoc 0 (.works rfl (.calls rfl rfl rfl))
  have run := run.snoc 1 (.returns rfl)
  have run := run.snoc 0 (.works rfl (.ends rfl))
  have run := run.snoc 0 (.works rfl (.books rfl))
  have run := run.snoc 0 (.leaves rfl)
  have run := run.snoc 0 (.returns rfl)
  have run := run.snoc 1 (.begins .initializeAll rfl)
  have run := run.snoc 1 (.enters rfl rfl)
  have run := run.snoc 1 (.works rfl (.finds rfl rfl))
  have run := run.snoc 1 (.works rfl (.calls rfl rfl rfl))
  have run := run.snoc 1 (.works rfl (.ends rfl))
  have run := run.snoc 1 (.works rfl (.books rfl))
  have run := run.snoc 1 (.works rfl (.finds rfl rfl))
  have run := run.snoc 1 (.works rfl (.calls rfl rfl rfl))
  have run := run.snoc 1 (.works rfl (.ends rfl))
  have run := run.snoc 1 (.works rfl (.books rfl))
  have run := run.snoc 1 (.works rfl (.arrives rfl))
  have run := run.snoc 1 (.leaves rfl)
  have run := run.snoc 1 (.returns rfl)
  refine ⟨_, run, ?_, rfl⟩
  intro thread
  by_cases first : thread = 0
  · subst thread
    rfl
  · by_cases second : thread = 1
    · subst thread
      rfl
    · simp [put, fresh, first, second]

end System

end Bringup
