import Bringup.World

namespace Bringup

/-! A manager at work: registering steps and calling their actions. -/

structure Service where
  manager : Manager := {}
  world : World := {}

namespace Service

def log (service : Service) (event : Event) : Service :=
  { service with world := service.world.log event }

def record (service : Service) (entry : Entry) : Service :=
  { service with world := service.world.record entry }

def setReady (service : Service) (ready : Bool) : Service :=
  { manager := service.manager.setReady ready, world := service.world.record (.gauge ready) }

/-- Appends a step; the gauge falls with the flag. -/
def push (service : Service) (name : String) (action : Action) :
    Except DuplicateName Service :=
  match service.manager.push name action with
  | .error fault => .error fault
  | .ok manager => .ok { manager, world := service.world.record (.gauge false) }

def register (service : Service) (name : String) (action : Action) :
    Except DuplicateName Unit × Service :=
  match service.push name action with
  | .error fault => (.error fault, service.log (.duplicateRejected name))
  | .ok next => (.ok (), next.log (.stepRegistered name service.manager.steps.length))

/-! ## Actions -/

/-- The reply to one request, and the fault that ends the requests if there is
one. -/
def reply (service : Service) : Request → (Reply × Option DuplicateName) × Service
  | .register name runs isRequired =>
      match service.register name (.scripted runs) with
      | (.error fault, next) =>
          ((.registered (.error fault), if isRequired then some fault else none), next)
      | (.ok (), next) => ((.registered (.ok ()), none), next)
  | .isInitialized name => ((.truth (service.manager.isInitialized name), none), service)
  | .isReady => ((.truth service.manager.ready, none), service)
  | .status => ((.statuses service.manager.status, none), service)

/-- The replies to the requests of a script, up to a required one that was
rejected. -/
def answer (service : Service) :
    List Request → (List Reply × Option DuplicateName) × Service
  | [] => (([], none), service)
  | request :: rest =>
      match service.reply request with
      | ((reply, some fault), next) => (([reply], some fault), next)
      | ((reply, none), next) =>
          let ((replies, rejected), last) := next.answer rest
          ((reply :: replies, rejected), last)

/-- How a script ends, given whether a required registration was rejected. A
panic comes about in either case. -/
def outcome (ending : Ending) (rejected : Option DuplicateName) : Outcome :=
  match ending, rejected with
  | .panic message, _ => .panicked message
  | _, some fault => .failed (.said fault.message)
  | .fail message, none => .failed (.said message)
  | .succeed, none => .succeeded

def follow (service : Service) (script : Script) : (List Reply × Outcome) × Service :=
  let ((replies, rejected), next) := service.answer script.requests
  ((replies, outcome script.ending rejected), next)

def callAction (service : Service) (action : Action) (call : Nat) :
    (List Reply × Outcome) × Service :=
  match action with
  | .scripted runs => service.follow (scriptAt runs call)
  | .plain endings => service.follow (.script [] (endings call))
  | .stage stage =>
      let (outcome, world) := service.world.attempt stage
      (([], outcome), { service with world })

theorem callAction_of_script {action : Action} {call : Nat} {script : Script}
    (told : action.script? call = some script) (service : Service) :
    service.callAction action call = service.follow script := by
  cases action with
  | scripted runs => cases told; rfl
  | plain endings => cases told; rfl
  | stage stage => cases told

/-! ## Steps -/

def beginCall (service : Service) (position : Nat) (step : Step) : Service :=
  let logged := service.log (.stepRunning step.name)
  { logged with manager := logged.manager.noteCall position }

def endCall (service : Service) (step : Step) (replies : List Reply) (outcome : Outcome) :
    Service :=
  service.record (.call ⟨step.name, step.calls + 1, replies, outcome⟩)

/-- Books how a call ended for the step at a position. A panic leaves nothing
booked. -/
def book (service : Service) (position : Nat) (name : String) :
    Outcome → Finish (Except InitError Unit) × Service
  | .panicked message => (.panicked message, service)
  | .succeeded =>
      let counted := service.record (.sample name true)
      let completed := { counted with manager := counted.manager.markCompleted position }
      (.returned (.ok ()), completed.log (.stepCompleted name))
  | .failed cause =>
      let counted := service.record (.sample name false)
      (.returned (.error (.step name cause)), counted.log (.stepFailed name cause.message))

def runStep (service : Service) (position : Nat) (step : Step) :
    Finish (Except InitError Unit) × Service :=
  let ((replies, outcome), ended) :=
    (service.beginCall position step).callAction step.action step.calls
  (ended.endCall step replies outcome).book position step.name outcome

end Service

end Bringup
