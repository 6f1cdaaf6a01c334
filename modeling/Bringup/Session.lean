import Bringup.Http.Endpoint
import Bringup.Lifecycle.Startup
import Bringup.Metrics

namespace Bringup

/-! Sequences of operations on one process.

A panic that passes through an operation ends it, and with it every operation
around it; the process goes on with the next one. -/

inductive Operation (α : Type) where
  | register (name : String) (runs : List Script)
  | exec (name : String) (runs : List Script)
  | initializeAll
  /-- Runs an application, which performs operations and hands back a value. -/
  | run (value : α) (inner : List (Operation α))
  | isInitialized (name : String)
  | isReady
  | status
  | statusText
  /-- Several threads initialize at once. -/
  | initializeAtOnce (threads : Nat)
  | setConfig (config : Config)
  | getConfig
  | getDatabase
  | getCache
  | components
  | setDatabase (config : DatabaseConfig) (testMode : Bool)
  | setCache (config : CacheConfig)
  | registerConnectors (testMode : Bool)
  | request (request : HttpRequest)
  | bootstrap (path : String) (testMode : Bool)
  | writeFile (path : String) (text : String)
  | installLogger (config : ObservabilityConfig)
  | installExporter (address : SocketAddress)
  | scrape
  /-- The process is told to shut down. -/
  | signal
  /-- Time passes, and the network around the process changes. -/
  | elapse (seconds : Nat) (network : Network)

inductive Answer (α : Type) where
  | done
  | written
  | rejected (fault : DuplicateName)
  | failed (cause : Cause)
  | notStarted (fault : InitError)
  | panicked (message : String)
  | ran (value : α) (inner : List (Answer α))
  | several (answers : List (Answer α))
  | truth (isTrue : Bool)
  | statuses (statuses : List StepStatus)
  | text (text : String)
  | config (config : Config)
  | database (testMode pings : Bool)
  | cache (pings : Bool)
  | components (slots : List Slot)
  | response (response : Option HttpResponse)
  | lines (lines : List String)
  | signalled (before after : Bool)

namespace Answer

def ofCause : Except Cause Unit → Answer α
  | .ok () => .done
  | .error cause => .failed cause

def ofInit : Except InitError Unit → Answer α
  | .ok () => .done
  | .error fault => .notStarted fault

def ofFinish : Finish (Answer α) → Answer α
  | .returned answer => answer
  | .panicked message => .panicked message

end Answer

namespace World

def isServing (world : World) : Bool :=
  match world.journal.serverEvents.getLast? with
  | some (.serverStarting _) => true
  | _ => false

def isShutDown (world : World) : Bool := world.journal.events.contains .shutdownReceived

def startServer (world : World) : World :=
  if world.isServing || world.journal.serverEvents.contains .serverStopped then world
  else world.record (.serverEvent (.serverStarting world.network.http))

def stopServer (world : World) : World :=
  if world.isServing then world.record (.serverEvent .serverStopped) else world

end World

namespace Service

/-- Sends a request to the server, which the first one starts. Nothing arrives
without a network or once the server has stopped. -/
def request (service : Service) (request : HttpRequest) : Option HttpResponse × Service :=
  let next := { service with world := service.world.startServer }
  if next.world.network.isUp && next.world.isServing then
    (some (Http.respond next.manager next.world.context request), next)
  else (none, next)

def signal (service : Service) : Service :=
  { service with world := (service.world.log .shutdownReceived).stopServer }

def initializeTimes (service : Service) : Nat → List (Answer α) × Service
  | 0 => ([], service)
  | times + 1 =>
      let (finish, next) := service.initializeAll
      let (answers, last) := next.initializeTimes times
      (Answer.ofFinish (finish.map Answer.ofInit) :: answers, last)

def ofWorld (service : Service) (result : Except Cause Unit × World) :
    Finish (Answer α) × Service :=
  (.returned (.ofCause result.1), { service with world := result.2 })

end Service

namespace Operation

mutual

def perform (service : Service) : Operation α → Finish (Answer α) × Service
  | register name runs =>
      match service.register name (.scripted runs) with
      | (.ok (), next) => (.returned .done, next)
      | (.error fault, next) => (.returned (.rejected fault), next)
  | exec name runs =>
      let (finish, next) := service.exec name (.scripted runs)
      (finish.map .ofInit, next)
  | initializeAll =>
      let (finish, next) := service.initializeAll
      (finish.map .ofInit, next)
  | run value inner =>
      match service.prepare with
      | (.panicked message, next) => (.panicked message, next)
      | (.returned (.error fault), next) => (.returned (.notStarted fault), next)
      | (.returned (.ok ()), next) =>
          let (finish, last) := performAll next inner
          (finish.map (.ran value), last)
  | isInitialized name => (.returned (.truth (service.manager.isInitialized name)), service)
  | isReady => (.returned (.truth service.manager.ready), service)
  | status => (.returned (.statuses service.manager.status), service)
  | statusText => (.returned (.text service.manager.statusText), service)
  | initializeAtOnce threads =>
      let (answers, next) := service.initializeTimes threads
      (.returned (.several answers), next)
  | setConfig config =>
      service.ofWorld (service.world.publish (service.world.context.setConfig config))
  | getConfig =>
      match service.world.context.getConfig with
      | .ok config => (.returned (.config config), service)
      | .error fault => (.returned (.failed (.context fault)), service)
  | getDatabase =>
      match service.world.context.getDatabase with
      | .ok database => (.returned (.database database.testMode true), service)
      | .error fault => (.returned (.failed (.context fault)), service)
  | getCache =>
      match service.world.context.getCache with
      | .ok _ =>
          (.returned (.cache (Cache.pings service.world.network)),
            service.record (.command Cache.ping))
      | .error fault => (.returned (.failed (.context fault)), service)
  | components => (.returned (.components service.world.context.components), service)
  | setDatabase config testMode =>
      match Database.panic? service.world.clock service.world.environment config testMode with
      | some message => (.returned (.panicked message), service)
      | none =>
          match service.world.connectDatabase config testMode with
          | (.error fault, world) => service.ofWorld (.error (.database fault), world)
          | (.ok database, world) =>
              service.ofWorld (world.publish (world.context.setDatabase database))
  | setCache config =>
      match service.world.connectCache config with
      | (.error fault, world) => service.ofWorld (.error (.cache fault), world)
      | (.ok cache, world) => service.ofWorld (world.publish (world.context.setCache cache))
  | registerConnectors testMode =>
      let (result, next) := service.registerConnectors testMode
      (.returned (.ofInit result), next)
  | request sent =>
      let (response, next) := service.request sent
      (.returned (.response response), next)
  | bootstrap path testMode =>
      let (finish, next) := service.bootstrap path testMode
      (finish.map .ofInit, next)
  | writeFile path text =>
      let files := service.world.files.write path (.contents (Bytes.encode text))
      (.returned .written, { service with world := { service.world with files } })
  | installLogger config => service.ofWorld (service.world.installLogger config)
  | installExporter address =>
      let (result, world) := service.world.installExporter address
      service.ofWorld (result.mapError .exporter, world)
  | scrape =>
      let lines :=
        if service.world.network.isUp then
          match service.world.network.metrics with
          | some address => Metrics.scrape service.world.journal address
          | none => []
        else []
      (.returned (.lines lines), service)
  | signal =>
      (.returned (.signalled service.world.isShutDown true), service.signal)
  | elapse seconds network =>
      let clock := service.world.clock + seconds
      (.returned .written, { service with world := { service.world with clock, network } })

def performAll (service : Service) : List (Operation α) → Finish (List (Answer α)) × Service
  | [] => (.returned [], service)
  | operation :: rest =>
      match perform service operation with
      | (.panicked message, next) => (.panicked message, next)
      | (.returned answer, next) =>
          let (finish, last) := performAll next rest
          (finish.map (answer :: ·), last)

end

end Operation

structure Turn (α : Type) where
  answer : Answer α
  /-- What was done during the operation. -/
  journal : Journal
  /-- The process after the operation. -/
  service : Service

def Service.session (service : Service) : List (Operation α) → List (Turn α) × Service
  | [] => ([], service)
  | operation :: rest =>
      let (finish, next) := operation.perform service
      let journal := next.world.journal.drop service.world.journal.length
      let (turns, last) := next.session rest
      (⟨.ofFinish finish, journal, next⟩ :: turns, last)

end Bringup
