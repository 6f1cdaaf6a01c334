import Bringup.Journal

namespace Bringup

/-! A process and what is around it. -/

/-- Everything about a process but its manager: its files, its environment, the
network, the shared context, and what it has done. -/
structure World where
  files : Files := []
  environment : List Variable := []
  /-- Where the environment is no text, if it is not. -/
  foreign : Option Foreign := none
  /-- What the clock shows, in seconds. -/
  clock : Nat := 0
  network : Network := {}
  context : Context := {}
  journal : Journal := []

namespace World

def record (world : World) (entry : Entry) : World :=
  { world with journal := world.journal ++ [entry] }

def recordAll (world : World) (entries : List Entry) : World :=
  { world with journal := world.journal ++ entries }

def log (world : World) (event : Event) : World := world.record (.event event)

def valueOf? (world : World) (name : String) : Option String :=
  Variable.valueIn? world.environment name

/-! ## Sockets -/

def isOccupied (world : World) (address : SocketAddress) : Bool :=
  (world.network.occupied ++ world.journal.sockets.map Prod.snd).any address.conflicts

def bind (world : World) (listener : Listener) (address : SocketAddress) :
    Except BindFault SocketAddress :=
  match world.network.bindFault? listener address with
  | some fault => .error fault
  | none =>
      if world.isOccupied address then .error .addressInUse
      else .ok (world.network.given listener address)

def listenerAt? (world : World) (target : SocketAddress) : Option Listener :=
  if world.network.isUp then
    (world.journal.sockets.find? fun socket => socket.2.covers target).map Prod.fst
  else none

/-! ## Logging and metrics -/

def installLogger (world : World) (config : ObservabilityConfig) :
    Except Cause Unit × World :=
  let logger : Logger := {
    filter := Filter.choose (world.valueOf? "RUST_LOG") config.logLevel
    isStructured := config.json }
  if world.journal.hasLogger then (.error .loggingInstalled, world)
  else (.ok (), world.record (.loggerInstalled logger))

/-- Opens a socket for the metrics and then installs their recorder; there can
be only one, and the socket of a second one stays open. -/
def installExporter (world : World) (address : SocketAddress) :
    Except ExporterError Unit × World :=
  match world.bind .exporter address with
  | .error fault => (.error (.unbound fault), world)
  | .ok chosen =>
      if world.journal.exported?.isSome then
        (.error .alreadyInstalled, world.record (.bound .exporter chosen))
      else
        (.ok (), world.recordAll [.bound .exporter chosen, .exporterInstalled chosen,
          .gauge false, .event (.exporterListening address.write)])

/-! ## Configuration and connections -/

def logOverrides (world : World) (path : String) (environment : List Variable) : World :=
  let applied := match world.files.readText path with
    | .ok text => Config.appliedOverrides text environment
    | .error _ => []
  world.recordAll (applied.map fun name => .event (.overrideApplied name))

def loadConfig (world : World) (path : String) : Except ConfigError Config × World :=
  let world := world.logOverrides path world.environment
  match Config.loadFile world.files path world.environment with
  | .ok config => (.ok config, world.log (.configurationLoaded path))
  | .error fault => (.error fault, world)

def connectDatabase (world : World) (config : DatabaseConfig) (testMode : Bool) :
    Except DatabaseError Database × World :=
  match Database.target world.environment config testMode with
  | .error fault => (.error fault, world)
  | .ok address =>
      let (result, logins) := Database.logIn world.network address
      let seen := (world.record (.sought (.database address))).recordAll (logins.map .login)
      match result with
      | .error fault => (.error fault, seen)
      | .ok () =>
          (.ok ⟨testMode, config.maxConnections⟩,
            seen.log (.databaseReady config.maxConnections testMode))

def connectCache (world : World) (config : CacheConfig) : Except CacheError Cache × World :=
  match Cache.Address.read? config.url with
  | none => (.error .unusableUrl, world)
  | some address =>
      let (result, commands) := Cache.greet world.network config.connectTimeoutSecs address
      let seen := (world.record (.sought (.cache address))).recordAll (commands.map .command)
      match result with
      | .error fault => (.error fault, seen)
      | .ok () => (.ok ⟨address.index⟩, seen.log .cacheReady)

def publish (world : World) (result : Except ContextError Context) : Except Cause Unit × World :=
  match result with
  | .error fault => (.error (.context fault), world)
  | .ok context => (.ok (), { world with context })

/-! ## Stages -/

/-- The work of a stage. Stages after the first read the configuration from the
context. -/
def perform (world : World) (stage : Stage) : Except Cause Unit × World :=
  match stage with
  | .configuration path =>
      match world.loadConfig path with
      | (.error fault, world) => (.error (.config fault), world)
      | (.ok config, world) => world.publish (world.context.setConfig config)
  | .logging =>
      match world.context.getConfig with
      | .error fault => (.error (.context fault), world)
      | .ok config =>
          match world.installLogger config.observability with
          | (.error cause, world) => (.error cause, world)
          | (.ok (), world) => (.ok (), world.log .serviceStarting)
  | .metrics =>
      match world.context.getConfig with
      | .error fault => (.error (.context fault), world)
      | .ok config =>
          if !config.observability.metricsEnabled then (.ok (), world)
          else
            match SocketAddress.read? config.observability.metricsAddress with
            | none => (.error .invalidAddress, world)
            | some address =>
                match world.installExporter address with
                | (.error fault, world) => (.error (.exporter fault), world)
                | (.ok (), world) =>
                    (.ok (), world.log (.metricsStarted config.observability.metricsAddress))
  | .database testMode =>
      match world.context.getConfig with
      | .error fault => (.error (.context fault), world)
      | .ok config =>
          match world.connectDatabase config.database testMode with
          | (.error fault, world) => (.error (.database fault), world)
          | (.ok database, world) => world.publish (world.context.setDatabase database)
  | .cache =>
      match world.context.getConfig with
      | .error fault => (.error (.context fault), world)
      | .ok config =>
          match world.connectCache config.cache with
          | (.error fault, world) => (.error (.cache fault), world)
          | (.ok cache, world) => world.publish (world.context.setCache cache)

/-! ## Panics -/

/-- The message of the panic that a stage ends in, if it does. Loading a configuration
comes upon an assignment that is no text once everything before it has been applied. -/
def panic? (world : World) : Stage → Option String
  | .configuration path => do
      let foreign ← world.foreign
      let text ← (world.files.readText path).toOption
      let document ← (Toml.read text).toOption
      let _ ← (Override.applyAll document (world.environment.take foreign.before)).toOption
      return foreign.message
  | .database testMode => do
      let config ← world.context.config
      Database.panic? world.clock world.environment config.database testMode
  | .logging | .metrics | .cache => none

/-- What a panic leaves behind: of its work, the stage has told of the overrides that it
has applied. -/
def abandon (world : World) : Stage → World
  | .configuration path =>
      world.logOverrides path (world.environment.take ((world.foreign.map Foreign.before).getD 0))
  | .logging | .metrics | .database _ | .cache => world

def attempt (world : World) (stage : Stage) : Outcome × World :=
  match world.panic? stage with
  | some message => (.panicked message, world.abandon stage)
  | none =>
      let (result, next) := world.perform stage
      (.of result, next)

end World

end Bringup
