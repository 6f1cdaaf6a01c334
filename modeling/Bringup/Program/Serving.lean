import Bringup.Http.Endpoint
import Bringup.Lifecycle.Startup
import Bringup.Program.Exit

namespace Bringup

/-! The service as a program.

It bootstraps, initializes the steps that are still pending, and then answers
requests until it is told to shut down. Nothing listens for requests before every
step is completed. -/

namespace Serving

def defaultPath : String := "config/account-service.toml"

def configChoice : CommandLine.Choice where
  short := some 'c'
  long := "config"
  role := .value "CONFIG" true
  description := "Path to the TOML configuration file"
  default := some defaultPath

def testModeChoice : CommandLine.Choice where
  long := "test-mode"
  role := .switch
  description := "Use \x60database.test_url\x60 instead of \x60database.url\x60"

def command : CommandLine.Command where
  path := "account-service"
  description := "Account service backend"
  version := some serviceVersion
  choices := [configChoice, testModeChoice, CommandLine.helpChoice, CommandLine.versionChoice]

structure Options where
  configPath : String := defaultPath
  testMode : Bool := false
deriving DecidableEq, Repr

namespace Options

def read (arguments : List String) : Except CommandLine.Notice Options := do
  let progress ← command.parseOptions arguments
  return {
    configPath := (progress.value? configChoice.long).getD defaultPath
    testMode := progress.isGiven testModeChoice.long }

example : (read ["--test-mode", "-cmy.toml"]).toOption = some ⟨"my.toml", true⟩ := by
  decide +kernel

example : (read ["--config", ""]).toOption = none ∧ (read ["x"]).toOption = none := by
  decide +kernel

end Options

/-- Who answered a request. The exporter answers whatever it is asked with what has been
measured. -/
inductive Reception where
  | byServer (response : HttpResponse)
  | byExporter
deriving DecidableEq, Repr

/-- How a run of the service went. A request that reached nobody has no
reception. -/
structure Run where
  exit : Exit
  receptions : List (Option Reception)
  world : World

end Serving

namespace Service

/-- What becomes of requests that are sent where the network says, while the sockets
listen that have been opened. -/
def receive (service : Service) (requests : List HttpRequest) :
    List (Option Serving.Reception) :=
  let listener? := (SocketAddress.read? service.world.network.http).bind service.world.listenerAt?
  requests.map fun request => listener?.map fun
    | .server => .byServer (Http.respond service.manager service.world.context request)
    | .exporter => .byExporter

def answerAll (service : Service) (address : SocketAddress) (requests : List HttpRequest) :
    List (Option Serving.Reception) × Service :=
  let bound := service.record (.bound .server address)
  let listening := bound.log (.listening address.write)
  let serving := listening.record (.serverEvent (.serverStarting address.write))
  let signalled := serving.log .shutdownReceived
  (serving.receive requests, signalled.record (.serverEvent .serverStopped))

def serve (service : Service) (requests : List HttpRequest) : Serving.Run :=
  let failed := fun reason =>
    { exit := .failure
      receptions := service.receive requests
      world := (service.log (.serverFailed reason)).world : Serving.Run }
  match service.world.context.getConfig with
  | .error fault => failed fault.message
  | .ok config =>
      match SocketAddress.read? config.server.bindAddress with
      | none => failed Cause.invalidAddress.message
      | some address =>
          match service.world.bind .server address with
          | .error fault => failed fault.message
          | .ok chosen =>
              let (receptions, stopped) := service.answerAll chosen requests
              { exit := .success, receptions, world := (stopped.log .shutdownComplete).world }

end Service

namespace Serving

/-- What a failed bootstrap says, since the log may not be written yet. -/
def bootstrapMessage (fault : InitError) : String :=
  "account-service: bootstrap failed: " ++ fault.message ++ "\n"

def run (world : World) (options : Options) (requests : List HttpRequest) : Run :=
  let ended := fun (exit : Exit) (service : Service) =>
    { exit, receptions := service.receive requests, world := service.world : Run }
  match Service.bootstrap { world } options.configPath options.testMode with
  | (.panicked message, next) => ended (.panicked message) next
  | (.returned (.error fault), next) =>
      ended { code := 1, errorOutput := bootstrapMessage fault } next
  | (.returned (.ok ()), next) =>
      match next.prepare with
      | (.panicked message, last) => ended (.panicked message) last
      | (.returned (.error _), last) => ended .failure last
      | (.returned (.ok ()), last) => last.serve requests

def launch (world : World) (arguments : List String) (requests : List HttpRequest) : Run :=
  match Options.read arguments with
  | .error notice =>
      { exit := .ofNotice notice, receptions := requests.map fun _ => none, world }
  | .ok options => run world options requests

end Serving

end Bringup
