import Bringup.Json.Value
import Bringup.Text.Quoted

namespace Bringup

/-! What the service logs.

Every event that the service can log is a constructor of `Event`; its level, the
part of the service it comes from, its message and its fields follow from that. -/

inductive Level where
  | trace
  | debug
  | info
  | warn
  | error
deriving DecidableEq, Repr

namespace Level

def rank : Level → Nat
  | error => 1
  | warn => 2
  | info => 3
  | debug => 4
  | trace => 5

def name : Level → String
  | trace => "TRACE"
  | debug => "DEBUG"
  | info => "INFO"
  | warn => "WARN"
  | error => "ERROR"

end Level

/-- The value of a field. A text that is a constant of the service is shown
between quotes, any other as it is. -/
inductive FieldValue where
  | shown (text : String)
  | constant (text : String)
  | number (number : Nat)
  | flag (isSet : Bool)
deriving DecidableEq, Repr

namespace FieldValue

def write : FieldValue → String
  | shown text => text
  | constant text => quoted text
  | number value => toString value
  | flag isSet => toString isSet

def toJson : FieldValue → Json
  | shown text | constant text => .text text
  | number value => .whole value
  | flag isSet => .flag isSet

end FieldValue

def serviceVersion : String := "0.1.0"

inductive Event where
  | overrideApplied (name : String)
  | configurationLoaded (path : String)
  | stepRegistered (step : String) (position : Nat)
  | duplicateRejected (step : String)
  | stepRunning (step : String)
  | stepCompleted (step : String)
  | stepFailed (step : String) (reason : String)
  | bootstrapComplete (steps : Nat)
  | bootstrapFailed (step : String) (reason : String)
  | serviceStarting
  | exporterListening (address : String)
  | metricsStarted (address : String)
  | databaseReady (maxConnections : Nat) (testMode : Bool)
  | cacheReady
  | listening (address : String)
  | serverStarting (address : String)
  | serverStopped
  | shutdownReceived
  | serverFailed (reason : String)
  | shutdownComplete
deriving DecidableEq, Repr

namespace Event

def level : Event → Level
  | overrideApplied _ | configurationLoaded _ | stepRegistered _ _ => .debug
  | duplicateRejected _ => .warn
  | stepFailed _ _ | bootstrapFailed _ _ | serverFailed _ => .error
  | _ => .info

def target : Event → String
  | overrideApplied _ | configurationLoaded _ => "account_service::config::loader"
  | stepRegistered _ _ | duplicateRejected _ | stepRunning _ | stepCompleted _ | stepFailed _ _
  | bootstrapComplete _ | bootstrapFailed _ _ => "account_service::lifecycle::manager"
  | serviceStarting | metricsStarted _ => "account_service::lifecycle::startup"
  | exporterListening _ => "account_service::observability::metrics"
  | databaseReady _ _ => "account_service::database"
  | cacheReady => "account_service::cache"
  | serverStarting _ | serverStopped => "account_service::http::server"
  | shutdownReceived => "account_service::lifecycle::signals"
  | listening _ | serverFailed _ | shutdownComplete => "account_service"

def message : Event → String
  | overrideApplied _ => "Applied configuration override"
  | configurationLoaded _ => "Configuration file loaded"
  | stepRegistered _ _ => "Initialization step registered"
  | duplicateRejected _ => "Rejected duplicate initialization step"
  | stepRunning _ => "Running initialization step"
  | stepCompleted _ => "Initialization step completed"
  | stepFailed _ _ => "Initialization step failed"
  | bootstrapComplete _ => "Bootstrap complete"
  | bootstrapFailed _ _ => "Bootstrap failed, application not started"
  | serviceStarting => "account-service starting"
  | exporterListening _ | metricsStarted _ => "Metrics exporter listening"
  | databaseReady _ _ => "Database pool ready"
  | cacheReady => "Cache connection ready"
  | listening _ => "Listening for connections"
  | serverStarting _ => "HTTP server starting"
  | serverStopped => "HTTP server stopped"
  | shutdownReceived => "Shutdown signal received"
  | serverFailed _ => "HTTP server failed"
  | shutdownComplete => "Shutdown complete"

def fields : Event → List (String × FieldValue)
  | overrideApplied name => [("var", .shown name)]
  | configurationLoaded path => [("path", .shown path)]
  | stepRegistered step position => [("step", .shown step), ("position", .number position)]
  | duplicateRejected step | stepRunning step | stepCompleted step => [("step", .shown step)]
  | stepFailed step reason | bootstrapFailed step reason =>
      [("step", .shown step), ("error", .shown reason)]
  | bootstrapComplete steps => [("steps", .number steps)]
  | serviceStarting => [("version", .constant serviceVersion)]
  | exporterListening address | metricsStarted address | listening address
  | serverStarting address => [("address", .shown address)]
  | databaseReady maxConnections testMode =>
      [("max_connections", .number maxConnections), ("test_mode", .flag testMode)]
  | serverFailed reason => [("error", .shown reason)]
  | cacheReady | serverStopped | shutdownReceived | shutdownComplete => []

/-- The names that an event carries. The message counts as a field, and so does
the time that a step or a whole start took, which no line shows. -/
def fieldNames (event : Event) : List String :=
  let timed := match event with
    | stepCompleted _ | bootstrapComplete _ => ["elapsed_ms"]
    | _ => []
  "message" :: (event.fields.map fun field => field.1) ++ timed

def line (event : Event) : String :=
  String.intercalate " "
    (event.message :: event.fields.map fun field => field.1 ++ "=" ++ field.2.write)

def members (event : Event) : List (String × Json) :=
  ("message", .text event.message) ::
    event.fields.map fun field => (field.1, field.2.toJson)

example : line .serviceStarting = "account-service starting version=\"0.1.0\"" := by
  decide +kernel

example : line (.stepRegistered "cache" 4) =
    "Initialization step registered step=cache position=4" := by decide +kernel

end Event

end Bringup
