import Bringup.Config.Schema
import Bringup.Net.Url
import Bringup.Text.Quoted

namespace Bringup

/-! The rules that a configuration obeys beyond its types.

Each field has at most one complaint, found from that field alone, except that
the address of the metrics is looked at only where metrics are enabled. All
complaints are reported, in the order of `Field.all`. -/

inductive Complaint where
  | invalidAddress (address : String)
  | notPositive
  | unsupportedScheme (scheme : String) (supported : List String)
  | invalidUrl (fault : UrlError)
  | unknownLevel (level : String)
deriving DecidableEq, Repr

namespace Complaint

/-- The text of a URL is never shown, as it may hold a password. -/
def message : Complaint → String
  | invalidAddress address =>
      "invalid address '" ++ address ++ "': invalid socket address syntax"
  | notPositive => "must be greater than zero"
  | unsupportedScheme scheme supported =>
      "unsupported scheme '" ++ scheme ++ "', expected one of [" ++
        String.intercalate ", " (supported.map quoted) ++ "]"
  | invalidUrl fault => "invalid URL: " ++ fault.message
  | unknownLevel level => "unknown level '" ++ level ++ "'"

end Complaint

structure Violation where
  field : Field
  complaint : Complaint
deriving DecidableEq, Repr

namespace Violation

def line (path message : String) : String := path ++ ": " ++ message

def message (violation : Violation) : String :=
  line violation.field.path violation.complaint.message

end Violation

namespace Validation

def databaseSchemes : List String := ["postgres", "postgresql"]

def cacheSchemes : List String := ["redis", "rediss"]

def levels : List String := ["trace", "debug", "info", "warn", "error"]

def addressComplaint? (address : String) : Option Complaint :=
  match SocketAddress.read? address with
  | some _ => none
  | none => some (.invalidAddress address)

def positiveComplaint? (number : Nat) : Option Complaint :=
  if number = 0 then some .notPositive else none

def urlComplaint? (supported : List String) (url : String) : Option Complaint :=
  match Url.read url with
  | .error fault => some (.invalidUrl fault)
  | .ok parsed =>
      if parsed.scheme ∈ supported then none
      else some (.unsupportedScheme parsed.scheme supported)

def levelComplaint? (level : String) : Option Complaint :=
  if String.ofList (level.toList.map Char.toLower) ∈ levels then none
  else some (.unknownLevel level)

def complaint? (config : Config) : Field → Option Complaint
  | .serverBindAddress => addressComplaint? config.server.bindAddress
  | .serverRequestTimeout => positiveComplaint? config.server.requestTimeoutSecs
  | .databaseUrl => urlComplaint? databaseSchemes config.database.url
  | .databaseTestUrl => config.database.testUrl.bind (urlComplaint? databaseSchemes)
  | .databaseMaxConnections => positiveComplaint? config.database.maxConnections
  | .databaseConnectTimeout => positiveComplaint? config.database.connectTimeoutSecs
  | .cacheUrl => urlComplaint? cacheSchemes config.cache.url
  | .cacheConnectTimeout => positiveComplaint? config.cache.connectTimeoutSecs
  | .logLevel => levelComplaint? config.observability.logLevel
  | .logJson | .metricsEnabled => none
  | .metricsAddress =>
      if config.observability.metricsEnabled then
        addressComplaint? config.observability.metricsAddress
      else none

end Validation

namespace Config

def violations (config : Config) : List Violation :=
  Field.all.filterMap fun field =>
    (Validation.complaint? config field).map fun complaint => ⟨field, complaint⟩

def IsValid (config : Config) : Prop :=
  ∀ field, Validation.complaint? config field = none

theorem violations_eq_nil_iff (config : Config) : config.violations = [] ↔ config.IsValid := by
  simp only [violations, List.filterMap_eq_nil_iff, Option.map_eq_none_iff, IsValid]
  exact ⟨fun none field => none field (Field.mem_all field), fun valid field _ => valid field⟩

theorem mem_violations_iff (config : Config) (violation : Violation) :
    violation ∈ config.violations ↔
      Validation.complaint? config violation.field = some violation.complaint := by
  obtain ⟨field, complaint⟩ := violation
  simp only [violations, List.mem_filterMap, Option.map_eq_some_iff, Violation.mk.injEq]
  constructor
  · rintro ⟨_, _, _, found, rfl, rfl⟩
    exact found
  · intro found
    exact ⟨field, Field.mem_all field, complaint, found, rfl, rfl⟩

example : Config.default.violations = [] := by decide +kernel

end Config

end Bringup
