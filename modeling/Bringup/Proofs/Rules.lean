import Bringup.Proofs.Fields

namespace Bringup

/-! Which rules a configuration breaks.

A field obeys its rule or breaks it (`Config.Obeys`), and what is complained of is told by
the fields that the rule reads (`Validation.complaint?_congr`). Checking a configuration
hence reports the broken rules, each once and in the order of the fields, and no field
interferes with the report of another one (`Config.checked_complete`). -/

namespace Validation

def IsAddress (address : String) : Prop :=
  ∃ parsed, SocketAddress.read? address = some parsed

def IsUrl (schemes : List String) (url : String) : Prop :=
  ∃ parsed, Url.read url = .ok parsed ∧ parsed.scheme ∈ schemes

def IsLevel (level : String) : Prop :=
  ∃ known ∈ ["trace", "debug", "info", "warn", "error"],
    level.toList.map Char.toLower = known.toList.map Char.toLower

theorem addressComplaint?_eq_none_iff {address : String} :
    addressComplaint? address = none ↔ IsAddress address := by
  unfold addressComplaint? IsAddress
  cases SocketAddress.read? address <;> simp

theorem positiveComplaint?_eq_none_iff {number : Nat} :
    positiveComplaint? number = none ↔ 0 < number := by
  unfold positiveComplaint?
  split <;> simp <;> omega

theorem urlComplaint?_eq_none_iff {schemes : List String} {url : String} :
    urlComplaint? schemes url = none ↔ IsUrl schemes url := by
  unfold urlComplaint? IsUrl
  cases Url.read url with
  | error fault => simp
  | ok parsed => simp

theorem levelComplaint?_eq_none_iff {level : String} :
    levelComplaint? level = none ↔ IsLevel level := by
  have folded : String.ofList (level.toList.map Char.toLower) ∈ levels ↔ IsLevel level := by
    -- The levels themselves are written in small letters.
    have small : ∀ known ∈ levels, known.toList.map Char.toLower = known.toList := by
      decide +kernel
    constructor
    · intro member
      refine ⟨_, member, ?_⟩
      rw [small _ member, String.toList_ofList]
    · rintro ⟨known, member, same⟩
      rw [same, small known member, String.ofList_toList]
      exact member
  rw [← folded]
  unfold levelComplaint?
  split <;> simp_all

end Validation

namespace Field

/-- The field whose rule reads a field. Each rule reads its own field only, apart from the
address of the metrics, which has to be one where metrics are enabled. -/
def ruledBy : Field → Field
  | .metricsEnabled => .metricsAddress
  | field => field

end Field

namespace Config

open Validation

/-- What each field has to be in a valid configuration. -/
def Obeys (config : Config) : Field → Prop
  | .serverBindAddress => IsAddress config.server.bindAddress
  | .serverRequestTimeout => 0 < config.server.requestTimeoutSecs
  | .databaseUrl => IsUrl ["postgres", "postgresql"] config.database.url
  | .databaseTestUrl =>
      ∀ url, config.database.testUrl = some url → IsUrl ["postgres", "postgresql"] url
  | .databaseMaxConnections => 0 < config.database.maxConnections
  | .databaseConnectTimeout => 0 < config.database.connectTimeoutSecs
  | .cacheUrl => IsUrl ["redis", "rediss"] config.cache.url
  | .cacheConnectTimeout => 0 < config.cache.connectTimeoutSecs
  | .logLevel => IsLevel config.observability.logLevel
  | .logJson | .metricsEnabled => True
  | .metricsAddress =>
      config.observability.metricsEnabled = true → IsAddress config.observability.metricsAddress

theorem complaint?_eq_none_iff {config : Config} {field : Field} :
    complaint? config field = none ↔ config.Obeys field := by
  cases field with
  | serverBindAddress => exact addressComplaint?_eq_none_iff
  | serverRequestTimeout | databaseMaxConnections | databaseConnectTimeout
  | cacheConnectTimeout => exact positiveComplaint?_eq_none_iff
  | databaseUrl | cacheUrl => exact urlComplaint?_eq_none_iff
  | databaseTestUrl =>
      unfold complaint? Obeys
      cases config.database.testUrl with
      | none => simp
      | some url => simpa [databaseSchemes] using @urlComplaint?_eq_none_iff databaseSchemes url
  | logLevel => exact levelComplaint?_eq_none_iff
  | logJson | metricsEnabled => simp [complaint?, Obeys]
  | metricsAddress =>
      unfold complaint? Obeys
      cases config.observability.metricsEnabled with
      | false => simp
      | true => simpa using addressComplaint?_eq_none_iff

instance (config : Config) : DecidablePred config.Obeys :=
  fun _ => decidable_of_iff _ complaint?_eq_none_iff

theorem violations_eq_nil_iff_obeys {config : Config} :
    config.violations = [] ↔ ∀ field, config.Obeys field := by
  rw [violations_eq_nil_iff]
  exact forall_congr' fun _ => complaint?_eq_none_iff

theorem checked_of_obeys {config : Config} (obeys : ∀ field, config.Obeys field) :
    config.checked = .ok config :=
  checked_eq_ok_iff.mpr ⟨violations_eq_nil_iff_obeys.mpr obeys, rfl⟩

theorem checked_of_violations {config : Config} (found : config.violations ≠ []) :
    config.checked = .error (.invalid config.violations) := by
  unfold checked
  split
  · rename_i none
    exact absurd none found
  · rename_i first rest violations
    rw [violations]

/-- A complaint depends on nothing but the fields that its rule reads. -/
theorem complaint?_congr {config other : Config} {field : Field}
    (same : ∀ read : Field, read.ruledBy = field → other.get read = config.get read) :
    complaint? other field = complaint? config field := by
  cases field with
  | serverBindAddress => exact congrArg addressComplaint? (same .serverBindAddress rfl)
  | serverRequestTimeout => exact congrArg positiveComplaint? (same .serverRequestTimeout rfl)
  | databaseUrl => exact congrArg (urlComplaint? databaseSchemes) (same .databaseUrl rfl)
  | databaseTestUrl =>
      exact congrArg (fun url : Option String => url.bind (urlComplaint? databaseSchemes))
        (same .databaseTestUrl rfl)
  | databaseMaxConnections => exact congrArg positiveComplaint? (same .databaseMaxConnections rfl)
  | databaseConnectTimeout => exact congrArg positiveComplaint? (same .databaseConnectTimeout rfl)
  | cacheUrl => exact congrArg (urlComplaint? cacheSchemes) (same .cacheUrl rfl)
  | cacheConnectTimeout => exact congrArg positiveComplaint? (same .cacheConnectTimeout rfl)
  | logLevel => exact congrArg levelComplaint? (same .logLevel rfl)
  | logJson | metricsEnabled => rfl
  | metricsAddress =>
      have enabled : other.observability.metricsEnabled = config.observability.metricsEnabled :=
        same .metricsEnabled rfl
      have address : other.observability.metricsAddress = config.observability.metricsAddress :=
        same .metricsAddress rfl
      simp only [complaint?, enabled, address]

theorem map_field_violations (config : Config) :
    config.violations.map Violation.field =
      Field.all.filter fun field => ¬ config.Obeys field := by
  rw [violations, List.map_filterMap, ← List.filterMap_eq_filter]
  congr 1
  funext field
  cases found : complaint? config field with
  | none => simp [Option.guard, complaint?_eq_none_iff.mp found]
  | some complaint =>
      have broken : ¬ config.Obeys field := by
        rw [← complaint?_eq_none_iff, found]
        exact Option.some_ne_none complaint
      simp [Option.guard, broken]

theorem filter_violations_congr {config other : Config} {apart : Field}
    (same : ∀ field ≠ apart, complaint? other field = complaint? config field) :
    other.violations.filter (fun violation => violation.field ≠ apart) =
      config.violations.filter fun violation => violation.field ≠ apart := by
  rw [violations, violations, List.filter_filterMap, List.filter_filterMap]
  congr 1
  funext field
  by_cases here : field = apart
  · cases complaint? other field <;> cases complaint? config field <;>
      simp [here, Option.filter]
  · rw [same field here]

theorem violations_of_only {config : Config} {field : Field} {complaint : Complaint}
    (found : complaint? config field = some complaint)
    (others : ∀ other ≠ field, config.Obeys other) : config.violations = [⟨field, complaint⟩] := by
  have broken : ¬ config.Obeys field := by
    rw [← complaint?_eq_none_iff, found]
    exact Option.some_ne_none complaint
  have fields : config.violations.map Violation.field = [field] := by
    rw [map_field_violations]
    have alone : ∀ other, decide (¬ config.Obeys other) = decide (other = field) := by
      intro other
      by_cases same : other = field
      · simp [same, broken]
      · simp [same, others other same]
    simp only [alone]
    cases field <;> rfl
  rcases List.map_eq_singleton_iff.mp fields with ⟨violation, reported, rfl⟩
  have member : violation ∈ config.violations := by
    rw [reported]
    exact List.mem_singleton_self violation
  rw [mem_violations_iff, found] at member
  rw [reported, Option.some.inj member]

/-- Checking a configuration accepts it if every field obeys its rule. Otherwise it reports
the broken rules, each once, none left out and in the order of the fields. A field that
changes leaves all of the report as it was but for the one rule that reads the field. -/
theorem checked_complete (config : Config) :
    (config.checked = .ok config ↔ ∀ field, config.Obeys field) ∧
      ((∃ field, ¬ config.Obeys field) →
        config.checked = .error (.invalid config.violations)) ∧
      config.violations.map Violation.field =
        Field.all.filter (fun field => ¬ config.Obeys field) ∧
      ∀ (other : Config) (changed : Field),
        (∀ field ≠ changed, other.get field = config.get field) →
        other.violations.filter (fun violation => violation.field ≠ changed.ruledBy) =
          config.violations.filter fun violation => violation.field ≠ changed.ruledBy := by
  refine ⟨?_, ?_, map_field_violations config, ?_⟩
  · rw [checked_eq_ok_iff, violations_eq_nil_iff_obeys]
    simp
  · intro broken
    apply checked_of_violations
    rw [ne_eq, violations_eq_nil_iff_obeys]
    exact Classical.not_forall.mpr broken
  · intro other changed same
    apply filter_violations_congr
    intro field apart
    apply complaint?_congr
    -- What the rule of another field reads has not changed.
    intro read rules
    apply same
    rintro rfl
    exact apart rules.symm

end Config

end Bringup
