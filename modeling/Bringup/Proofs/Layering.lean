import Mathlib
import Bringup.Proofs.Naming

namespace Bringup

/-! Where the fields of a configuration come from.

Each field has the value that the last variable naming it carries; without such a variable
the value that the document holds; and without that its default (`Field.layered?`). Beyond
these nothing decides about a configuration, and variables and entries that name no field
can be left out (`Config.load_layers`). -/

namespace Kind

/-- What the text of a variable says for a field. A whole number is read as one of 64 bits
with a sign. -/
def read? : (kind : Kind) → String → Option kind.Carrier
  | text, written => some written
  | optionalText, written => some (some written)
  | whole _, written =>
      match WholeNumber.read? written with
      | some number => if 0 ≤ number then some number.toNat else none
      | none => none
  | flag, written =>
      if written = "true" then some true
      else if written = "false" then some false
      else none

theorem read?_of_decode {kind : Kind} {expected : Expectation} {written : String}
    {entry : Toml.Value} {value : kind.Carrier}
    (read : expected.read? written = some entry) (decoded : kind.decode entry = .ok value) :
    kind.read? written = some value := by
  cases expected with
  | text =>
      cases read
      cases kind <;> cases decoded <;> rfl
  | whole =>
      rcases Option.map_eq_some_iff.mp read with ⟨number, found, rfl⟩
      cases kind with
      | whole bits =>
          simp only [decode, Outline.of] at decoded
          split at decoded
          · rename_i inRange
            cases decoded
            simp [read?, found, inRange.1]
          · cases decoded
      | text | optionalText | flag => cases decoded
  | real =>
      rcases Option.map_eq_some_iff.mp read with ⟨number, _, rfl⟩
      cases kind <;> cases decoded
  | flag =>
      simp only [Expectation.read?] at read
      split at read
      · rename_i isTrue
        cases read
        cases kind <;> cases decoded
        simp [read?, isTrue]
      · split at read
        · rename_i isFalse
          cases read
          cases kind <;> cases decoded
          simp [read?, isFalse]
        · cases read

end Kind

namespace Override

def assignments (environment : List Variable) : List (Field × String) :=
  environment.filterMap fun assigned =>
    assigned.field?.map fun field => (field, assigned.value)

theorem mem_assignments_iff {environment : List Variable} {field : Field} {written : String} :
    (field, written) ∈ assignments environment ↔
      ∃ assigned ∈ environment, assigned.field? = some field ∧ assigned.value = written := by
  simp only [assignments, List.mem_filterMap, Option.map_eq_some_iff, Prod.mk.injEq]
  constructor
  · rintro ⟨assigned, member, _, named, rfl, rfl⟩
    exact ⟨assigned, member, named, rfl⟩
  · rintro ⟨assigned, member, named, rfl⟩
    exact ⟨assigned, member, field, named, rfl, rfl⟩

theorem carried_eq (environment : List Variable) (field : Field) :
    (environment.filter fun assigned => assigned.target? = some field.target).map
        Variable.value =
      ((assignments environment).filter fun entry => entry.1 = field).map Prod.snd := by
  unfold assignments
  induction environment with
  | nil => rfl
  | cons assigned rest induction =>
      simp only [List.filter_cons, List.filterMap_cons, ← Variable.field?_eq_some_iff]
      simp only [← Variable.field?_eq_some_iff] at induction
      cases named : assigned.field? with
      | none => simpa using induction
      | some other => by_cases same : other = field <;> simpa [same] using induction

theorem lastWritten?_eq (environment : List Variable) (field : Field) :
    lastWritten? environment field.target =
      (((assignments environment).filter fun entry => entry.1 = field).map
        Prod.snd).getLast? := by
  rw [← carried_eq, lastWritten?, List.getLast?_map]

/-- No variable is at fault that makes an assignment which is made elsewhere without a fault,
over a document that holds the same for the fields. -/
theorem firstFault?_of_assignments {document other : Toml.Table}
    {environment otherEnvironment : List Variable} (tables : document.HasTables)
    (otherTables : other.HasTables)
    (held : ∀ field : Field, other.at? field.target = document.at? field.target)
    (same : assignments otherEnvironment = assignments environment)
    (names : ∀ assigned ∈ otherEnvironment, assigned.isOverride = true →
      assigned.field?.isSome = true)
    (faultless : firstFault? document environment = none) :
    firstFault? other otherEnvironment = none := by
  rw [firstFault?_eq_none_iff] at faultless ⊢
  intro assigned member
  cases prefixed : path? assigned.name with
  | none => simp [fault?, prefixed]
  | some path =>
      -- The variable sets a field, and one that sets it to the same text is without a fault.
      have isOverride : assigned.isOverride = true := by simp [Variable.isOverride, prefixed]
      rcases Option.isSome_iff_exists.mp (names assigned member isOverride) with ⟨field, named⟩
      have assignment : (field, assigned.value) ∈ assignments environment := by
        rw [← same]
        exact mem_assignments_iff.mpr ⟨assigned, member, named, rfl⟩
      rcases mem_assignments_iff.mp assignment with
        ⟨original, originalMember, originalNamed, value⟩
      have expected : expectation other field.target = expectation document field.target := by
        rw [expectation_eq, expectation_eq, held]
      rw [Variable.fault?_of_field named (otherTables field.home), expected, ← value,
        ← Variable.fault?_of_field originalNamed (tables field.home)]
      exact faultless original originalMember

theorem lastWritten?_recased {first second : List Variable}
    (recased : List.Forall₂ Variable.Recased first second) (target : Target) :
    lastWritten? first target = lastWritten? second target := by
  induction recased with
  | nil => rfl
  | cons same _ induction =>
      rw [lastWritten?_cons, lastWritten?_cons, induction, same.target?_eq, same.1]

theorem firstFault?_recased {first second : List Variable}
    (recased : List.Forall₂ Variable.Recased first second) {document : Toml.Table}
    (faultless : firstFault? document first = none) : firstFault? document second = none := by
  rw [firstFault?_eq_none_iff] at faultless ⊢
  induction recased with
  | nil => exact faultless
  | cons same _ induction =>
      rw [List.forall_mem_cons] at faultless ⊢
      rw [← same.fault?_eq]
      exact ⟨faultless.1, induction faultless.2⟩

end Override

namespace Field

/-- The value of a field: what the last variable that names it says, or else what the
document holds, or else the default. -/
def layered? (field : Field) (document : Toml.Table) (environment : List Variable) :
    Option field.kind.Carrier :=
  match Override.lastWritten? environment field.target with
  | some written => field.kind.read? written
  | none =>
      match document.at? field.target with
      | some entry => (field.kind.decode entry).toOption
      | none => some field.default

end Field

namespace Config

open Toml (Table)
open Override (lastWritten? firstFault? assignments)

theorem layered?_of_resolve {document : Table} {environment : List Variable} {config : Config}
    (tables : document.HasTables) (resolved : resolve document environment = .ok config)
    (field : Field) : field.layered? document environment = some (config.get field) := by
  rcases resolve_eq_ok_iff.mp resolved with ⟨overridden, applied, described, _⟩
  rcases Override.applyAll_eq_ok applied with ⟨faultless, alike, holds⟩
  have decoded := (ofDocument_eq_ok_iff (alike.hasTables tables)).mp described field
  rw [Table.decodeField_eq (alike.hasTables tables), holds] at decoded
  unfold Field.layered?
  cases last : lastWritten? environment field.target with
  | some written =>
      rcases Override.exists_read_of_lastWritten? faultless last with ⟨entry, read⟩
      simp only [last, read] at decoded
      exact Kind.read?_of_decode read decoded
  | none =>
      simp only [last] at decoded
      cases held : document.at? field.target with
      | some entry =>
          simp only [held, Kind.decodeOr] at decoded
          simp only [decoded]
          rfl
      | none =>
          simp only [held, Kind.decodeOr, Except.ok.injEq] at decoded
          exact congrArg some decoded

/-- A load succeeds like another one if none of its overrides is at fault, and if the two
agree on what is held and on what is last written for each field. -/
theorem resolve_of_agree {document other : Table} {environment otherEnvironment : List Variable}
    {config : Config} (tables : document.HasTables) (otherTables : other.HasTables)
    (resolved : resolve document environment = .ok config)
    (faultless : firstFault? other otherEnvironment = none)
    (held : ∀ field : Field, other.at? field.target = document.at? field.target)
    (written : ∀ field : Field,
      lastWritten? otherEnvironment field.target = lastWritten? environment field.target) :
    resolve other otherEnvironment = .ok config := by
  rcases resolve_eq_ok_iff.mp resolved with ⟨overridden, applied, described, valid⟩
  rcases Override.applyAll_eq_ok applied with ⟨_, alike, holds⟩
  rcases Override.applyAll_of_no_fault faultless with ⟨result, appliedOther, alikeOther, holdsOther⟩
  refine resolve_eq_ok_iff.mpr ⟨result, appliedOther, ?_, valid⟩
  rw [← described]
  apply ofDocument_congr (alikeOther.hasTables otherTables) (alike.hasTables tables)
  intro field
  rw [holdsOther, holds, written field, held field, Override.expectation_eq,
    Override.expectation_eq, held field]

/-- If loading succeeds, every field comes from the last variable that names it, from the
document or from its default. Another load whose variables make the same assignments over a
document with the same entries for the fields comes to the same configuration if it
succeeds, and does succeed if its overrides name fields only. Variables without the prefix
and the letter case of the names behind it play no part at all. -/
theorem load_layers {text : String} {environment : List Variable} {document : Table}
    {config : Config} (read : Toml.read text = .ok document) (tables : document.HasTables)
    (loaded : load text environment = .ok config) :
    (∀ field : Field, field.layered? document environment = some (config.get field)) ∧
      (∀ otherText otherEnvironment otherDocument,
        Toml.read otherText = .ok otherDocument → otherDocument.HasTables →
        (∀ field : Field, otherDocument.at? field.target = document.at? field.target) →
        assignments otherEnvironment = assignments environment →
        (∀ other, load otherText otherEnvironment = .ok other → other = config) ∧
          ((∀ assigned ∈ otherEnvironment, assigned.isOverride = true →
              assigned.field?.isSome = true) →
            load otherText otherEnvironment = .ok config)) ∧
      ∀ recased, List.Forall₂ Variable.Recased (environment.filter Variable.isOverride)
          (recased.filter Variable.isOverride) →
        load text recased = .ok config := by
  have overrides := (load_filter_isOverride text environment).trans loaded
  rw [load_of_read read] at loaded overrides
  have layers := layered?_of_resolve tables loaded
  rcases resolve_eq_ok_iff.mp loaded with ⟨overridden, applied, _⟩
  have faultless := (Override.applyAll_eq_ok applied).1
  refine ⟨layers, ?_, ?_⟩
  · intro otherText otherEnvironment otherDocument otherRead otherTables held same
    rw [load_of_read otherRead]
    have written : ∀ field : Field, lastWritten? otherEnvironment field.target =
        lastWritten? environment field.target := by
      intro field
      rw [Override.lastWritten?_eq, Override.lastWritten?_eq, same]
    constructor
    · intro other otherLoaded
      apply ext_get
      intro field
      have otherLayer := layered?_of_resolve otherTables otherLoaded field
      rw [Field.layered?, written, held, ← Field.layered?, layers] at otherLayer
      exact (Option.some.inj otherLayer).symm
    · intro names
      exact resolve_of_agree tables otherTables loaded
        (Override.firstFault?_of_assignments tables otherTables held same names faultless)
        held written
  · intro recased alike
    rcases resolve_eq_ok_iff.mp overrides with ⟨_, appliedOverrides, _⟩
    rw [← load_filter_isOverride, load_of_read read]
    exact resolve_of_agree tables tables overrides
      (Override.firstFault?_recased alike (Override.applyAll_eq_ok appliedOverrides).1)
      (fun _ => rfl) fun field => (Override.lastWritten?_recased alike field.target).symm

def repeated : List Variable :=
  [⟨"HOME", "/root"⟩, ⟨"APP__DATABASE__MAX_CONNECTIONS", "7"⟩, ⟨"APP__CACHE__COLOR", "red"⟩,
    ⟨"APP__DATABASE__MAX_CONNECTIONS", "32"⟩, ⟨"APP__OBSERVABILITY__JSON", "true"⟩]

theorem load_repeated :
    (∀ field : Field,
      field.layered? [("database", .table [("max_connections", .whole 4), ("note", .whole 1)])]
          repeated =
        some (get { database := { maxConnections := 32 }, observability := { json := true } }
          field)) ∧
      load "[database]\nmax_connections = 4\n"
          (repeated.filter fun assigned => assigned.field?.isSome) =
        .ok { database := { maxConnections := 32 }, observability := { json := true } } ∧
      load "[database]\nmax_connections = 4\nnote = 1\n"
          [⟨"APP__database__MAX_CONNECTIONS", "7"⟩, ⟨"APP__Cache__Color", "red"⟩,
            ⟨"APP__Database__max_connections", "32"⟩, ⟨"APP__observability__JSON", "true"⟩,
            ⟨"app__DATABASE__MAX_CONNECTIONS", "5"⟩] =
        .ok { database := { maxConnections := 32 }, observability := { json := true } } := by
  have read : Toml.read "[database]\nmax_connections = 4\nnote = 1\n" =
      .ok [("database", .table [("max_connections", .whole 4), ("note", .whole 1)])] := by cbv
  have otherRead : Toml.read "[database]\nmax_connections = 4\n" =
      .ok [("database", .table [("max_connections", .whole 4)])] := by cbv
  have loaded : load "[database]\nmax_connections = 4\nnote = 1\n" repeated =
      .ok { database := { maxConnections := 32 }, observability := { json := true } } :=
    load_eq_ok (by decide +kernel)
  have layers := load_layers read (fun chosen => by cases chosen <;> rfl) loaded
  refine ⟨layers.1, ?_, ?_⟩
  · have transferred := layers.2.1 _ (repeated.filter fun assigned => assigned.field?.isSome) _
      otherRead (fun chosen => by cases chosen <;> rfl) (fun field => by cases field <;> rfl)
      (by decide +kernel)
    exact transferred.2 (by decide +kernel)
  · exact layers.2.2 _ (by decide +kernel)

end Config

end Bringup
