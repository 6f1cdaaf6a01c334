import Bringup.Config.Load
import Bringup.Proofs.Overriding

namespace Bringup

/-! The fields of a configuration, one by one.

In a document whose sections are tables each field is decoded from what the document holds
at one target, and of that only the outline counts. Such a document describes a
configuration exactly if every field decodes to the field's value
(`Config.ofDocument_eq_ok_iff`), and two documents of one outline describe the same
(`Config.ofDocument_congr`). -/

namespace Field

def target (field : Field) : Target := ⟨field.home.name, field.key⟩

theorem target_injective {first second : Field} (same : first.target = second.target) :
    first = second := by
  have sections : first.home.name = second.home.name := congrArg Target.sectionName same
  have keys : first.key = second.key := congrArg Target.key same
  apply eq_of_home_key _ keys
  cases first <;> cases second <;> first | rfl | simp [home, Section.name] at sections

theorem named?_target (field : Field) :
    named? field.target.sectionName field.target.key = some field := field.named?_self

theorem named?_eq_some_iff {target : Target} {field : Field} :
    named? target.sectionName target.key = some field ↔ field.target = target := by
  constructor
  · intro named
    have known := List.find?_some named
    simp only [Bool.and_eq_true, decide_eq_true_eq] at known
    rw [Field.target, known.1, known.2]
  · rintro rfl
    exact field.named?_target

theorem home_of_mem {chosen : Section} {field : Field} (member : field ∈ chosen.fieldsByKey) :
    field.home = chosen := by
  cases chosen <;> cases field <;> first | rfl | simp [Section.fieldsByKey] at member

/-- Only one field has no default that a document could hold. -/
theorem exists_defaultToml {field : Field} (given : field ≠ .databaseTestUrl) :
    ∃ value, field.defaultToml = some value := by
  cases field with
  | databaseTestUrl => exact absurd rfl given
  | _ => exact ⟨_, rfl⟩

end Field

namespace Kind

/-- Decoding sees the outline of an entry only. -/
theorem decode_congr (kind : Kind) {first second : Toml.Value}
    (same : Outline.of first = Outline.of second) : kind.decode first = kind.decode second := by
  unfold decode
  rw [same]

theorem decodeOr_congr (kind : Kind) (default : kind.Carrier) {first second : Option Toml.Value}
    (same : first.map Outline.of = second.map Outline.of) :
    kind.decodeOr default first = kind.decodeOr default second := by
  cases first <;> cases second
  · rfl
  · cases same
  · cases same
  · exact kind.decode_congr (Option.some.inj same)

end Kind

namespace Expectation

theorem ofEntry_congr {first second : Option Toml.Value}
    (same : first.map Outline.of = second.map Outline.of) : ofEntry first = ofEntry second := by
  cases first with
  | none =>
      cases second with
      | none => rfl
      | some _ => cases same
  | some value =>
      cases second with
      | none => cases same
      | some other =>
          cases value <;> cases other <;>
            first
            | rfl
            | simp [Outline.of] at same

end Expectation

namespace Toml.Table

def HasTables (document : Toml.Table) : Prop :=
  ∀ chosen : Section, document.isTabular chosen.name = true

theorem entry?_of_tabular {document : Toml.Table} {field : Field}
    (tabular : document.isTabular field.home.name = true) :
    document.entry? field = document.at? field.target := by
  unfold isTabular at tabular
  unfold entry? at? Field.target
  split at tabular <;> rename_i held
  · simp [held]
  · simp [held, Value.entry?]
  · cases tabular

theorem decodeField_eq {document : Toml.Table} (tables : document.HasTables) (field : Field) :
    document.decodeField field =
      field.kind.decodeOr field.default (document.at? field.target) := by
  rw [decodeField, entry?_of_tabular (tables field.home)]

theorem misfit?_eq_none_iff {document : Toml.Table} {field : Field} :
    document.misfit? field = none ↔ ∃ value, document.decodeField field = .ok value := by
  unfold misfit?
  cases document.decodeField field <;> simp

theorem sectionFault?_of_tabular {document : Toml.Table} {chosen : Section}
    (tabular : document.isTabular chosen.name = true) :
    document.sectionFault? chosen =
      chosen.fieldsByKey.findSome? fun field =>
        (document.misfit? field).map fun misfit => ⟨[chosen.name, field.key], misfit⟩ := by
  unfold isTabular at tabular
  unfold sectionFault?
  split at tabular <;> rename_i held <;> simp only [held]
  · symm
    rw [List.findSome?_eq_none_iff]
    intro field member
    rw [Option.map_eq_none_iff, misfit?_eq_none_iff]
    refine ⟨field.default, ?_⟩
    rw [decodeField, entry?, Field.home_of_mem member, held]
    rfl
  · cases tabular

theorem fault?_eq_none_iff {document : Toml.Table} (tables : document.HasTables) :
    document.fault? = none ↔ ∀ field, ∃ value, document.decodeField field = .ok value := by
  unfold fault?
  simp only [List.findSome?_eq_none_iff, sectionFault?_of_tabular (tables _),
    Option.map_eq_none_iff, misfit?_eq_none_iff]
  constructor
  · intro faultless field
    exact faultless field.home (Section.mem_byName _) field field.mem_fieldsByKey
  · intro decoded _ _ field _
    exact decoded field

end Toml.Table

namespace Override

open Toml (Table)

theorem expectation_congr {first second : Table} {target : Target}
    (same : Expectation.ofEntry (first.at? target) = Expectation.ofEntry (second.at? target)) :
    expectation first target = expectation second target := by
  rw [expectation_eq, expectation_eq]
  cases (Field.named? target.sectionName target.key).bind Field.defaultToml with
  | none => exact same
  | some value => rfl

theorem expectation_eq_default {field : Field} {value : Toml.Value}
    (default : field.defaultToml = some value) (document : Table) :
    expectation document field.target = Expectation.ofEntry (some value) := by
  rw [expectation_eq, Field.named?_target, Option.bind_some, default]
  rfl

end Override

namespace Override.ReadAlike

theorem hasTables {first second : Toml.Table} (alike : ReadAlike first second)
    (tables : second.HasTables) : first.HasTables :=
  fun chosen => (alike.tabular chosen.name).trans (tables chosen)

end Override.ReadAlike

namespace Config

open Toml (Table)

theorem ofDocument_eq_ok_iff {document : Table} (tables : document.HasTables)
    {config : Config} :
    ofDocument document = .ok config ↔
      ∀ field, document.decodeField field = .ok (config.get field) := by
  unfold ofDocument
  constructor
  · intro described field
    split at described
    · cases described
    · rename_i faultless
      cases described
      rcases (Table.fault?_eq_none_iff tables).mp faultless field with ⟨value, decoded⟩
      simp [reading, decoded]
  · intro decoded
    have faultless : document.fault? = none :=
      (Table.fault?_eq_none_iff tables).mpr fun field => ⟨_, decoded field⟩
    have same : reading document = config.get := by
      funext field
      simp [reading, decoded]
    rw [faultless, same]
    rfl

theorem ofDocument_congr {first second : Table} (firstTables : first.HasTables)
    (secondTables : second.HasTables)
    (same : ∀ field : Field, (first.at? field.target).map Outline.of =
      (second.at? field.target).map Outline.of) :
    ofDocument first = ofDocument second := by
  have decoded : first.decodeField = second.decodeField := by
    funext field
    rw [Table.decodeField_eq firstTables, Table.decodeField_eq secondTables]
    exact field.kind.decodeOr_congr _ (same field)
  have faults : first.fault? = second.fault? := by
    unfold Table.fault?
    have sections : first.sectionFault? = second.sectionFault? := by
      funext chosen
      simp only [Table.sectionFault?_of_tabular (firstTables _),
        Table.sectionFault?_of_tabular (secondTables _), Table.misfit?, decoded]
    rw [sections]
  have readings : reading first = reading second := by
    funext field
    simp only [reading, decoded]
  rw [ofDocument, ofDocument, faults, readings]

/-! ## Loading -/

theorem load_of_read {text : String} {document : Table} (read : Toml.read text = .ok document)
    (environment : List Variable) : load text environment = resolve document environment := by
  rw [load, read]

theorem load_filter_isOverride (text : String) (environment : List Variable) :
    load text (environment.filter Variable.isOverride) = load text environment := by
  unfold load resolve
  simp only [Override.applyAll_filter_isOverride]

theorem eq_ok_of_toOption {fault value : Type} {result : Except fault value} {expected : value}
    (given : result.toOption = some expected) : result = .ok expected := by
  cases result with
  | error => cases given
  | ok other =>
      cases given
      rfl

theorem load_eq_ok {text : String} {environment : List Variable} {config : Config}
    (given : (load text environment).toOption = some config) :
    load text environment = .ok config :=
  eq_ok_of_toOption given

theorem checked_eq_ok_iff {config other : Config} :
    config.checked = .ok other ↔ config.violations = [] ∧ config = other := by
  unfold checked
  split <;> rename_i found <;> simp [found]

/-- Loading succeeds if no override is at fault, what the overrides lead to decodes, and
the configuration is valid. -/
theorem resolve_eq_ok_iff {document : Table} {environment : List Variable}
    {config : Config} :
    resolve document environment = .ok config ↔
      ∃ overridden, Override.applyAll document environment = .ok overridden ∧
        ofDocument overridden = .ok config ∧ config.violations = [] := by
  unfold resolve
  constructor
  · intro resolved
    split at resolved
    · cases resolved
    · rename_i overridden applied
      split at resolved
      · cases resolved
      · rename_i described
        rcases checked_eq_ok_iff.mp resolved with ⟨valid, rfl⟩
        exact ⟨overridden, applied, described, valid⟩
  · rintro ⟨overridden, applied, described, valid⟩
    simp only [applied, described]
    exact checked_eq_ok_iff.mpr ⟨valid, rfl⟩

theorem violations_of_loadFile {files : Files} {path : String} {environment : List Variable}
    {config : Config} (loaded : loadFile files path environment = .ok config) :
    config.violations = [] := by
  unfold loadFile load at loaded
  split at loaded
  · cases loaded
  · split at loaded
    · cases loaded
    · rcases resolve_eq_ok_iff.mp loaded with ⟨overridden, _, _, valid⟩
      exact valid

end Config

end Bringup
