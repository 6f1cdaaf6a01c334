import Mathlib
import Bringup.Proofs.Naming

namespace Bringup

/-! Configurations spelled by variables.

Every field can be set by a variable that carries the field's text, since what is written
for a value is read as that value (`Kind.decode_of_write?`). Variables for all fields of a
valid configuration hence bring that configuration about, whatever the document holds for
the fields (`Config.load_spelled`). -/

namespace WholeNumber

theorem readMagnitude?_toDigits (number : Nat) :
    readMagnitude? (Nat.toDigits 10 number) = some number := by
  have decimal : (Nat.toDigits 10 number).all Digits.isDecimal = true :=
    List.all_eq_true.mpr fun _ => Digits.isDecimal_of_mem_toDigits
  rw [readMagnitude?, if_pos ⟨Nat.toDigits_ne_nil, decimal⟩, Digits.value_toDigits]

theorem read?_toString {number : Nat} (fits : (number : Int) ≤ greatest) :
    read? (toString number) = some (number : Int) := by
  have fitting : fit? false number = some (number : Int) := by
    have least : least ≤ (number : Int) := by
      unfold least
      omega
    simp [fit?, least, fits]
  have unsigned : ∀ sign digits, Nat.toDigits 10 number = sign :: digits →
      Digits.isDecimal sign = true := by
    intro sign digits spelled
    apply Digits.isDecimal_of_mem_toDigits
    rw [spelled]
    exact List.mem_cons_self
  rw [Nat.toString_eq_ofList_toDigits, read?, String.toList_ofList]
  -- Decimals start with neither sign, so they are read as they stand.
  split
  · rename_i digits spelled
    exact absurd (unsigned '-' digits spelled) (by decide)
  · rename_i digits spelled
    exact absurd (unsigned '+' digits spelled) (by decide)
  · rw [readMagnitude?_toDigits]
    exact fitting

end WholeNumber

namespace Kind

def reading : Kind → Expectation
  | text | optionalText => .text
  | whole _ => .whole
  | flag => .flag

def Fits : (kind : Kind) → kind.Carrier → Prop
  | whole bits, number => number < 1 <<< bits ∧ (number : Int) ≤ WholeNumber.greatest
  | _, _ => True

def write? : (kind : Kind) → kind.Carrier → Option String
  | text, value => some value
  | optionalText, value => value
  | whole _, value => some (toString value)
  | flag, value => some (if value then "true" else "false")

theorem decode_of_write? {kind : Kind} {value : kind.Carrier} {written : String}
    (fits : kind.Fits value) (wrote : kind.write? value = some written) :
    ∃ entry, kind.reading.read? written = some entry ∧ kind.decode entry = .ok value := by
  cases kind with
  | text =>
      cases wrote
      exact ⟨.text written, rfl, rfl⟩
  | optionalText =>
      cases wrote
      exact ⟨.text written, rfl, rfl⟩
  | whole bits =>
      cases wrote
      refine ⟨.whole (value : Int), ?_, ?_⟩
      · rw [reading, Expectation.read?, WholeNumber.read?_toString fits.2]
        rfl
      · have inRange : (0 : Int) ≤ value ∧ (value : Int) < (1 <<< bits : Nat) :=
          ⟨Int.natCast_nonneg value, Int.ofNat_lt.mpr fits.1⟩
        simp only [decode, Outline.of, if_pos inRange, Int.toNat_natCast]
  | flag =>
      cases wrote
      cases value
      · exact ⟨.flag false, rfl, rfl⟩
      · exact ⟨.flag true, rfl, rfl⟩

end Kind

theorem Field.eq_of_write?_eq_none {field : Field} {value : field.kind.Carrier}
    (free : field.kind.write? value = none) : field = .databaseTestUrl := by
  cases field with
  | databaseTestUrl => rfl
  | _ => cases free

namespace Override

/-- A field is read as its kind tells, unless it is without a default and stands in for an
entry of another kind. -/
theorem expectation_eq_reading {document : Toml.Table} (field : Field)
    (texts : ∀ entry, document.at? Field.databaseTestUrl.target = some entry →
      ∃ written, entry = .text written) :
    expectation document field.target = field.kind.reading := by
  by_cases free : field = .databaseTestUrl
  · subst field
    rw [expectation_eq]
    cases held : document.at? Field.databaseTestUrl.target with
    | none => rfl
    | some entry =>
        rcases texts entry held with ⟨written, rfl⟩
        rfl
  · rcases Field.exists_defaultToml free with ⟨value, default⟩
    rw [expectation_eq_default default, ← default]
    cases field <;> rfl

end Override

namespace Config

open Toml (Table)

/-- The fields of a configuration with the texts that variables carry for them; a field
without a value is left out. -/
def written (config : Config) : List (Field × String) :=
  Field.all.filterMap fun field =>
    (field.kind.write? (config.get field)).map fun text => (field, text)

theorem mem_written_iff {config : Config} {field : Field} {text : String} :
    (field, text) ∈ config.written ↔ field.kind.write? (config.get field) = some text := by
  simp only [written, List.mem_filterMap, Option.map_eq_some_iff, Prod.mk.injEq]
  constructor
  · rintro ⟨_, _, _, wrote, rfl, rfl⟩
    exact wrote
  · intro wrote
    exact ⟨field, Field.mem_all field, text, wrote, rfl, rfl⟩

/-- All numbers of the configuration are within the bounds of their fields and of what a
variable can carry. -/
def Fits (config : Config) : Prop := ∀ field : Field, field.kind.Fits (config.get field)

/-- Variables that spell a configuration, in any order and any letter case: each is named
for a field and carries its text, and no field with a value is missing. -/
structure SpelledBy (config : Config) (environment : List Variable) : Prop where
  covered : ∀ entry ∈ config.written,
    ∃ assigned ∈ environment, assigned.Names entry.1 ∧ assigned.value = entry.2
  known : ∀ assigned ∈ environment,
    ∃ entry ∈ config.written, assigned.Names entry.1 ∧ assigned.value = entry.2

theorem SpelledBy.lastWritten?_eq {config : Config} {environment : List Variable}
    (spelled : config.SpelledBy environment) (field : Field) :
    Override.lastWritten? environment field.target =
      field.kind.write? (config.get field) := by
  cases last : Override.lastWritten? environment field.target with
  | some text =>
      rcases Override.exists_of_lastWritten? last with ⟨assigned, member, addressed, carried⟩
      rcases spelled.known assigned member with ⟨⟨other, otherText⟩, entry, names, value⟩
      rw [Variable.target?_of_names names] at addressed
      have same := Field.target_injective (Option.some.inj addressed)
      have told := mem_written_iff.mp entry
      subst same
      rw [told, ← carried, value]
  | none =>
      cases wrote : field.kind.write? (config.get field) with
      | none => rfl
      | some text =>
          rcases spelled.covered (field, text) (mem_written_iff.mpr wrote) with
            ⟨assigned, member, names, _⟩
          have given := Override.isSome_lastWritten? member (Variable.target?_of_names names)
          rw [last] at given
          cases given

/-- Variables that spell a valid configuration bring it about, whatever a document holds
for the fields of its sections. Only the field without a default has to hold a text if it
holds anything, and nothing if the configuration has no value for it. -/
theorem load_spelled {text : String} {environment : List Variable} {document : Table}
    {config : Config} (read : Toml.read text = .ok document) (tables : document.HasTables)
    (texts : ∀ entry, document.at? Field.databaseTestUrl.target = some entry →
      ∃ written, entry = .text written)
    (absent : config.database.testUrl = none →
      document.at? Field.databaseTestUrl.target = none)
    (valid : config.violations = []) (fits : config.Fits)
    (spelled : config.SpelledBy environment) :
    load text environment = .ok config := by
  have faultless : Override.firstFault? document environment = none := by
    rw [Override.firstFault?_eq_none_iff]
    intro assigned member
    rcases spelled.known assigned member with ⟨⟨field, written⟩, entry, names, rfl⟩
    rcases Kind.decode_of_write? (fits field) (mem_written_iff.mp entry) with ⟨_, read, _⟩
    have named := Variable.field?_eq_some_iff.mpr (Variable.target?_of_names names)
    rw [Variable.fault?_of_field named (tables field.home),
      Override.expectation_eq_reading field texts]
    simp only [read, Option.isNone_some, Bool.false_eq_true, if_false]
  rcases Override.applyAll_of_no_fault faultless with ⟨overridden, applied, alike, holds⟩
  rw [load_of_read read, resolve_eq_ok_iff]
  refine ⟨overridden, applied, ?_, valid⟩
  rw [ofDocument_eq_ok_iff (alike.hasTables tables)]
  intro field
  rw [Table.decodeField_eq (alike.hasTables tables), holds, spelled.lastWritten?_eq,
    Override.expectation_eq_reading field texts]
  cases wrote : field.kind.write? (config.get field) with
  | some written =>
      rcases Kind.decode_of_write? (fits field) wrote with ⟨entry, readAs, decoded⟩
      simp only [readAs, Kind.decodeOr, decoded]
  | none =>
      -- Without a variable the field is read from the document, which holds nothing for it.
      have optional : field = .databaseTestUrl := Field.eq_of_write?_eq_none wrote
      subst optional
      have free : config.database.testUrl = none := wrote
      simp only [absent free, Kind.decodeOr, Config.get, free]
      rfl

def remote : Config where
  server := { bindAddress := "[::1]:80", requestTimeoutSecs := 9223372036854775807 }
  database := {
    url := "postgres://db/main"
    testUrl := some "postgresql://db/tests"
    maxConnections := 4294967295 }
  observability := { logLevel := "WARN", json := true }

/-- The document holds values of other types, and the variables stand in reverse order. -/
theorem load_remote :
    load "[database]\ntest_url = '?'\nmax_connections = -1\n[cache]\nurl = 0\n"
      (remote.written.reverse.map fun entry =>
        ⟨"APP__" ++ entry.1.home.name.capitalize ++ "__" ++ entry.1.key, entry.2⟩) =
      .ok remote := by
  have read : Toml.read "[database]\ntest_url = '?'\nmax_connections = -1\n[cache]\nurl = 0\n" =
      .ok [("database", .table [("test_url", .text "?"), ("max_connections", .whole (-1))]),
        ("cache", .table [("url", .whole 0)])] := by cbv
  refine load_spelled read (fun chosen => by cases chosen <;> rfl) ?_ (by decide)
    (by decide +kernel) ?_ ⟨by decide +kernel, by decide +kernel⟩
  · intro entry held
    cases held
    exact ⟨_, rfl⟩
  · intro field
    cases field <;> trivial

end Config

end Bringup
