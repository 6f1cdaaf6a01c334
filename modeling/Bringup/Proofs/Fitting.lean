import Mathlib
import Bringup.Proofs.Fields

namespace Bringup

/-! Which entry of a document is reported if some do not fit.

An entry fits its field if it is of the field's kind and, for a whole number, within its
width (`Kind.decode_eq_ok_iff`, `Kind.decode_eq_error_iff`). Sections are looked at in the
order of their names, and within a section the entries in the order of their keys, or of
their places in a list. The first that does not fit is the fault of the document
(`Toml.Table.fault?_eq_some_iff`). -/

namespace Kind

def IsTyped : Kind → Toml.Value → Prop
  | text, .text _ | text, .moment _ => True
  | optionalText, .text _ | optionalText, .moment _ => True
  | whole _, .whole _ => True
  | flag, .flag _ => True
  | _, _ => False

/-- Why an entry does not fit a field. -/
inductive Refuses : Kind → Toml.Value → Misfit → Prop where
  | illTyped {kind : Kind} {entry : Toml.Value} : ¬ kind.IsTyped entry →
      Refuses kind entry (.wrongType (Outline.of entry) kind.expectation)
  | outOfRange {bits : Nat} {number : Int} : number < 0 ∨ 2 ^ bits ≤ number →
      Refuses (whole bits) (.whole number) (.outOfRange number (whole bits).expectation)

inductive Takes : (kind : Kind) → Toml.Value → kind.Carrier → Prop where
  | text (written : String) : Takes text (.text written) written
  | moment (written : String) : Takes text (.moment written) written
  | optionalText (written : String) : Takes optionalText (.text written) (some written)
  | optionalMoment (written : String) : Takes optionalText (.moment written) (some written)
  | whole {bits number : Nat} : number < 2 ^ bits → Takes (whole bits) (.whole number) number
  | flag (isSet : Bool) : Takes flag (.flag isSet) isSet

theorem inRange_iff {bits : Nat} {number : Int} :
    (0 ≤ number ∧ number < (1 <<< bits : Nat)) ↔ ¬ (number < 0 ∨ 2 ^ bits ≤ number) := by
  rw [Nat.one_shiftLeft]
  push_cast
  omega

theorem decode_whole {bits : Nat} {number : Int} :
    (whole bits).decode (.whole number) =
      if number < 0 ∨ 2 ^ bits ≤ number
      then .error (.outOfRange number (whole bits).expectation) else .ok number.toNat := by
  simp only [decode, Outline.of, inRange_iff, ite_not]

theorem decode_eq_ok_iff {kind : Kind} {entry : Toml.Value} {value : kind.Carrier} :
    kind.decode entry = .ok value ↔ kind.Takes entry value := by
  constructor
  · intro decoded
    cases kind with
    | text | optionalText =>
        cases entry with
        | text written | moment written =>
            cases decoded
            constructor
        | _ => cases decoded
    | whole bits =>
        cases entry with
        | whole number =>
            rw [decode_whole] at decoded
            split at decoded
            · cases decoded
            · rename_i inRange
              cases decoded
              obtain ⟨magnitude, rfl⟩ := Int.eq_ofNat_of_zero_le (by omega : 0 ≤ number)
              exact .whole (by exact_mod_cast (not_le.mp (not_or.mp inRange).2))
        | _ => cases decoded
    | flag =>
        cases entry with
        | flag isSet =>
            cases decoded
            constructor
        | _ => cases decoded
  · intro takes
    cases takes with
    | whole fits =>
        rw [decode_whole, if_neg, Int.toNat_natCast]
        rw [not_or, not_lt, not_le]
        exact ⟨Int.natCast_nonneg _, by exact_mod_cast fits⟩
    | _ => rfl

theorem decode_eq_error_iff {kind : Kind} {entry : Toml.Value} {misfit : Misfit} :
    kind.decode entry = .error misfit ↔ kind.Refuses entry misfit := by
  constructor
  · intro failed
    by_cases typed : kind.IsTyped entry
    · cases kind <;> cases entry <;> try cases typed
      all_goals try cases failed
      rw [decode_whole] at failed
      split at failed
      · cases failed
        exact .outOfRange ‹_›
      · cases failed
    · have misfits : misfit = .wrongType (Outline.of entry) kind.expectation := by
        cases kind <;> cases entry <;> first
          | exact absurd trivial typed
          | (cases failed; rfl)
      rw [misfits]
      exact .illTyped typed
  · intro refuses
    cases refuses with
    | illTyped mistyped =>
        cases kind <;> cases entry <;> first
          | exact absurd trivial mistyped
          | rfl
    | outOfRange outside => rw [decode_whole, if_pos outside]

end Kind

namespace Section

/-- What is found first in a sorted list is what no smaller item gives. -/
theorem findSome?_eq_some_iff_of_sorted {α β κ : Type} [LinearOrder κ] {items : List α}
    {key : α → κ} (sorted : items.Pairwise fun first second => key first < key second)
    {find : α → Option β} {found : β} :
    items.findSome? find = some found ↔
      ∃ item ∈ items, find item = some found ∧
        ∀ other ∈ items, key other < key item → find other = none := by
  rw [List.findSome?_eq_some_iff]
  constructor
  · rintro ⟨before, item, after, rfl, here, unfound⟩
    rw [List.pairwise_append, List.pairwise_cons] at sorted
    refine ⟨item, by simp, here, fun other member smaller => ?_⟩
    rcases List.mem_append.mp member with earlier | later
    · exact unfound other earlier
    · -- Neither the item itself nor what comes after it is smaller.
      rcases List.mem_cons.mp later with rfl | after
      · exact absurd smaller (lt_irrefl _)
      · exact absurd smaller (sorted.2.1.1 other after).asymm
  · rintro ⟨item, member, here, unfound⟩
    rcases List.append_of_mem member with ⟨before, after, rfl⟩
    rw [List.pairwise_append] at sorted
    refine ⟨before, item, after, rfl, here, fun other earlier => ?_⟩
    exact unfound other (by simp [earlier]) (sorted.2.2 other earlier item List.mem_cons_self)

theorem byName_sorted : byName.Pairwise fun first second => first.name < second.name := by
  decide

theorem fieldsByKey_sorted (chosen : Section) :
    chosen.fieldsByKey.Pairwise fun first second => first.key < second.key := by
  cases chosen <;> decide

def place (chosen : Section) (field : Field) : Nat := chosen.fields.idxOf field

theorem fields_sorted (chosen : Section) :
    chosen.fields.Pairwise fun first second => chosen.place first < chosen.place second := by
  cases chosen <;> decide

theorem mem_fieldsByKey_iff {chosen : Section} {field : Field} :
    field ∈ chosen.fieldsByKey ↔ field.home = chosen := by
  constructor
  · exact Field.home_of_mem
  · rintro rfl
    exact field.mem_fieldsByKey

theorem mem_fields_iff {chosen : Section} {field : Field} :
    field ∈ chosen.fields ↔ field.home = chosen := by
  cases chosen <;> cases field <;> decide

end Section

namespace Toml.Table

def Misfits (document : Toml.Table) (field : Field) (misfit : Misfit) : Prop :=
  ∃ entry, document.entry? field = some entry ∧ field.kind.Refuses entry misfit

theorem misfit?_eq_some_iff {document : Toml.Table} {field : Field} {misfit : Misfit} :
    document.misfit? field = some misfit ↔ document.Misfits field misfit := by
  unfold misfit? decodeField Misfits
  cases document.entry? field with
  | none => simp [Kind.decodeOr]
  | some entry =>
      simp only [Kind.decodeOr, Option.some.injEq, exists_eq_left', ← Kind.decode_eq_error_iff]
      cases field.kind.decode entry <;> simp

theorem misfit?_eq_none_iff_fits {document : Toml.Table} {field : Field} :
    document.misfit? field = none ↔ ∀ misfit, ¬ document.Misfits field misfit := by
  simp only [← misfit?_eq_some_iff, Option.eq_none_iff_forall_ne_some, ne_eq]

theorem findSome?_misfit?_iff {document : Toml.Table} {κ : Type} [LinearOrder κ]
    {fields : List Field} {key : Field → κ}
    (sorted : fields.Pairwise fun first second => key first < key second)
    {path : Field → List String} {fault : TypeFault} :
    (fields.findSome? fun field =>
        (document.misfit? field).map fun misfit => (⟨path field, misfit⟩ : TypeFault)) =
        some fault ↔
      ∃ field ∈ fields, ∃ misfit, document.Misfits field misfit ∧ ⟨path field, misfit⟩ = fault ∧
        ∀ other ∈ fields, key other < key field → ∀ misfit, ¬ document.Misfits other misfit := by
  rw [Section.findSome?_eq_some_iff_of_sorted sorted]
  simp only [Option.map_eq_some_iff, misfit?_eq_some_iff, Option.map_eq_none_iff,
    misfit?_eq_none_iff_fits]
  constructor
  · rintro ⟨field, member, ⟨misfit, misfits, told⟩, earlier⟩
    exact ⟨field, member, misfit, misfits, told, earlier⟩
  · rintro ⟨field, member, misfit, misfits, told, earlier⟩
    exact ⟨field, member, ⟨misfit, misfits, told⟩, earlier⟩

/-- What is wrong with a section: the first entry that does not fit, in the order of the keys
of a table or of the places in a list; items of a list that belong to no field; or that the
section is neither a table nor a list. -/
inductive Faulty (document : Toml.Table) (chosen : Section) : TypeFault → Prop where
  | entry {entries : Toml.Table} {field : Field} {misfit : Misfit} :
      document.get? chosen.name = some (.table entries) → field.home = chosen →
      document.Misfits field misfit →
      (∀ other : Field, other.home = chosen → other.key < field.key →
        ∀ misfit, ¬ document.Misfits other misfit) →
      Faulty document chosen ⟨[chosen.name, field.key], misfit⟩
  | item {items : List Value} {field : Field} {misfit : Misfit} :
      document.get? chosen.name = some (.list items) → field.home = chosen →
      document.Misfits field misfit →
      (∀ other : Field, other.home = chosen → chosen.place other < chosen.place field →
        ∀ misfit, ¬ document.Misfits other misfit) →
      Faulty document chosen ⟨[chosen.name], misfit⟩
  | surplus {items : List Value} :
      document.get? chosen.name = some (.list items) →
      (∀ field : Field, field.home = chosen → ∀ misfit, ¬ document.Misfits field misfit) →
      chosen.fields.length < items.length →
      Faulty document chosen ⟨[chosen.name], .tooLong items.length⟩
  | shape {value : Value} :
      document.get? chosen.name = some value → (∀ entries, value ≠ .table entries) →
      (∀ items, value ≠ .list items) →
      Faulty document chosen ⟨[chosen.name], .wrongType (Outline.of value) chosen.typeName⟩

theorem sectionFault?_eq_some_iff {document : Toml.Table} {chosen : Section}
    {fault : TypeFault} :
    document.sectionFault? chosen = some fault ↔ document.Faulty chosen fault := by
  unfold sectionFault?
  cases held : document.get? chosen.name with
  | none =>
      constructor
      · intro found
        cases found
      · rintro (⟨given⟩ | ⟨given⟩ | ⟨given⟩ | ⟨given⟩) <;> rw [held] at given <;> cases given
  | some value =>
      cases value with
      | table entries =>
          dsimp only
          rw [findSome?_misfit?_iff chosen.fieldsByKey_sorted]
          simp only [Section.mem_fieldsByKey_iff]
          constructor
          · rintro ⟨field, home, misfit, misfits, rfl, earlier⟩
            exact .entry held home misfits earlier
          · rintro (⟨_, home, misfits, earlier⟩ | ⟨given⟩ | ⟨given⟩ | ⟨given, noTable⟩)
            · exact ⟨_, home, _, misfits, rfl, earlier⟩
            all_goals rw [held] at given; cases given
            exact absurd rfl (noTable entries)
      | list items =>
          dsimp only
          rw [Option.or_eq_some_iff, findSome?_misfit?_iff chosen.fields_sorted,
            List.findSome?_eq_none_iff]
          simp only [Section.mem_fields_iff, Option.map_eq_none_iff, misfit?_eq_none_iff_fits,
            Option.ite_none_right_eq_some, Option.some.injEq]
          constructor
          · rintro (⟨field, home, misfit, misfits, rfl, earlier⟩ | ⟨fits, more, rfl⟩)
            · exact .item held home misfits earlier
            · exact .surplus held fits more
          · rintro (⟨given⟩ | ⟨given, home, misfits, earlier⟩ | ⟨given, fits, more⟩ |
              ⟨given, _, noList⟩)
            all_goals rw [held] at given; cases given
            · exact .inl ⟨_, home, _, misfits, rfl, earlier⟩
            · exact .inr ⟨fits, more, rfl⟩
            · exact absurd rfl (noList items)
      | _ =>
          constructor
          · rintro ⟨⟩
            exact .shape held (fun _ => Toml.Value.noConfusion) fun _ => Toml.Value.noConfusion
          · rintro (⟨given⟩ | ⟨given⟩ | ⟨given⟩ | ⟨given⟩)
            all_goals rw [held] at given; cases given
            rfl

def FirstFault (document : Toml.Table) (fault : TypeFault) : Prop :=
  ∃ chosen : Section, document.Faulty chosen fault ∧
    ∀ other : Section, other.name < chosen.name → ∀ fault, ¬ document.Faulty other fault

theorem fault?_eq_some_iff {document : Toml.Table} {fault : TypeFault} :
    document.fault? = some fault ↔ document.FirstFault fault := by
  rw [fault?, Section.findSome?_eq_some_iff_of_sorted Section.byName_sorted]
  simp only [Option.eq_none_iff_forall_ne_some, ne_eq, sectionFault?_eq_some_iff, FirstFault,
    Section.mem_byName, true_and, forall_const]

theorem fault?_eq_none_iff_faultless {document : Toml.Table} :
    document.fault? = none ↔ ∀ chosen fault, ¬ document.Faulty chosen fault := by
  rw [fault?, List.findSome?_eq_none_iff]
  simp only [Section.mem_byName, forall_const, Option.eq_none_iff_forall_ne_some, ne_eq,
    sectionFault?_eq_some_iff]

theorem misfit?_of_section {document : Toml.Table} {field : Field}
    (faultless : document.sectionFault? field.home = none) : document.misfit? field = none := by
  unfold sectionFault? at faultless
  cases held : document.get? field.home.name with
  | none => simp [misfit?, decodeField, entry?, held, Kind.decodeOr]
  | some value =>
      rw [held] at faultless
      cases value with
      | table entries =>
          rw [List.findSome?_eq_none_iff] at faultless
          exact Option.map_eq_none_iff.mp (faultless field field.mem_fieldsByKey)
      | list items =>
          rw [Option.or_eq_none_iff, List.findSome?_eq_none_iff] at faultless
          exact Option.map_eq_none_iff.mp (faultless.1 field field.mem_fields)
      | _ => cases faultless

theorem decodeField_of_faultless {document : Toml.Table} (faultless : document.fault? = none)
    (field : Field) : ∃ value, document.decodeField field = .ok value := by
  rw [fault?, List.findSome?_eq_none_iff] at faultless
  exact misfit?_eq_none_iff.mp
    (misfit?_of_section (faultless field.home (Section.mem_byName field.home)))

/-- A document describes a configuration if nothing in it is at fault, and each field has the
value of its entry or else its default. -/
structure Describes (document : Toml.Table) (config : Config) : Prop where
  faultless : ∀ chosen fault, ¬ document.Faulty chosen fault
  given : ∀ field entry, document.entry? field = some entry →
    field.kind.Takes entry (config.get field)
  absent : ∀ field, document.entry? field = none → config.get field = field.default

theorem Describes.decodeField_eq {document : Toml.Table} {config : Config}
    (describes : document.Describes config) (field : Field) :
    document.decodeField field = .ok (config.get field) := by
  rw [decodeField]
  cases held : document.entry? field with
  | none => rw [Kind.decodeOr, describes.absent field held]
  | some entry => exact Kind.decode_eq_ok_iff.mpr (describes.given field entry held)

theorem describes_of_decodeField {document : Toml.Table} {config : Config}
    (faultless : document.fault? = none)
    (decoded : ∀ field, document.decodeField field = .ok (config.get field)) :
    document.Describes config := by
  refine ⟨fault?_eq_none_iff_faultless.mp faultless, ?_, ?_⟩
  · intro field entry held
    have here := decoded field
    rw [decodeField, held] at here
    exact Kind.decode_eq_ok_iff.mp here
  · intro field held
    have here := decoded field
    rw [decodeField, held] at here
    exact (Except.ok.inj here).symm

end Toml.Table

namespace Config

open Toml (Table)

theorem ofDocument_eq_error_iff {document : Table} {fault : TypeFault} :
    ofDocument document = .error fault ↔ document.FirstFault fault := by
  rw [← Table.fault?_eq_some_iff]
  unfold ofDocument
  cases document.fault? <;> simp

theorem ofDocument_eq_ok_iff_describes {document : Table} {config : Config} :
    ofDocument document = .ok config ↔ document.Describes config := by
  constructor
  · intro described
    have faultless : document.fault? = none := by
      cases fault : document.fault? with
      | none => rfl
      | some fault =>
          rw [ofDocument, fault] at described
          cases described
    apply Table.describes_of_decodeField faultless
    intro field
    rcases Table.decodeField_of_faultless faultless field with ⟨value, decoded⟩
    rw [ofDocument_eq_ok described field, reading, decoded]
  · intro describes
    have values : reading document = config.get := by
      funext field
      rw [reading, describes.decodeField_eq]
    rw [ofDocument, Table.fault?_eq_none_iff_faultless.mpr describes.faultless, values]
    rfl

end Config

end Bringup
