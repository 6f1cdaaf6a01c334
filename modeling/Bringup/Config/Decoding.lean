import Bringup.Config.Schema
import Bringup.Toml.Outline

namespace Bringup

/-! From a document to a configuration.

A document decodes if every entry that names a field has the field's kind and
range. Otherwise the first misfit is reported, sections in the order of their
names and fields in the order of their keys; inside a section given as a list
the fields are met in declaration order. Entries that name no field are never
looked at. -/

inductive Misfit where
  | wrongType (found : Outline) (expected : String)
  | outOfRange (number : Int) (expected : String)
  | tooLong (length : Nat)
deriving DecidableEq, Repr

namespace Misfit

def message : Misfit → String
  | wrongType found expected => "invalid type: " ++ found.describe ++ ", expected " ++ expected
  | outOfRange number expected =>
      "invalid value: " ++ (Outline.whole number).describe ++ ", expected " ++ expected
  | tooLong length =>
      "invalid length " ++ toString length ++ ", expected fewer elements in array"

end Misfit

structure TypeFault where
  path : List String
  misfit : Misfit
deriving DecidableEq, Repr

namespace TypeFault

def message (fault : TypeFault) : String :=
  fault.misfit.message ++ "\nin \x60" ++ String.intercalate "." fault.path ++ "\x60\n"

end TypeFault

namespace Kind

def expectation : Kind → String
  | text | optionalText => "a string"
  | whole bits => "u" ++ toString bits
  | flag => "a boolean"

def decode (kind : Kind) (entry : Toml.Value) : Except Misfit kind.Carrier :=
  match kind, Outline.of entry with
  | text, .text written => .ok written
  | optionalText, .text written => .ok (some written)
  | whole bits, .whole number =>
      if 0 ≤ number ∧ number < (1 <<< bits : Nat) then .ok number.toNat
      else .error (.outOfRange number (whole bits).expectation)
  | flag, .flag isSet => .ok isSet
  | kind, found => .error (.wrongType found kind.expectation)

def decodeOr (kind : Kind) (default : kind.Carrier) : Option Toml.Value → Except Misfit kind.Carrier
  | none => .ok default
  | some entry => kind.decode entry

end Kind

namespace Toml.Table

/-- The entry that a document holds for a field. A section given as a list fills
its fields in declaration order. -/
def entry? (document : Toml.Table) (field : Field) : Option Toml.Value :=
  match document.get? field.home.name with
  | some (.table entries) => Toml.Table.get? entries field.key
  | some (.list items) => items[field.home.fields.idxOf field]?
  | _ => none

def decodeField (document : Toml.Table) (field : Field) : Except Misfit field.kind.Carrier :=
  field.kind.decodeOr field.default (document.entry? field)

def misfit? (document : Toml.Table) (field : Field) : Option Misfit :=
  match document.decodeField field with
  | .ok _ => none
  | .error misfit => some misfit

/-- The first fault of a section. The entries of a list have no path of their
own. -/
def sectionFault? (document : Toml.Table) (chosen : Section) : Option TypeFault :=
  match document.get? chosen.name with
  | none => none
  | some (.table _) =>
      chosen.fieldsByKey.findSome? fun field =>
        (document.misfit? field).map fun misfit => ⟨[chosen.name, field.key], misfit⟩
  | some (.list items) =>
      let atItem := chosen.fields.findSome? fun field =>
        (document.misfit? field).map fun misfit => ⟨[chosen.name], misfit⟩
      let atEnd := if chosen.fields.length < items.length
        then some ⟨[chosen.name], .tooLong items.length⟩ else none
      atItem.or atEnd
  | some other => some ⟨[chosen.name], .wrongType (Outline.of other) chosen.typeName⟩

def fault? (document : Toml.Table) : Option TypeFault :=
  Section.byName.findSome? document.sectionFault?

end Toml.Table

namespace Config

def reading (document : Toml.Table) (field : Field) : field.kind.Carrier :=
  match document.decodeField field with
  | .ok value => value
  | .error _ => field.default

def ofDocument (document : Toml.Table) : Except TypeFault Config :=
  match document.fault? with
  | some fault => .error fault
  | none => .ok (ofFields (reading document))

theorem ofDocument_eq_ok {document : Toml.Table} {config : Config}
    (decoded : ofDocument document = .ok config) (field : Field) :
    config.get field = reading document field := by
  unfold ofDocument at decoded
  split at decoded
  · contradiction
  · cases decoded
    simp

example : ofDocument [] = .ok Config.default := rfl

end Config

end Bringup
