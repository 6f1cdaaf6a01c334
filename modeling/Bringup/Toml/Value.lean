import Bringup.Number.Binary64

namespace Bringup

/-! The values of a TOML document. A table is a list of entries with distinct
keys; their order carries no meaning, and readers that report the first fault
state the order in which they look. -/

namespace Toml

inductive Value where
  | text (text : String)
  | whole (number : Int)
  | real (number : Binary64)
  | flag (isSet : Bool)
  /-- A date, a time or both, in canonical form. -/
  | moment (text : String)
  | list (items : List Value)
  | table (entries : List (String × Value))

abbrev Table := List (String × Value)

namespace Table

def get? (table : Table) (key : String) : Option Value :=
  match table with
  | [] => none
  | entry :: rest => if entry.1 = key then some entry.2 else get? rest key

def set (table : Table) (key : String) (value : Value) : Table :=
  match table with
  | [] => [(key, value)]
  | entry :: rest =>
      if entry.1 = key then (key, value) :: rest else entry :: set rest key value

@[simp] theorem get?_set_same (table : Table) (key : String) (value : Value) :
    (table.set key value).get? key = some value := by
  induction table with
  | nil => simp [set, get?]
  | cons entry rest induction =>
      by_cases same : entry.1 = key
      · simp [set, get?, same]
      · simpa [set, get?, same] using induction

theorem get?_set_other (table : Table) {key other : String} (value : Value)
    (different : key ≠ other) : (table.set key value).get? other = table.get? other := by
  induction table with
  | nil => simp [set, get?, different]
  | cons entry rest induction =>
      by_cases same : entry.1 = key
      · have : entry.1 ≠ other := fun equal => different (same.symm.trans equal)
        simp [set, get?, same, different]
      · simp [set, get?, same, induction]

end Table

namespace Value

def entry? (value : Value) (key : String) : Option Value :=
  match value with
  | .table entries => Table.get? entries key
  | _ => none

end Value

end Toml

end Bringup
