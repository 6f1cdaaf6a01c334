import Bringup.Config.Schema
import Bringup.Environment
import Bringup.Number.Reading

namespace Bringup

/-! Overriding single entries of a document by named variables.

`APP__DATABASE__URL` sets the entry `database.url`. A variable carries text, so
the value is read as the type that the field has by default, or, for an entry
without a default, as the type of the entry that it replaces. -/

inductive Expectation where
  | flag
  | whole
  | real
  | text
deriving DecidableEq, Repr

namespace Expectation

/-- What replaces an entry is read as what the entry holds; all but flags and
numbers stay text. -/
def ofEntry : Option Toml.Value → Expectation
  | some (.flag _) => flag
  | some (.whole _) => whole
  | some (.real _) => real
  | _ => text

def read? : Expectation → String → Option Toml.Value
  | flag, written =>
      if written = "true" then some (.flag true)
      else if written = "false" then some (.flag false)
      else none
  | whole, written => (WholeNumber.read? written).map .whole
  | real, written => (Binary64.read? written).map .real
  | text, written => some (.text written)

def describe : Expectation → String
  | flag => "true or false"
  | whole => "an integer"
  | real => "a number"
  | text => "text"

end Expectation

structure Target where
  sectionName : String
  key : String
deriving DecidableEq, Repr

inductive OverrideFault where
  /-- The name does not address an entry, or its section is no table. -/
  | malformed
  | unreadable (expected : Expectation)
deriving DecidableEq, Repr

namespace Override

def splitPath : List Char → List (List Char)
  | [] => [[]]
  | '_' :: '_' :: rest => [] :: splitPath rest
  | character :: rest =>
      match splitPath rest with
      | [] => [[character]]
      | part :: parts => (character :: part) :: parts

def path? (name : String) : Option (List Char) :=
  match name.toList with
  | 'A' :: 'P' :: 'P' :: '_' :: '_' :: path => some path
  | _ => none

def fold (part : List Char) : String := String.ofList (part.map Char.toLower)

def target? (path : List Char) : Option Target :=
  match splitPath path with
  | [sectionName, key] =>
      if sectionName.isEmpty || key.isEmpty then none else some ⟨fold sectionName, fold key⟩
  | _ => none

def expectation (document : Toml.Table) (target : Target) : Expectation :=
  Expectation.ofEntry
    (((Field.named? target.sectionName target.key).bind Field.defaultToml).or
      ((document.get? target.sectionName).bind fun entry => entry.entry? target.key))

def insert? (document : Toml.Table) (target : Target) (value : Toml.Value) :
    Option Toml.Table :=
  match (document.get? target.sectionName).getD (.table []) with
  | .table entries =>
      some (document.set target.sectionName (.table (Toml.Table.set entries target.key value)))
  | _ => none

/-- The document after an override whose path is given. The value is read before
the section is looked at. -/
def apply (document : Toml.Table) (path : List Char) (written : String) :
    Except OverrideFault Toml.Table :=
  match target? path with
  | none => .error .malformed
  | some target =>
      let expected := expectation document target
      match expected.read? written with
      | none => .error (.unreadable expected)
      | some value =>
          match insert? document target value with
          | none => .error .malformed
          | some overridden => .ok overridden

def applyVariable (document : Toml.Table) (assigned : Variable) :
    Except OverrideFault Toml.Table :=
  match path? assigned.name with
  | none => .ok document
  | some path => apply document path assigned.value

def applyAll (document : Toml.Table) : List Variable → Except (String × OverrideFault) Toml.Table
  | [] => .ok document
  | assigned :: rest =>
      match applyVariable document assigned with
      | .error fault => .error (assigned.name, fault)
      | .ok overridden => applyAll overridden rest

def applied (document : Toml.Table) : List Variable → List String
  | [] => []
  | assigned :: rest =>
      match applyVariable document assigned with
      | .error _ => []
      | .ok overridden =>
          if (path? assigned.name).isSome then assigned.name :: applied overridden rest
          else applied overridden rest

example : splitPath "a___b__".toList = ["a".toList, "_b".toList, []] := by decide +kernel

example : (path? "APP__Cache__Url").bind target? = some ⟨"cache", "url"⟩ := by decide +kernel

example : (path? "APP__CACHE").bind target? = none ∧ (path? "APP__A__B__C").bind target? = none ∧
    (path? "APP____URL").bind target? = none := by decide +kernel

end Override

end Bringup
