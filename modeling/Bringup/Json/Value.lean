import Bringup.Number.Layout

namespace Bringup

/-! JSON values and their two written forms.

An object is a list of members in the order in which they are written. The
compact form holds no blanks; the open form puts every item on a line of its
own, indented by two blanks a level. -/

inductive Json where
  | null
  | flag (isSet : Bool)
  | whole (number : Int)
  | real (number : Binary64)
  | text (text : String)
  | list (items : List Json)
  | object (members : List (String × Json))

instance : Inhabited Json := ⟨.null⟩

namespace Json

/-! ## Scalars -/

/-- The written form of one character of a text. Controls without a letter of
their own are written by their code. -/
def escape (character : Char) : List Char :=
  if character = '"' then ['\\', '"']
  else if character = '\\' then ['\\', '\\']
  else if character = '\x08' then ['\\', 'b']
  else if character = '\x0c' then ['\\', 'f']
  else if character = '\n' then ['\\', 'n']
  else if character = '\r' then ['\\', 'r']
  else if character = '\t' then ['\\', 't']
  else if character.toNat < 0x20 then
    ['\\', 'u', '0', '0', Nat.digitChar (character.toNat / 16), Nat.digitChar (character.toNat % 16)]
  else [character]

def writeText (text : String) : List Char :=
  '"' :: text.toList.flatMap escape ++ ['"']

/-- Numbers with a fraction are written positionally from `0.00001` up to
sixteen digits before the point. -/
def realLayout : DecimalLayout where
  positional := some (-5, 15)
  tie := .toEven
  nan := "null"
  infinity := "null"

def writeWhole (number : Int) : List Char := (toString number).toList

def writeReal (number : Binary64) : List Char := (realLayout.write number).toList

def writeFlag (isSet : Bool) : List Char := (if isSet then "true" else "false").toList

/-! ## The compact form -/

mutual

def writeCompact : Json → List Char
  | null => "null".toList
  | flag isSet => writeFlag isSet
  | whole number => writeWhole number
  | real number => writeReal number
  | text written => writeText written
  | list [] => ['[', ']']
  | list (first :: rest) => '[' :: writeCompact first ++ writeItems rest ++ [']']
  | object [] => ['\x7b', '\x7d']
  | object ((key, value) :: rest) =>
      '\x7b' :: writeText key ++ ':' :: writeCompact value ++ writeMembers rest ++ ['\x7d']

def writeItems : List Json → List Char
  | [] => []
  | item :: rest => ',' :: writeCompact item ++ writeItems rest

def writeMembers : List (String × Json) → List Char
  | [] => []
  | (key, value) :: rest =>
      ',' :: writeText key ++ ':' :: writeCompact value ++ writeMembers rest

end

def compact (value : Json) : String := String.ofList value.writeCompact

/-! ## The open form -/

def newLine (depth : Nat) : List Char := '\n' :: List.replicate (2 * depth) ' '

mutual

def writeOpen (depth : Nat) : Json → List Char
  | null => "null".toList
  | flag isSet => writeFlag isSet
  | whole number => writeWhole number
  | real number => writeReal number
  | text written => writeText written
  | list [] => ['[', ']']
  | list (first :: rest) =>
      '[' :: newLine (depth + 1) ++ writeOpen (depth + 1) first ++
        writeOpenItems (depth + 1) rest ++ newLine depth ++ [']']
  | object [] => ['\x7b', '\x7d']
  | object ((key, value) :: rest) =>
      '\x7b' :: newLine (depth + 1) ++ writeText key ++ ':' :: ' ' :: writeOpen (depth + 1) value ++
        writeOpenMembers (depth + 1) rest ++ newLine depth ++ ['\x7d']

def writeOpenItems (depth : Nat) : List Json → List Char
  | [] => []
  | item :: rest => ',' :: newLine depth ++ writeOpen depth item ++ writeOpenItems depth rest

def writeOpenMembers (depth : Nat) : List (String × Json) → List Char
  | [] => []
  | (key, value) :: rest =>
      ',' :: newLine depth ++ writeText key ++ ':' :: ' ' :: writeOpen depth value ++
        writeOpenMembers depth rest

end

def pretty (value : Json) : String := String.ofList (value.writeOpen 0)

example : compact (object [("a", list [whole 1, flag true]), ("b", list [])]) =
    "\x7b\"a\":[1,true],\"b\":[]\x7d" := by decide +kernel

example : pretty (object [("a", list [whole 1, text "\x1f"])]) =
    "\x7b\n  \"a\": [\n    1,\n    \"\\u001f\"\n  ]\n\x7d" := by decide +kernel

end Json

end Bringup
