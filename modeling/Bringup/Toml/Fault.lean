import Bringup.Toml.Value

namespace Bringup

/-! Where and why a text is not a TOML document.

A fault names the place it was found at, the construct being read, what could
have stood there, and a cause when the text is well formed but contradicts
itself. -/

namespace Toml

structure Fault where
  /-- What was left to read where the fault was found. -/
  rest : List Char
  /-- How many bytes are at fault. -/
  width : Nat := 1
  construct : Option String := none
  expected : List String := []
  cause : Option String := none
deriving Repr

abbrev Reader (α : Type) := List Char → Except Fault (α × List Char)

namespace Fault

/-- Adds the construct around a fault, unless a smaller one is already named. -/
def inside (construct : String) (fault : Fault) : Fault :=
  { fault with construct := fault.construct.or (some construct) }

def orElse (expected : List String) (fault : Fault) : Fault :=
  { fault with expected := fault.expected ++ expected }

/-- What is wrong, one line for the construct, one for what was expected and one
for the cause. -/
def complaint (fault : Fault) : String :=
  let lines := (fault.construct.map ("invalid " ++ ·)).toList ++
    (if fault.expected.isEmpty then []
     else ["expected " ++ String.intercalate ", " fault.expected]) ++
    fault.cause.toList
  String.intercalate "\n" lines

private def spaces (count : Nat) : String := String.ofList (List.replicate count ' ')

def message (source : String) (fault : Fault) : String :=
  let characters := source.toList
  let offset := characters.length - fault.rest.length
  let index := min offset (characters.length - 1)
  let before := characters.take index
  let lineIndex := before.count '\n'
  let column := (before.reverse.takeWhile (· ≠ '\n')).length + (offset - index)
  let content := String.ofList ((characters.splitOn '\n').getD lineIndex [])
  let width := max 1 (min fault.width (content.utf8ByteSize - column))
  let number := toString (lineIndex + 1)
  let gutter := spaces (number.length + 1)
  "TOML parse error at line " ++ number ++ ", column " ++ toString (column + 1) ++ "\n" ++
    gutter ++ "|\n" ++
    number ++ " | " ++ content ++ "\n" ++
    gutter ++ "|" ++ spaces (column + 1) ++ String.ofList (List.replicate width '^') ++ "\n" ++
    fault.complaint ++ "\n"

end Fault

def within (construct : String) (result : Except Fault α) : Except Fault α :=
  result.mapError (Fault.inside construct)

def orExpected (expected : List String) (result : Except Fault α) : Except Fault α :=
  result.mapError (Fault.orElse expected)

def faultAt (rest : List Char) : Except Fault α := .error { rest }

example : Fault.message "[x" { rest := [], construct := some "table header", expected := ["a"] } =
    "TOML parse error at line 1, column 3\n  |\n1 | [x\n  |   ^\ninvalid table header\nexpected a\n" := by
  decide +kernel

end Toml

end Bringup
