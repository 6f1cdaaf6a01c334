import Bringup.Text.Digits

namespace Bringup

/-! Tables of characters, written as text.

An entry is a code point or a range of them in hexadecimal, and may give values
after an equals sign: `300-314=E6`. A range with a tilde takes every second code
point. The values of an entry may be points of their own, in which case they
move along with the range. -/

namespace CodeTable

structure Entry where
  first : Nat
  last : Nat
  /-- The distance between the code points of a range. -/
  step : Nat := 1
  values : List Nat := []
deriving DecidableEq, Repr

namespace Entry

def contains (entry : Entry) (code : Nat) : Bool :=
  entry.first ≤ code && code ≤ entry.last && (code - entry.first) % entry.step = 0

def image (entry : Entry) (code : Nat) : List Nat :=
  entry.values.map fun value => value + (code - entry.first)

private def number (digits : List Char) : Nat := Digits.value 16 digits

def ofText (written : List Char) : Entry :=
  let (codes, values) := written.span (· ≠ '=')
  let values := ((values.drop 1).splitOn '.').filter fun digits => !digits.isEmpty
  let (first, rest) := codes.span Digits.isHexadecimal
  match rest with
  | '-' :: last => { first := number first, last := number last, values := values.map number }
  | '~' :: last =>
      { first := number first, last := number last, step := 2, values := values.map number }
  | _ => { first := number first, last := number first, values := values.map number }

end Entry

def read (text : String) : List Entry :=
  ((text.toList.splitOnP fun character => character = ' ' || character = '\n').filter
    fun written => !written.isEmpty).map Entry.ofText

def find? (table : List Entry) (code : Nat) : Option Entry :=
  table.find? fun entry => entry.contains code

def contains (table : List Entry) (code : Nat) : Bool :=
  table.any fun entry => entry.contains code

example : read "A-C 20=\n 100~104=101 1F=2.3F" =
    [⟨0xA, 0xC, 1, []⟩, ⟨0x20, 0x20, 1, []⟩, ⟨0x100, 0x104, 2, [0x101]⟩,
      ⟨0x1F, 0x1F, 1, [2, 0x3F]⟩] := by decide +kernel

example : ((find? (read "100~104=101") 0x102).map fun entry => entry.image 0x102) = some [0x103] ∧
    contains (read "100~104=101") 0x103 = false := by decide +kernel

end CodeTable

end Bringup
