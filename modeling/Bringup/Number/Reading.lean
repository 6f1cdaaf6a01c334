import Bringup.Number.Binary64
import Bringup.Text.Digits

namespace Bringup

/-! Reading a binary number from decimal text.

The text is an optional sign followed by `inf`, `infinity` or `nan` in any
letter case, or by digits with at most one point among or around them and an
optional exponent. At least one digit stands outside the exponent. -/

namespace Binary64

/-- The parts of a decimal as written: digits before and after the point, and
the power of ten given by an exponent. -/
structure Spelled where
  whole : List Char
  fraction : List Char
  power : Int

def Spelled.nearest (spelled : Spelled) (negative : Bool) : Binary64 :=
  ofDecimal negative (Digits.value 10 (spelled.whole ++ spelled.fraction))
    (spelled.power - spelled.fraction.length)

def readPower? (characters : List Char) : Option Int :=
  match characters with
  | '-' :: digits => (WholeNumber.readMagnitude? digits).map fun power : Nat => -(power : Int)
  | '+' :: digits => (WholeNumber.readMagnitude? digits).map fun power : Nat => (power : Int)
  | digits => (WholeNumber.readMagnitude? digits).map fun power : Nat => (power : Int)

def readFraction : List Char → List Char × List Char
  | '.' :: rest => rest.span Digits.isDecimal
  | rest => ([], rest)

def readExponent? : List Char → Option Int
  | [] => some 0
  | mark :: rest => if mark = 'e' || mark = 'E' then readPower? rest else none

def Spelled.read? (characters : List Char) : Option Spelled :=
  let (whole, rest) := characters.span Digits.isDecimal
  let (fraction, rest) := readFraction rest
  if whole.isEmpty && fraction.isEmpty then none
  else (readExponent? rest).map fun power => ⟨whole, fraction, power⟩

def readUnsigned? (negative : Bool) (characters : List Char) : Option Binary64 :=
  let folded := characters.map Char.toLower
  if folded ∈ ["inf".toList, "infinity".toList] then some (.infinite negative)
  else if folded = "nan".toList then some .nan
  else (Spelled.read? characters).map fun spelled => spelled.nearest negative

def read? (text : String) : Option Binary64 :=
  match text.toList with
  | '-' :: characters => readUnsigned? true characters
  | '+' :: characters => readUnsigned? false characters
  | characters => readUnsigned? false characters

example : read? "1." = some (ofNat 1) ∧ read? "." = none ∧ read? "-Infinity" = some (.infinite true) := by
  decide +kernel

end Binary64

end Bringup
