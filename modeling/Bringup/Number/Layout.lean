import Bringup.Number.Shortest

namespace Bringup

/-! The text of a number: where positional notation ends, how an exponent is
written, and what stands for the numbers that have no digits. -/

/-- The decisions of one written form of binary numbers. Outside the positional
range the first digit stands before the point and an exponent follows. -/
structure DecimalLayout where
  /-- The least and greatest power of ten of the first digit that is written
  positionally; `none` writes every number positionally. -/
  positional : Option (Int × Int)
  /-- What is written of two shortest decimals that are equally near. -/
  tie : Shortest.Tie
  nan : String
  infinity : String
deriving DecidableEq, Repr

namespace DecimalLayout

def zeros (count : Nat) : String := String.ofList (List.replicate count '0')

/-- A decimal without exponent; a whole number ends in `.0`. -/
def writePositional (value : Decimal) : String :=
  let digits := toString value.digits
  let count := digits.length
  if 0 ≤ value.exponent then digits ++ zeros value.exponent.toNat ++ ".0"
  else
    let places := (-value.exponent).toNat
    if places < count then
      let whole := count - places
      String.ofList (digits.toList.take whole) ++ "." ++ String.ofList (digits.toList.drop whole)
    else "0." ++ zeros (places - count) ++ digits

def writeScientific (value : Decimal) : String :=
  let digits := (toString value.digits).toList
  let fraction := digits.drop 1
  let mantissa := String.ofList (digits.take 1) ++
    (if fraction.isEmpty then "" else "." ++ String.ofList fraction)
  mantissa ++ (if value.leading < 0 then "e-" else "e+") ++ toString value.leading.natAbs

def writeDecimal (layout : DecimalLayout) (value : Decimal) : String :=
  match layout.positional with
  | none => writePositional value
  | some (least, greatest) =>
      if least ≤ value.leading ∧ value.leading ≤ greatest then writePositional value
      else writeScientific value

def write (layout : DecimalLayout) : Binary64 → String
  | .nan => layout.nan
  | .infinite negative => (if negative then "-" else "") ++ layout.infinity
  | .finite negative significand exponent =>
      (if negative then "-" else "") ++
        (if significand = 0 then "0.0"
         else layout.writeDecimal (Decimal.shortest layout.tie significand exponent))

end DecimalLayout

end Bringup
