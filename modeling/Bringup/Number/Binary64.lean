namespace Bringup

/-! Binary floating-point numbers of 53 significant bits, with exact rounding.

A finite number is `significand * 2 ^ exponent`. Every function here rounds an
exact quotient of natural numbers once, to the nearest number and to the even
neighbour on a tie, so no operation depends on the machine's floating point. -/

inductive Binary64 where
  | nan
  | infinite (negative : Bool)
  | finite (negative : Bool) (significand : Nat) (exponent : Int)
deriving DecidableEq, Repr

namespace Binary64

def leastExponent : Int := -1074

def greatestExponent : Int := 971

def zero (negative : Bool) : Binary64 := .finite negative 0 leastExponent

def roundQuotient (numerator denominator : Nat) : Nat :=
  let quotient := numerator / denominator
  let twice := 2 * (numerator % denominator)
  if twice < denominator then quotient
  else if denominator < twice then quotient + 1
  else if quotient % 2 = 0 then quotient else quotient + 1

def scaled (numerator denominator : Nat) (exponent : Int) : Nat × Nat :=
  if exponent < 0 then (numerator <<< (-exponent).toNat, denominator)
  else (numerator, denominator <<< exponent.toNat)

def leastNormal : Nat := 0x10000000000000

/-- The exponent at which the quotient has 53 significant bits, or the least
exponent for a smaller one. -/
def exponentOf (numerator denominator : Nat) : Int :=
  let guess : Int := (Nat.log2 numerator : Int) - Nat.log2 denominator - 52
  let (top, bottom) := scaled numerator denominator guess
  let exact := if top < leastNormal * bottom then guess - 1 else guess
  max exact leastExponent

def ofQuotient (negative : Bool) (numerator denominator : Nat) : Binary64 :=
  if numerator = 0 then zero negative
  else
    let exponent := exponentOf numerator denominator
    let (top, bottom) := scaled numerator denominator exponent
    let significand := roundQuotient top bottom
    let (significand, exponent) :=
      if significand = 2 * leastNormal then (leastNormal, exponent + 1) else (significand, exponent)
    if greatestExponent < exponent then .infinite negative
    else .finite negative significand exponent

def ofNat (value : Nat) : Binary64 := ofQuotient false value 1

def quotientOf (significand : Nat) (exponent : Int) : Nat × Nat :=
  if exponent < 0 then (significand, 1 <<< (-exponent).toNat)
  else (significand <<< exponent.toNat, 1)

/-- The number nearest to `digits * 10 ^ exponent`. Exponents beyond every
finite number are decided without computing the power. -/
def ofDecimal (negative : Bool) (digits : Nat) (exponent : Int) : Binary64 :=
  if digits = 0 then zero negative
  else
    let magnitude : Int := exponent + (Nat.log2 digits : Int) / 3
    if 400 < exponent then .infinite negative
    else if magnitude < -400 then zero negative
    else if exponent < 0 then ofQuotient negative digits (Nat.pow 10 (-exponent).toNat)
    else ofQuotient negative (digits * Nat.pow 10 exponent.toNat) 1

def negate : Binary64 → Binary64
  | .nan => .nan
  | .infinite negative => .infinite !negative
  | .finite negative significand exponent => .finite (!negative) significand exponent

/-! ## Arithmetic

The exact result of an operation is a quotient of natural numbers, which is
rounded once. -/

private def aligned (negative : Bool) (significand : Nat) (exponent least : Int) : Int :=
  let magnitude : Int := (significand <<< (exponent - least).toNat : Nat)
  if negative then -magnitude else magnitude

/-- The rounded sum. Two opposite numbers leave a positive zero. -/
def add : Binary64 → Binary64 → Binary64
  | .nan, _ | _, .nan => .nan
  | .infinite left, .infinite right => if left = right then .infinite left else .nan
  | .infinite negative, .finite _ _ _ | .finite _ _ _, .infinite negative => .infinite negative
  | .finite left leftSignificand leftExponent, .finite right rightSignificand rightExponent =>
      let least := min leftExponent rightExponent
      let sum := aligned left leftSignificand leftExponent least +
        aligned right rightSignificand rightExponent least
      let (numerator, denominator) := quotientOf sum.natAbs least
      ofQuotient (if sum = 0 then left && right else decide (sum < 0)) numerator denominator

def mul : Binary64 → Binary64 → Binary64
  | .nan, _ | _, .nan => .nan
  | .infinite left, .infinite right => .infinite (left != right)
  | .infinite left, .finite right significand _ | .finite right significand _, .infinite left =>
      if significand = 0 then .nan else .infinite (left != right)
  | .finite left leftSignificand leftExponent, .finite right rightSignificand rightExponent =>
      let (numerator, denominator) :=
        quotientOf (leftSignificand * rightSignificand) (leftExponent + rightExponent)
      ofQuotient (left != right) numerator denominator

def div : Binary64 → Binary64 → Binary64
  | .nan, _ | _, .nan => .nan
  | .infinite _, .infinite _ => .nan
  | .infinite left, .finite right _ _ => .infinite (left != right)
  | .finite left _ _, .infinite right => zero (left != right)
  | .finite left leftSignificand leftExponent, .finite right rightSignificand rightExponent =>
      if rightSignificand = 0 then
        if leftSignificand = 0 then .nan else .infinite (left != right)
      else
        let (numerator, denominator) := quotientOf leftSignificand (leftExponent - rightExponent)
        ofQuotient (left != right) numerator (denominator * rightSignificand)

/-- Whether a number is less than another. Nothing is less than what is no
number. -/
def isLess : Binary64 → Binary64 → Bool
  | .nan, _ | _, .nan => false
  | .infinite left, .infinite right => left && !right
  | .infinite left, .finite _ _ _ => left
  | .finite _ _ _, .infinite right => !right
  | .finite left leftSignificand leftExponent, .finite right rightSignificand rightExponent =>
      let least := min leftExponent rightExponent
      decide (aligned left leftSignificand leftExponent least <
        aligned right rightSignificand rightExponent least)

def isZero : Binary64 → Bool
  | .finite _ 0 _ => true
  | _ => false

def isInfinite : Binary64 → Bool
  | .infinite _ => true
  | _ => false

/-- One half is exact, and one tenth is the nearest of the neighbours. -/
example : ofQuotient false 1 2 = .finite false leastNormal (-53) := by decide +kernel

example : ofDecimal false 1 (-1) = .finite false 7205759403792794 (-56) := by
  decide +kernel

/-- The smallest positive number is reached by rounding, and half of it is zero. -/
example : ofDecimal false 5 (-324) = .finite false 1 (-1074) ∧
    ofDecimal false 2 (-324) = zero false := by decide +kernel

/-- A sum is rounded where its terms are not: three tenths are not one and two
tenths. -/
example : add (ofDecimal false 1 (-1)) (ofDecimal false 2 (-1)) ≠ ofDecimal false 3 (-1) := by
  decide +kernel

/-- Division and product do not undo each other. -/
example : mul (div (ofNat 1) (ofNat 49)) (ofNat 49) ≠ ofNat 1 ∧
    isLess (mul (div (ofNat 1) (ofNat 49)) (ofNat 49)) (ofNat 1) = true := by decide +kernel

end Binary64

end Bringup
