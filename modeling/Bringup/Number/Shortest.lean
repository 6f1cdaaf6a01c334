import Bringup.Number.Binary64

namespace Bringup

/-! The shortest decimal that reads back.

The numbers that round to a finite binary number form an interval around it,
whose ends belong to it exactly when the significand is even. The shortest
decimal is found grid by grid: on the grid of `count` significant digits the
two neighbours of the number are tried, the first grid with a neighbour inside
the interval wins, and of two such neighbours the nearer one. Where both are
equally near a rule for ties decides. -/

structure Decimal where
  digits : Nat
  exponent : Int
deriving DecidableEq, Repr

namespace Decimal

def digitCount (digits : Nat) : Nat := (Nat.toDigits 10 digits).length

private def trim : Nat → Decimal → Decimal
  | 0, value => value
  | fuel + 1, value =>
      if value.digits ≠ 0 ∧ value.digits % 10 = 0 then
        trim fuel ⟨value.digits / 10, value.exponent + 1⟩
      else value

def trimmed (value : Decimal) : Decimal := trim (digitCount value.digits) value

def leading (value : Decimal) : Int := value.exponent + digitCount value.digits - 1

end Decimal

namespace Shortest

inductive Tie where
  | toEven
  | up
deriving DecidableEq, Repr

namespace Tie

def takesUpper (tie : Tie) (lower : Nat) : Bool :=
  match tie with
  | toEven => lower % 2 = 1
  | up => true

end Tie

/-- A positive number together with the interval that rounds to it. All three
are numerators over one denominator. -/
structure Target where
  low : Nat
  value : Nat
  high : Nat
  denominator : Nat
  closed : Bool

/-- The interval of a positive significand. Below a power of two the lower
neighbour is only half as far away. -/
def target (significand : Nat) (exponent : Int) : Target :=
  let lowest := if significand = Binary64.leastNormal ∧ Binary64.leastExponent < exponent then 1 else 2
  let factor := (Binary64.quotientOf 1 (exponent - 2)).1
  { low := (4 * significand - lowest) * factor
    value := 4 * significand * factor
    high := (4 * significand + 2) * factor
    denominator := (Binary64.quotientOf 1 (exponent - 2)).2
    closed := significand % 2 = 0 }

/-- Whether `digits * 10 ^ exponent` rounds to the number. -/
def Target.holds (goal : Target) (candidate : Decimal) : Bool :=
  let power := Nat.pow 10 candidate.exponent.natAbs
  let (value, unit) :=
    if candidate.exponent < 0 then (candidate.digits * goal.denominator, power)
    else (candidate.digits * goal.denominator * power, 1)
  if goal.closed then goal.low * unit ≤ value && value ≤ goal.high * unit
  else goal.low * unit < value && value < goal.high * unit

private def raise (goal : Target) : Nat → Int → Int
  | 0, guess => guess
  | fuel + 1, guess =>
      let (top, bottom) :=
        if guess + 1 < 0 then (goal.value * Nat.pow 10 (-(guess + 1)).toNat, goal.denominator)
        else (goal.value, goal.denominator * Nat.pow 10 (guess + 1).toNat)
      if bottom ≤ top then raise goal fuel (guess + 1) else guess

def Target.leading (goal : Target) : Int :=
  let bits : Int := (Nat.log2 goal.value : Int) - Nat.log2 goal.denominator
  raise goal 4 (bits * 30103 / 100000 - 2)

/-- The lower neighbour of the number on the grid of a power of ten, and whether
the upper one is to be preferred. -/
def Target.neighbours (goal : Target) (tie : Tie) (exponent : Int) : Nat × Bool :=
  let (top, bottom) :=
    if exponent < 0 then (goal.value * Nat.pow 10 (-exponent).toNat, goal.denominator)
    else (goal.value, goal.denominator * Nat.pow 10 exponent.toNat)
  let lower := top / bottom
  let twice := 2 * (top % bottom)
  (lower, if twice = bottom then tie.takesUpper lower else decide (bottom < twice))

private def search (goal : Target) (tie : Tie) (leading : Int) (count : Nat) : Nat → Decimal
  | 0 => ⟨(goal.neighbours tie (leading + 1 - count)).1, leading + 1 - count⟩
  | fuel + 1 =>
      let exponent := leading + 1 - count
      let (lower, prefersUpper) := goal.neighbours tie exponent
      let below : Decimal := ⟨lower, exponent⟩
      let above : Decimal := ⟨lower + 1, exponent⟩
      match goal.holds below, goal.holds above with
      | true, true => if prefersUpper then above else below
      | true, false => below
      | false, true => above
      | false, false => search goal tie leading (count + 1) fuel

end Shortest

def Decimal.shortest (tie : Shortest.Tie) (significand : Nat) (exponent : Int) : Decimal :=
  let goal := Shortest.target significand exponent
  (Shortest.search goal tie goal.leading 1 17).trimmed

/-- One tenth needs one digit, although it is not a binary fraction. -/
example : Decimal.shortest .toEven 7205759403792794 (-56) = ⟨1, -1⟩ := by decide +kernel

/-- The smallest positive number is written with one digit. -/
example : Decimal.shortest .toEven 1 (-1074) = ⟨5, -324⟩ := by decide +kernel

/-- A number halfway between two decimals of equal length. -/
example : Decimal.shortest .toEven 4503599627370497 (-2) = ⟨11258999068426242, -1⟩ ∧
    Decimal.shortest .up 4503599627370497 (-2) = ⟨11258999068426243, -1⟩ := by decide +kernel

end Bringup
