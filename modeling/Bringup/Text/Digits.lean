namespace Bringup

/-! Runs of ASCII digits and the numbers they spell.

Readers throughout the library take a run of digits from the front of a text
with `List.span` and read it here. Only ASCII digits count: the digits of other
scripts are ordinary characters. -/

namespace Digits

def isDecimal (character : Char) : Bool :=
  '0' ≤ character && character ≤ '9'

def isHexadecimal (character : Char) : Bool :=
  isDecimal character || ('a' ≤ character && character ≤ 'f') ||
    ('A' ≤ character && character ≤ 'F')

def digit (character : Char) : Nat :=
  if isDecimal character then character.toNat - '0'.toNat
  else if 'a' ≤ character then character.toNat - 'a'.toNat + 10
  else character.toNat - 'A'.toNat + 10

def value (base : Nat) (digits : List Char) : Nat :=
  digits.foldl (fun total character => base * total + digit character) 0

theorem value_append_singleton (base : Nat) (digits : List Char) (last : Char) :
    value base (digits ++ [last]) = base * value base digits + digit last := by
  simp [value]

/-! Decimals as they are written. -/

theorem isDecimal_of_mem_toDigits {number : Nat} {digit : Char}
    (member : digit ∈ Nat.toDigits 10 number) : isDecimal digit = true := by
  have isDigit := Nat.isDigit_of_mem_toDigits (by decide) (by decide) member
  simpa [Char.isDigit, isDecimal, Char.le_def] using isDigit

private theorem foldl_eq_ofDigitChars {digits : List Char}
    (decimal : ∀ digit ∈ digits, isDecimal digit = true) (total : Nat) :
    digits.foldl (fun total character => 10 * total + digit character) total =
      Nat.ofDigitChars 10 digits total := by
  induction digits generalizing total with
  | nil => rfl
  | cons first rest induction =>
      rw [List.forall_mem_cons] at decimal
      rw [List.foldl_cons, induction decimal.2, digit, if_pos decimal.1]
      rfl

theorem value_toDigits (number : Nat) : value 10 (Nat.toDigits 10 number) = number :=
  (foldl_eq_ofDigitChars (fun _ => isDecimal_of_mem_toDigits) 0).trans
    Nat.ofDigitChars_ten_toDigits

example : value 10 "0042".toList = 42 := by decide

example : value 16 "fF".toList = 255 := by decide

end Digits

/-! Signed whole numbers of 64 bits, and counts of any width. -/

namespace WholeNumber

def least : Int := -0x8000000000000000

def greatest : Int := 0x7FFFFFFFFFFFFFFF

def fit? (negative : Bool) (magnitude : Nat) : Option Int :=
  let number : Int := if negative then -magnitude else magnitude
  if least ≤ number ∧ number ≤ greatest then some number else none

def readMagnitude? (digits : List Char) : Option Nat :=
  if digits ≠ [] ∧ digits.all Digits.isDecimal then some (Digits.value 10 digits) else none

def read? (text : String) : Option Int :=
  match text.toList with
  | '-' :: digits => (readMagnitude? digits).bind (fit? true)
  | '+' :: digits => (readMagnitude? digits).bind (fit? false)
  | digits => (readMagnitude? digits).bind (fit? false)

def readCount? (text : String) : Option Nat :=
  match text.toList with
  | '+' :: digits => readMagnitude? digits
  | digits => readMagnitude? digits

example : readCount? "+07" = some 7 ∧ readCount? "-0" = none := by decide +kernel

example : read? "-9223372036854775808" = some least := by decide +kernel

example : read? "9223372036854775808" = none ∧ read? "++1" = none ∧ read? "" = none := by
  decide +kernel

end WholeNumber

end Bringup
