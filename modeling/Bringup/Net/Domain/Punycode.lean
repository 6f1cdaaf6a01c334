import Bringup.Text.Digits

namespace Bringup

/-! Labels of domain names written in ASCII.

The ASCII characters of a label stand first, up to the last hyphen. The others
follow as a list of numbers in the order of their code points: each number tells
how far to go from the place of the last insertion, through all places of the
label and then again for every code point in between. A number is a run of
digits to base 36, the lowest first, and a threshold for each digit tells where
the run ends. The thresholds follow the size of the numbers so far. -/

namespace Domain.Punycode

def lengthLimit : Nat := 2000

def greatestNumber : Nat := 0xFFFFFFFF

/-- Letters count from zero, whatever their case, and digits from 26. -/
def digit? (character : Char) : Option Nat :=
  if 'a' ≤ character ∧ character ≤ 'z' then some (character.toNat - 'a'.toNat)
  else if 'A' ≤ character ∧ character ≤ 'Z' then some (character.toNat - 'A'.toNat)
  else if Digits.isDecimal character then some (character.toNat - '0'.toNat + 26)
  else none

def threshold (place bias : Nat) : Nat :=
  if place ≤ bias then 1 else if bias + 26 ≤ place then 26 else place - bias

private def shrink : Nat → Nat → Nat → Nat × Nat
  | 0, number, steps => (number, steps)
  | fuel + 1, number, steps =>
      if 455 < number then shrink fuel (number / 35) (steps + 36) else (number, steps)

/-- The bias after a number, which was shared by `count` characters. -/
def adapt (number count : Nat) (isFirst : Bool) : Nat :=
  let halved := if isFirst then number / 700 else number / 2
  let (rest, steps) := shrink 8 (halved + halved / count) 0
  steps + 36 * rest / (rest + 38)

structure Progress where
  label : List Char
  code : Nat := 0x80
  /-- Where the last insertion ended. -/
  start : Nat := 0
  bias : Nat := 72
  /-- The place reached by the number being read. -/
  position : Nat := 0
  weight : Nat := 1
  place : Nat := 36
deriving DecidableEq, Repr

namespace Progress

def insert? (progress : Progress) (position : Nat) : Option Progress :=
  let count := progress.label.length + 1
  let code := progress.code + position / count
  let place := position % count
  if code < 0xD800 ∨ (0xDFFF < code ∧ code < 0x110000) then
    some {
      label := progress.label.take place ++ Char.ofNat code :: progress.label.drop place
      code
      start := place + 1
      bias := adapt (position - progress.start) count (progress.start = 0)
      position := place + 1 }
  else none

def add? (progress : Progress) (character : Char) : Option Progress := do
  let digit ← digit? character
  let limit := threshold progress.place progress.bias
  let position := progress.position + digit * progress.weight
  if greatestNumber < position then failure
  else if digit < limit then progress.insert? position
  else
    let weight := progress.weight * (36 - limit)
    if greatestNumber < weight then failure
    else return { progress with position, weight, place := progress.place + 36 }

end Progress

/-- The characters up to the last hyphen, and those after it. Where the only
hyphen stands first nothing is split off. -/
def splitLabel (written : List Char) : List Char × List Char :=
  match written.reverse.span (· ≠ '-') with
  | (extended, _ :: first :: basic) => ((first :: basic).reverse, extended.reverse)
  | _ => ([], written)

def decode? (written : List Char) : Option (List Char) := do
  if lengthLimit < written.length then failure
  let (basic, extended) := splitLabel written
  let last ← extended.foldlM Progress.add? { label := basic }
  if last.place = 36 then return last.label else failure

example : decode? "bcher-kva".toList = some "bücher".toList ∧
    decode? "fiqs8s".toList = some "中国".toList := by decide +kernel

example : decode? "999999999".toList = none ∧ decode? "a-b".toList = none := by decide +kernel

end Domain.Punycode

end Bringup
