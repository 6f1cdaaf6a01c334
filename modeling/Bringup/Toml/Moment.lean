import Bringup.Toml.Fault
import Bringup.Text.Digits

namespace Bringup

/-! Dates and times. Each reader gives the canonical text of what it read:
separators in upper case, at most nine digits of a second and none that are zero
at the end, and an offset of zero with a plus sign. -/

namespace Toml.Moment

/-- What a reader found: nothing of its kind, or a moment that may be faulty. -/
inductive Found where
  | absent
  | faulty (rest : List Char)
  | present (text : String) (rest : List Char)

private def take? (count : Nat) (characters : List Char) : Option (List Char × List Char) :=
  let digits := characters.take count
  if digits.length = count ∧ digits.all Digits.isDecimal then some (digits, characters.drop count)
  else none

private def between (low high : Nat) (digits : List Char) : Bool :=
  low ≤ Digits.value 10 digits && Digits.value 10 digits ≤ high

def isLeap (year : Nat) : Bool :=
  year % 4 = 0 && (year % 100 ≠ 0 || year % 400 = 0)

def daysIn (year month : Nat) : Nat :=
  if month = 2 then (if isLeap year then 29 else 28)
  else if month = 4 ∨ month = 6 ∨ month = 9 ∨ month = 11 then 30
  else 31

def readDate (characters : List Char) : Found :=
  match take? 4 characters with
  | some (year, '-' :: rest) =>
      match take? 2 rest with
      | some (month, '-' :: tail) =>
          match take? 2 tail with
          | some (day, left) =>
              if !between 1 12 month then .faulty rest
              else if between 1 (daysIn (Digits.value 10 year) (Digits.value 10 month)) day then
                .present (String.ofList (year ++ '-' :: month ++ '-' :: day)) left
              else .faulty tail
          | none => .faulty tail
      | _ => .faulty rest
  | _ => .absent

private def dropZeros (digits : List Char) : List Char :=
  (digits.reverse.dropWhile (· = '0')).reverse

def readTime (characters : List Char) : Found :=
  match take? 2 characters with
  | some (hour, ':' :: rest) =>
      if !between 0 23 hour then .absent
      else
        match take? 2 rest with
        | some (minute, ':' :: tail) =>
            match take? 2 tail with
            | some (second, left) =>
                if !between 0 59 minute then .faulty rest
                else if !between 0 60 second then .faulty tail
                else
                  let text := hour ++ ':' :: minute ++ ':' :: second
                  match left with
                  | '.' :: after =>
                      let (digits, left) := after.span Digits.isDecimal
                      if digits = [] then .present (String.ofList text) ('.' :: after)
                      else
                        let kept := dropZeros (digits.take 9)
                        let fraction := if kept = [] then [] else '.' :: kept
                        .present (String.ofList (text ++ fraction)) left
                  | _ => .present (String.ofList text) left
            | none => .faulty tail
        | _ => .faulty rest
  | _ => .absent

def readOffset (characters : List Char) : Found :=
  match characters with
  | 'Z' :: rest | 'z' :: rest => .present "Z" rest
  | sign :: rest =>
      if sign ≠ '+' ∧ sign ≠ '-' then .absent
      else
        match take? 2 rest with
        | some (hour, ':' :: tail) =>
            match take? 2 tail with
            | some (minute, left) =>
                if between 0 23 hour && between 0 59 minute then
                  let isZero := Digits.value 10 hour = 0 ∧ Digits.value 10 minute = 0
                  let sign := if isZero then '+' else sign
                  .present (String.ofList (sign :: hour ++ ':' :: minute)) left
                else .faulty rest
            | none => .faulty tail
        | _ => .faulty rest
  | [] => .absent

private def readZoned (date : String) (characters : List Char) : Found :=
  match readTime characters with
  | .absent => .absent
  | .faulty rest => .faulty rest
  | .present time rest =>
      match readOffset rest with
      | .absent => .present (date ++ "T" ++ time) rest
      | .faulty rest => .faulty rest
      | .present offset rest => .present (date ++ "T" ++ time ++ offset) rest

def read (characters : List Char) : Found :=
  match readDate characters with
  | .absent => readTime characters
  | .faulty rest => .faulty rest
  | .present date rest =>
      match rest with
      | mark :: tail =>
          if mark = 'T' ∨ mark = 't' ∨ mark = ' ' then
            match readZoned date tail with
            | .absent => .present date rest
            | found => found
          else .present date rest
      | [] => .present date rest

/-! ## A moment between quotes

Text that has to be a moment as a whole is read a little differently: an offset
may reach a full day, and nothing may follow. -/

private def twoDigits (number : Nat) : List Char :=
  [Nat.digitChar (number / 10), Nat.digitChar (number % 10)]

def offset? (characters : List Char) : Option (List Char) :=
  match characters with
  | [] => some []
  | ['Z'] | ['z'] => some ['Z']
  | sign :: rest =>
      if sign ≠ '+' ∧ sign ≠ '-' then none
      else
        match take? 2 rest with
        | some (hour, ':' :: tail) =>
            match take? 2 tail with
            | some (minute, []) =>
                let total := 60 * Digits.value 10 hour + Digits.value 10 minute
                if 24 * 60 < total then none
                else
                  let sign := if total = 0 then '+' else sign
                  some (sign :: twoDigits (total / 60) ++ ':' :: twoDigits (total % 60))
            | _ => none
        | _ => none

def canonical? (written : String) : Option String :=
  let characters := written.toList
  match characters with
  | _ :: _ :: ':' :: _ =>
      match readTime characters with
      | .present time [] => some time
      | _ => none
  | _ =>
      match readDate characters with
      | .present date [] => some date
      | .present date (mark :: tail) =>
          if mark = 'T' ∨ mark = 't' ∨ mark = ' ' then
            match readTime tail with
            | .present time rest =>
                (offset? rest).map fun offset => date ++ "T" ++ time ++ String.ofList offset
            | _ => none
          else none
      | _ => none

example : canonical? "1979-05-27 07:32:00.500-23:60" = some "1979-05-27T07:32:00.5-24:00" ∧
    canonical? "1979-02-29" = none ∧ canonical? "07:32:00Z" = none := by decide +kernel

end Toml.Moment

end Bringup
