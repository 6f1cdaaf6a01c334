import Bringup.Number.Binary64

namespace Bringup

/-! How alike two words are.

Two characters match if they are equal and stand about as far from the start.
The measure of Jaro weighs the share of matching characters in either word and
how many of them are in order. It lies between zero and one and is computed in
binary numbers, so equal fractions may differ in their last bit. -/

namespace Similarity

/-- The position of the first free match of a character, counted from
`position`, between two bounds. -/
def findMatch (character : Char) (least bound position : Nat) :
    List (Char × Bool) → Option Nat
  | [] => none
  | (other, isTaken) :: rest =>
      if bound ≤ position then none
      else if least ≤ position && character = other && !isTaken then some position
      else findMatch character least bound (position + 1) rest

/-- The characters of the first word that have a match, and the second word with
its matches marked. -/
def matchAll (range position : Nat) (second : List (Char × Bool)) :
    List Char → List Char × List (Char × Bool)
  | [] => ([], second)
  | character :: rest =>
      match findMatch character (position - range) (position + range + 1) 0 second with
      | none => matchAll range (position + 1) second rest
      | some found =>
          let (matched, marked) :=
            matchAll range (position + 1) (second.modify found fun entry => (entry.1, true)) rest
          (character :: matched, marked)

def jaro (first second : List Char) : Binary64 :=
  if first.isEmpty && second.isEmpty then .ofNat 1
  else
    let range := max first.length second.length / 2 - 1
    let (matched, marked) := matchAll range 0 (second.map fun character => (character, false)) first
    let others := (marked.filter Prod.snd).map Prod.fst
    let count := matched.length
    if count = 0 then .zero false
    else
      let swapped := ((matched.zip others).countP fun pair => pair.1 ≠ pair.2) / 2
      let shares := ((Binary64.ofQuotient false count first.length).add
        (.ofQuotient false count second.length)).add (.ofQuotient false (count - swapped) count)
      shares.div (.ofNat 3)

def threshold : Binary64 := .ofDecimal false 7 (-1)

def place (entry : Binary64 × String) : List (Binary64 × String) → List (Binary64 × String)
  | [] => [entry]
  | first :: rest =>
      if entry.1.isLess first.1 then entry :: first :: rest else first :: place entry rest

def suggestions (word : String) (known : List String) : List String :=
  let measured := known.map fun candidate => (jaro word.toList candidate.toList, candidate)
  let close := measured.filter fun entry => threshold.isLess entry.1
  (close.foldl (fun sorted entry => place entry sorted) []).map Prod.snd

/-- Rounding puts one share of seven tenths above the threshold. -/
example : suggestions "teaet" ["health", "status", "help"] = ["health", "status"] := by
  decide +kernel

/-- Two measures that are equal as fractions differ once they are rounded. -/
example : suggestions "healtp" ["health", "status", "help"] = ["help", "health"] := by
  decide +kernel

end Similarity

end Bringup
