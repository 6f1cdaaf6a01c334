import Bringup.Net.Domain.Folding
import Bringup.Net.Domain.Punycode
import Bringup.Text.Composition
import Bringup.Text.Direction
import Bringup.Text.Joining

namespace Bringup

/-! Domain names in any script.

A name is folded and composed, and its labels are taken out of their ASCII
spelling. Then no label starts with a mark or holds a joiner without reason, and
if any of them is written from right to left, each keeps one direction. -/

namespace Domain

def isForbidden (character : Char) : Bool :=
  character.toNat ≤ 0x20 || character = '\x7f' ||
    "#%/:<>?@[\\]^|".toList.contains character

def isAscii (character : Char) : Bool := character.toNat < 0x80

/-- A label in other scripts is at most this long, unless it was spelled in
ASCII. -/
def labelLimit : Nat := 1000

def spelling? : List Char → Option (List Char)
  | 'x' :: 'n' :: '-' :: '-' :: rest => some rest
  | _ => none

/-- Whether a label that was spelled in ASCII needed it and is in the form that
folding leaves. -/
def isPlain (label : List Char) : Bool :=
  !label.all isAscii && label.all Folding.isFolded && Composition.compose label = label &&
    (spelling? label).isNone

def unspell? (label : List Char) : Option (List Char) :=
  match spelling? label with
  | none => if label.all isAscii || label.length ≤ labelLimit then some label else none
  | some written =>
      if written.all isAscii then (Punycode.decode? written).filter isPlain else none

/-- Whether a label starts with no mark and its joiners stand where they may. -/
def isWellFormed (label : List Char) : Bool :=
  !label.head?.any Marks.contains && Joining.isWellPlaced [] label

def areCompatible (labels : List (List Char)) : Bool :=
  !(labels.any fun label => label.any Direction.isBackward) || labels.all Direction.isUniform

def normalize? (name : String) : Option (List Char) := do
  let folded ← name.toList.mapM Folding.fold?
  let composed := Composition.compose folded.flatten
  if composed.any isForbidden then failure
  let labels ← (composed.splitOn '.').mapM unspell?
  if labels.all isWellFormed && areCompatible labels then
    return List.intercalate ['.'] labels
  else failure

example : normalize? "Example.COM." = some "example.com.".toList ∧ normalize? "a b" = none := by
  decide +kernel

example : normalize? "a.xn--" = none ∧ normalize? "xn--abc-" = none := by decide +kernel

end Domain

end Bringup
