import Bringup.Number.Layout
import Bringup.Text.Quoted
import Bringup.Toml.Value

namespace Bringup

/-! How an error describes the value that it found. -/

inductive Outline where
  | text (text : String)
  | whole (number : Int)
  | real (number : Binary64)
  | flag (isSet : Bool)
  | list
  | table
deriving DecidableEq, Repr

namespace Outline

def of : Toml.Value → Outline
  | .text written => .text written
  | .whole number => .whole number
  | .real number => .real number
  | .flag isSet => .flag isSet
  | .moment written => .text written
  | .list _ => .list
  | .table _ => .table

/-- Numbers with a fraction are written positionally whatever their size, and
always with a point. -/
def realLayout : DecimalLayout where
  positional := none
  tie := .up
  nan := "NaN.0"
  infinity := "inf.0"

def describe : Outline → String
  | text written => "string " ++ quoted written
  | whole number => "integer \x60" ++ toString number ++ "\x60"
  | real number => "floating point \x60" ++ realLayout.write number ++ "\x60"
  | flag isSet => "boolean \x60" ++ toString isSet ++ "\x60"
  | list => "sequence"
  | table => "map"

end Outline

end Bringup
