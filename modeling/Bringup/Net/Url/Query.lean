import Bringup.Net.Url

namespace Bringup

/-! The parameters in the query of a URL: pairs around an equals sign between
ampersands, in which a plus sign is a blank. -/

namespace Url

def decodePart? (part : String) : Option String := Bytes.decode? (Bytes.ofPercent part.toList)

private def decodeParameter (part : List Char) : String :=
  Bytes.decodeLenient (Bytes.ofPercent (part.map fun character =>
    if character = '+' then ' ' else character))

def parameters (url : Url) : List (String × String) :=
  match url.query with
  | none => []
  | some query =>
      ((query.toList.splitOn '&').filter fun part => !part.isEmpty).map fun part =>
        let (name, rest) := part.span (· ≠ '=')
        (decodeParameter name, decodeParameter (rest.drop 1))

example : parameters { scheme := "x", query := some "a=1%2B&&b+c" } =
    [("a", "1+"), ("b c", "")] := by decide +kernel

end Url

end Bringup
