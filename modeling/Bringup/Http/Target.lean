import Bringup.Net.Url

namespace Bringup

/-! The target of a request: a path with a query, or the same after a scheme and
an authority. What follows a number sign is not looked at. -/

namespace Http.Target

def lengthLimit : Nat := 65534

def isCarried (character : Char) : Bool := 0x20 < character.toNat && character ≠ '\x7f'

def isMethod (method : String) : Bool :=
  !method.isEmpty && method.toList.all fun character =>
    Url.isAsciiLetter character || Digits.isDecimal character ||
      "!#$%&'*+-.^_\x60|~".toList.contains character

/-! ## Path and query -/

def isPathCharacter (character : Char) : Bool := !("<>\x60".toList.contains character)

def isQueryCharacter (character : Char) : Bool := !("\"<>".toList.contains character)

def readPath? (characters : List Char) : Option (List Char) :=
  let (path, rest) := characters.span fun character => character ≠ '?' && character ≠ '#'
  let query := match rest with
    | '?' :: tail => tail.takeWhile (· ≠ '#')
    | _ => []
  if path.all isPathCharacter && query.all isQueryCharacter then some path else none

/-! ## Authority -/

/-- What was seen of an authority. A user name ends at an `@`, and the colons and
percent signs before it do not count; nor do those between brackets. -/
structure AuthorityScan where
  colons : Nat := 0
  isOpened : Bool := false
  isClosed : Bool := false
  hasPercent : Bool := false
  endsUser : Bool := false

namespace AuthorityScan

/-- No more colons than these stand between brackets or before an `@`. -/
def colonLimit : Nat := 8

def isAuthorityCharacter (character : Char) : Bool :=
  Url.isAsciiLetter character || Digits.isDecimal character ||
    "!$&'()*+,-.;=_~".toList.contains character

def add? (scan : AuthorityScan) (character : Char) : Option AuthorityScan :=
  let scan := { scan with endsUser := false }
  if character = ':' then
    if colonLimit ≤ scan.colons then none else some { scan with colons := scan.colons + 1 }
  else if character = '[' then
    if scan.hasPercent || scan.isOpened then none else some { scan with isOpened := true }
  else if character = ']' then
    if !scan.isOpened || scan.isClosed then none
    else some { scan with isClosed := true, colons := 0, hasPercent := false }
  else if character = '@' then
    some { scan with colons := 0, hasPercent := false, endsUser := true }
  else if character = '%' then some { scan with hasPercent := true }
  else if isAuthorityCharacter character then some scan
  else none

def isComplete (scan : AuthorityScan) : Bool :=
  scan.isOpened = scan.isClosed && scan.colons ≤ 1 && !scan.hasPercent && !scan.endsUser

end AuthorityScan

def skipAuthority? (characters : List Char) : Option (List Char) := do
  let (authority, rest) := characters.span fun character => !("/?#".toList.contains character)
  let scan ← authority.foldlM AuthorityScan.add? {}
  if scan.isComplete then return rest else failure

/-! ## Reading -/

def schemeLimit : Nat := 64

def skipScheme? (characters : List Char) : Option (List Char) :=
  let (scheme, rest) := characters.span Url.isSchemeCharacter
  match rest with
  | ':' :: '/' :: '/' :: rest => if scheme.length ≤ schemeLimit then some rest else none
  | _ => none

/-- The path that a target leads to. An authority alone leads to none. -/
def path? (target : String) : Option String :=
  match target.toList with
  | [] => none
  | '/' :: rest => (readPath? ('/' :: rest)).map String.ofList
  | characters =>
      match skipScheme? characters with
      | none =>
          match skipAuthority? characters with
          | some [] => some ""
          | _ => none
      | some rest => do
          let left ← skipAuthority? rest
          if left.length = rest.length then failure
          let path ← readPath? left
          return String.ofList path

example : path? "/a\x7b?x=1#<" = some "/a\x7b" ∧ path? "http://u%@h:80/b" = some "/b" ∧
    path? "h:80" = some "" := by decide +kernel

example : path? "/a?<" = none ∧ path? "http:/a" = none ∧ path? "%2Fa" = none ∧
    path? "x://h%/a" = none := by decide +kernel

end Http.Target

end Bringup
