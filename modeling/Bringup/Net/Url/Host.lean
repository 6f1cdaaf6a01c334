import Bringup.Net.Domain.Name
import Bringup.Net.SocketAddress
import Bringup.Text.Bytes

namespace Bringup

/-! The host of a URL.

The host of a special scheme is a domain name or an IP address: percent signs
are decoded, the name is brought into its normal form, and a name whose last
label is a number must be an IPv4 address. The host of any other scheme is opaque text in which a few
delimiters are refused. Either may be an IPv6 address in brackets. -/

inductive UrlError where
  | relativeWithoutBase
  | emptyHost
  | invalidPort
  | invalidIpv4
  | invalidIpv6
  | invalidDomainCharacter
  | invalidDomainName
deriving DecidableEq, Repr

namespace UrlError

def message : UrlError → String
  | relativeWithoutBase => "relative URL without a base"
  | emptyHost => "empty host"
  | invalidPort => "invalid port number"
  | invalidIpv4 => "invalid IPv4 address"
  | invalidIpv6 => "invalid IPv6 address"
  | invalidDomainCharacter => "invalid domain character"
  | invalidDomainName => "invalid international domain name"

end UrlError

inductive UrlHost where
  | domain (name : String)
  | address (ip : IpAddress)
deriving DecidableEq, Repr

namespace UrlHost

/-! ## IPv4 addresses in their loose form -/

def looseNumber? (label : List Char) : Option Nat :=
  let number (base : Nat) (digits : List Char) : Option Nat :=
    let isValid := fun character =>
      if base = 8 then '0' ≤ character && character ≤ '7'
      else if base = 10 then Digits.isDecimal character
      else Digits.isHexadecimal character
    if digits.all isValid then some (Digits.value base digits) else none
  match label with
  | [] => none
  | '0' :: 'x' :: digits => number 16 digits
  | '0' :: 'X' :: digits => number 16 digits
  | '0' :: first :: digits => number 8 (first :: digits)
  | digits => number 10 digits

def labels (name : List Char) : List (List Char) :=
  let all := name.splitOn '.'
  if all.getLast? = some [] then all.dropLast else all

/-- Whether the last label of a name is a number, so that the name must be an
address. -/
def endsInNumber (name : List Char) : Bool :=
  match (labels name).getLast? with
  | none => false
  | some last =>
      (last ≠ [] && last.all Digits.isDecimal) || (looseNumber? last).isSome

/-- The octets of one to four numbers, the last of which fills those that are
left. -/
def octets? (numbers : List Nat) : Option (List Nat) := do
  let last ← numbers.getLast?
  let leading := numbers.dropLast
  if 3 < leading.length || leading.any (255 < ·) then failure
  if Nat.pow 256 (4 - leading.length) ≤ last then failure
  let rest := (List.range (4 - leading.length)).map fun place =>
    last / Nat.pow 256 (3 - leading.length - place) % 256
  return leading ++ rest

def looseAddress? (name : List Char) : Option (List Nat) :=
  ((labels name).mapM looseNumber?).bind octets?

/-! ## Reading -/

private def bracketed (text : List Char) : Except UrlError UrlHost :=
  match text.getLast? with
  | some ']' =>
      match SocketAddress.longAddress text.dropLast with
      | some (groups, []) => .ok (.address (.v6 groups))
      | _ => .error .invalidIpv6
  | _ => .error .invalidIpv6

def readSpecial : List Char → Except UrlError UrlHost
  | '[' :: text => bracketed text
  | text =>
      match (Bytes.decode? (Bytes.ofPercent text)).bind Domain.normalize? with
      | none => .error .invalidDomainName
      | some [] => .error .emptyHost
      | some name =>
          if endsInNumber name then
            match looseAddress? name with
            | some octets => .ok (.address (.v4 octets))
            | none => .error .invalidIpv4
          else .ok (.domain (String.ofList name))

def isDelimiter (character : Char) : Bool :=
  "\x00\t\n\r #/:<>?@[\\]^|".toList.contains character

def isControl (character : Char) : Bool :=
  character.toNat < 0x20 || 0x7E < character.toNat

def readOpaque : List Char → Except UrlError UrlHost
  | '[' :: text => bracketed text
  | text =>
      if text.any isDelimiter then .error .invalidDomainCharacter
      else .ok (.domain (Bytes.toPercent isControl (String.ofList text)))

def write : UrlHost → String
  | .domain name => name
  | .address (.v4 octets) => SocketAddress.writeIp (.v4 octets)
  | .address (.v6 groups) => "[" ++ SocketAddress.writeIp (.v6 groups) ++ "]"

example : (readSpecial "0x7f.1".toList).toOption = some (.address (.v4 [127, 0, 0, 1])) := by
  decide +kernel

example : (readSpecial "1.2.3.400".toList).toOption = none := by decide +kernel

example : (readOpaque "ho st".toList).toOption = none := by decide +kernel

end UrlHost

end Bringup
