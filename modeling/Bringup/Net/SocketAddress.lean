import Bringup.Text.Digits

namespace Bringup

/-! Socket addresses: an IP address and a port.

The accepted text is strict. An octet has one to three digits and no leading
zero, a group of an IPv6 address one to four hexadecimal digits, a port any
number of digits whose value fits, and nothing stands before or after. Host
names are not addresses. -/

inductive IpAddress where
  | v4 (octets : List Nat)
  | v6 (groups : List Nat)
deriving DecidableEq, Repr

structure SocketAddress where
  ip : IpAddress
  port : Nat
  /-- The zone of a link-local IPv6 address; zero when none is named. -/
  scope : Nat := 0
deriving DecidableEq, Repr

namespace SocketAddress

abbrev Reader (α : Type) := List Char → Option (α × List Char)

private def expect (character : Char) : Reader Unit
  | head :: rest => if head = character then some ((), rest) else none
  | [] => none

def octet : Reader Nat := fun characters =>
  let (digits, rest) := characters.span Digits.isDecimal
  let number := Digits.value 10 digits
  if digits = [] ∨ 3 < digits.length ∨ 255 < number then none
  else if digits.head? = some '0' ∧ 1 < digits.length then none
  else some (number, rest)

def dotted : Reader (List Nat) := fun characters => do
  let (first, rest) ← octet characters
  let ((), rest) ← expect '.' rest
  let (second, rest) ← octet rest
  let ((), rest) ← expect '.' rest
  let (third, rest) ← octet rest
  let ((), rest) ← expect '.' rest
  let (fourth, rest) ← octet rest
  return ([first, second, third, fourth], rest)

def bounded (limit : Nat) : Reader Nat := fun characters =>
  let (digits, rest) := characters.span Digits.isDecimal
  let number := Digits.value 10 digits
  if digits = [] ∨ limit < number then none else some (number, rest)

def group : Reader Nat := fun characters =>
  let (digits, rest) := characters.span Digits.isHexadecimal
  if digits = [] ∨ 4 < digits.length then none else some (Digits.value 16 digits, rest)

private def separator (isFirst : Bool) : Reader Unit := fun characters =>
  if isFirst then some ((), characters) else expect ':' characters

/-- Up to `room` groups separated by colons, and whether the last two were
written as four octets. A colon that no group follows is not consumed. -/
def groups (isFirst : Bool) : Nat → List Char → List Nat × Bool × List Char
  | 0, characters => ([], false, characters)
  | room + 1, characters =>
      let embedded := if room = 0 then none else do
        let ((), rest) ← separator isFirst characters
        dotted rest
      match embedded with
      | some ([first, second, third, fourth], rest) =>
          ([256 * first + second, 256 * third + fourth], true, rest)
      | _ =>
          match (separator isFirst characters).bind fun step => group step.2 with
          | none => ([], false, characters)
          | some (number, rest) =>
              let (more, isDotted, rest) := groups false room rest
              (number :: more, isDotted, rest)

/-- Eight groups, or fewer around one `::` that stands for the missing zeros. -/
def longAddress : Reader (List Nat) := fun characters => do
  let (front, isDotted, rest) := groups true 8 characters
  if front.length = 8 then return (front, rest)
  if isDotted then failure
  let ((), rest) ← expect ':' rest
  let ((), rest) ← expect ':' rest
  let (back, _, rest) := groups true (7 - front.length) rest
  return (front ++ List.replicate (8 - front.length - back.length) 0 ++ back, rest)

private def shortSocket : Reader SocketAddress := fun characters => do
  let (octets, rest) ← dotted characters
  let ((), rest) ← expect ':' rest
  let (port, rest) ← bounded 65535 rest
  return ({ ip := .v4 octets, port }, rest)

private def longSocket : Reader SocketAddress := fun characters => do
  let ((), rest) ← expect '[' characters
  let (address, rest) ← longAddress rest
  let (scope, rest) ←
    match rest with
    | '%' :: tail => bounded 0xFFFFFFFF tail
    | _ => some (0, rest)
  let ((), rest) ← expect ']' rest
  let ((), rest) ← expect ':' rest
  let (port, rest) ← bounded 65535 rest
  return ({ ip := .v6 address, port, scope }, rest)

def read? (text : String) : Option SocketAddress :=
  match (shortSocket text.toList).or (longSocket text.toList) with
  | some (address, []) => some address
  | _ => none

/-! ## Written form -/

/-- The longest run of zero groups, as its start and length; the first of
several. -/
private def zeroRun (address : List Nat) : Nat × Nat :=
  let runAt := fun start => ((address.drop start).takeWhile (· = 0)).length
  (List.range address.length).foldl
    (fun best start => if best.2 < runAt start then (start, runAt start) else best) (0, 0)

private def joinGroups (address : List Nat) : String :=
  String.intercalate ":" (address.map fun number => String.ofList (Nat.toDigits 16 number))

private def writeOctets (octets : List Nat) : String :=
  String.intercalate "." (octets.map toString)

def writeIp : IpAddress → String
  | .v4 octets => writeOctets octets
  | .v6 [0, 0, 0, 0, 0, 0xFFFF, high, low] =>
      "::ffff:" ++ writeOctets [high / 256, high % 256, low / 256, low % 256]
  | .v6 address =>
      let (start, count) := zeroRun address
      if count < 2 then joinGroups address
      else joinGroups (address.take start) ++ "::" ++ joinGroups (address.drop (start + count))

def write (address : SocketAddress) : String :=
  match address.ip with
  | .v4 _ => writeIp address.ip ++ ":" ++ toString address.port
  | .v6 _ =>
      "[" ++ writeIp address.ip ++
        (if address.scope = 0 then "" else "%" ++ toString address.scope) ++
        "]:" ++ toString address.port

example : read? "01.2.3.4:80" = none ∧ read? "localhost:80" = none ∧ read? "1.2.3.4:65536" = none := by
  decide +kernel

example : (read? "[1::ffff:0:0]:080").map write = some "[1::ffff:0:0]:80" := by decide +kernel

example : (read? "[::ffff:1.2.3.4]:1").map write = some "[::ffff:1.2.3.4]:1" := by decide +kernel

end SocketAddress

/-! ## Listening -/

namespace IpAddress

def loopback4 : IpAddress := .v4 [127, 0, 0, 1]

def loopback6 : IpAddress := .v6 [0, 0, 0, 0, 0, 0, 0, 1]

/-- An IPv4 address in the form of an IPv6 address is the IPv4 address. -/
def unmapped : IpAddress → IpAddress
  | .v6 [0, 0, 0, 0, 0, 0xFFFF, high, low] =>
      .v4 [high / 256, high % 256, low / 256, low % 256]
  | address => address

def isLoopback (address : IpAddress) : Bool :=
  match address.unmapped with
  | .v4 octets => octets.head? = some 127
  | .v6 groups => .v6 groups = loopback6

/-- Where a connection to an address goes. The address that stands for every address
of a machine leads to the machine itself. -/
def destination (address : IpAddress) : IpAddress :=
  match address.unmapped with
  | .v4 octets => if octets.all (· = 0) then loopback4 else .v4 octets
  | .v6 groups => if groups.all (· = 0) then loopback6 else .v6 groups

/-- Whether a socket that listens on one address takes what is sent to another. The
address that stands for all IPv6 addresses stands for the IPv4 addresses as well. -/
def covers (listening sent : IpAddress) : Bool :=
  match listening.unmapped, sent.unmapped with
  | .v4 octets, .v4 sent => octets = sent || octets.all (· = 0)
  | .v4 _, .v6 _ => false
  | .v6 groups, .v4 _ => groups.all (· = 0)
  | .v6 groups, .v6 sent => groups = sent || groups.all (· = 0)

end IpAddress

namespace SocketAddress

def zone (address : SocketAddress) : Nat :=
  match address.ip with
  | .v6 (first :: _) => if 0xFE80 ≤ first ∧ first < 0xFEC0 then address.scope else 0
  | _ => 0

def covers (listening sent : SocketAddress) : Bool :=
  listening.port = sent.port && listening.ip.covers sent.ip &&
    (listening.zone = 0 || listening.zone = sent.zone)

theorem covers_self (address : SocketAddress) : address.covers address = true := by
  have ip : address.ip.covers address.ip = true := by
    unfold IpAddress.covers
    cases address.ip.unmapped <;> simp
  simp [covers, ip]

/-- Whether two sockets cannot listen at once. Port zero stands for any free
port. -/
def conflicts (first second : SocketAddress) : Bool :=
  first.port ≠ 0 && (first.covers second || second.covers first)

example : ((read? "[::]:1").bind fun all => (read? "1.2.3.4:1").map all.conflicts) = some true ∧
    ((read? "[::1]:1").bind fun one => (read? "0.0.0.0:1").map one.conflicts) = some false := by
  decide +kernel

end SocketAddress

end Bringup
