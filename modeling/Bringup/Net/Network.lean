import Bringup.Net.SocketAddress
import Bringup.Net.Url.Host

namespace Bringup

/-! The network around a process: whether it is up, which servers stand on it,
and on which addresses sockets can be opened. -/

inductive DatabaseServer where
  | accepting
  | refusingLogins (message : String)
  | refusingQueries (message : String)
deriving DecidableEq, Repr

inductive CacheServer where
  | replying (reply : String)
  /-- Answers with an error, with nothing, or by closing the connection. -/
  | failing
  /-- Never answers anything. -/
  | silent
deriving DecidableEq, Repr

inductive Listener where
  | exporter
  | server
deriving DecidableEq, Repr

/-- Why a socket cannot be opened, in the words of the system. -/
structure BindFault where
  message : String
deriving DecidableEq, Repr

namespace BindFault

def addressInUse : BindFault := ⟨"Address already in use (os error 98)"⟩

end BindFault

structure Network where
  isUp : Bool := false
  database : Option (SocketAddress × DatabaseServer) := none
  cache : Option (SocketAddress × CacheServer) := none
  /-- Addresses that other sockets listen on. -/
  occupied : List SocketAddress := []
  /-- Why the system opens no socket on an address, apart from its being taken: it
  is not an address of this machine, say, or its port is reserved. -/
  bindFault? : Listener → SocketAddress → Option BindFault := fun _ _ => none
  /-- The port that the system chooses where any will do. -/
  freePort : Listener → Nat := fun _ => 0
  /-- The address at which metrics are looked for. -/
  metrics : Option SocketAddress := none
  /-- The address to which requests are sent. -/
  http : String := ""

namespace Network

/-- The address that a socket gets. Port zero asks for any free port. -/
def given (network : Network) (listener : Listener) (address : SocketAddress) : SocketAddress :=
  if address.port = 0 then { address with port := network.freePort listener } else address

/-! ## Names of this machine -/

/-- A number as the resolver of names reads it: in hexadecimal after `0x`, in
octal after `0`, and else in decimal. -/
def resolvedNumber? (part : List Char) : Option Nat :=
  match part with
  | ['0', 'x'] | ['0', 'X'] => none
  | part => UrlHost.looseNumber? part

def resolvedAddress? (name : String) : Option (List Nat) := do
  let parts ← (name.toList.splitOn '.').mapM resolvedNumber?
  UrlHost.octets? parts

private def unbracketed (name : List Char) : List Char :=
  let isBracket := fun character => character = '[' || character = ']'
  ((name.dropWhile isBracket).reverse.dropWhile isBracket).reverse

/-- The addresses that a host of a URL stands for. The only name that is known is
the one of this machine. -/
def addressesOf : UrlHost → List IpAddress
  | .address ip => [ip]
  | .domain name =>
      let name := unbracketed name.toList
      if name.map Char.toLower = "localhost".toList then [.loopback6, .loopback4]
      else
        match resolvedAddress? (String.ofList name), SocketAddress.longAddress name with
        | some octets, _ => [.v4 octets]
        | none, some (groups, []) => [.v6 groups]
        | none, _ => []

example : addressesOf (.domain "0177.1") = [.v4 [127, 0, 0, 1]] ∧
    addressesOf (.domain "[::1]") = [.loopback6] ∧ addressesOf (.domain "127.0.0.1.") = [] := by
  decide +kernel

/-! ## Reaching servers -/

/-- Whether a connection to a host and a port comes to a socket that listens on an
address. On a machine other than this one only the address itself is known to be
listened on. -/
def leadsTo (host : UrlHost) (port : Nat) (listening : SocketAddress) : Bool :=
  (addressesOf host).any fun ip =>
    listening.covers { ip := ip.destination, port } &&
      (ip.destination.isLoopback || ip.destination = listening.ip.unmapped)

example : leadsTo (.domain "LocalHost") 80 { ip := .loopback4, port := 80 } = true ∧
    leadsTo (.domain "127.0.0.2") 80 { ip := .loopback4, port := 80 } = false ∧
    leadsTo (.domain "127.0.0.2") 80 { ip := .v6 [0, 0, 0, 0, 0, 0, 0, 0], port := 80 } = true := by
  decide +kernel

end Network

end Bringup
