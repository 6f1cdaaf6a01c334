import Bringup.Config.Schema
import Bringup.Net.Network
import Bringup.Net.Url.Query

namespace Bringup

/-! The connection to the cache.

A URL says where the server is, which index to use, with which password and in
which form the server is to answer. A connection counts once the server has
answered a ping with `PONG`. -/

inductive CacheError where
  | unusableUrl
  | networkDown
  | refused
  /-- The server answered a command with an error, with nothing, or not at all. -/
  | failed
  | timeout (seconds : Nat)
  | unexpectedReply (reply : String)
deriving DecidableEq, Repr

namespace CacheError

def message : CacheError → String
  | unusableUrl => "redis error: Redis URL did not parse - InvalidClientConfig"
  | networkDown => "redis error: Network is unreachable (os error 101)"
  | refused => "redis error: Connection refused (os error 111)"
  | failed => "redis error: An error was signalled by the server"
  | timeout seconds => "redis did not answer within " ++ toString seconds ++ " seconds"
  | unexpectedReply reply => "unexpected PING reply '" ++ reply ++ "'"

end CacheError

structure Cache where
  index : Int
deriving DecidableEq, Repr

namespace Cache

abbrev Command := List String

def ping : Command := ["PING"]

def pong : String := "PONG"

/-! ## Addresses -/

inductive Protocol where
  | second
  | third
deriving DecidableEq, Repr

namespace Protocol

def named? (name : String) : Option Protocol :=
  if name = "2" || name = "resp2" then some second
  else if name = "3" || name = "resp3" then some third
  else none

end Protocol

structure Address where
  host : UrlHost
  port : Nat := 6379
  index : Int := 0
  user : Option String := none
  password : Option String := none
  protocol : Protocol := .second
deriving DecidableEq, Repr

namespace Address

/-- The commands that introduce a client. The third protocol is asked for in a
greeting, which takes the password along. -/
def greeting (address : Address) : List Command :=
  match address.protocol, address.password with
  | .second, none => []
  | .second, some password => [["AUTH"] ++ address.user.toList ++ [password]]
  | .third, none => [["HELLO", "3"]]
  | .third, some password =>
      [["HELLO", "3", "AUTH", address.user.getD "default", password]]

def setup (address : Address) : List Command :=
  address.greeting ++
  (if address.index = 0 then [] else [["SELECT", toString address.index]])

/-- The address that a URL spells. Encrypted connections are not supported. -/
def read? (url : String) : Option Address := do
  let url ← (Url.read url).toOption
  if url.scheme ≠ "redis" then failure
  let host ← url.host
  let slash := fun character => character = '/'
  let path := ((url.path.toList.dropWhile slash).reverse.dropWhile slash).reverse
  let index ← if path.isEmpty then some 0 else WholeNumber.read? (String.ofList path)
  let user ← if url.username.isEmpty then some none else (Url.decodePart? url.username).map some
  let password ← match url.password with
    | none => some none
    | some password => (Url.decodePart? password).map some
  let protocol ← match url.parameters.reverse.lookup "protocol" with
    | none => some .second
    | some name => Protocol.named? name
  return { host, port := url.port.getD 6379, index, user, password, protocol }

end Address

/-! ## Connecting -/

def answer (server : CacheServer) : Except CacheError Unit :=
  match server with
  | .replying reply => if reply = pong then .ok () else .error (.unexpectedReply reply)
  | .failing => .error .failed
  | .silent => .error .failed

/-- The outcome of setting up a connection to an address and of a first ping, within
some seconds, and the commands that the server saw. -/
def greet (network : Network) (seconds : Nat) (address : Address) :
    Except CacheError Unit × List Command :=
  if !network.isUp then (.error .networkDown, [])
  else
    match network.cache with
    | none => (.error .refused, [])
    | some (place, server) =>
        if !Network.leadsTo address.host address.port place then (.error .refused, [])
        else if seconds = 0 then (.error (.timeout 0), [])
        else
          match server with
          | .silent => (.error (.timeout seconds), address.setup)
          | server => (answer server, address.setup ++ [ping])

def pings (network : Network) : Bool :=
  match network.cache with
  | some (_, server) => (answer server).isOk
  | none => false

example : (Address.read? "redis://:pw@127.0.0.1:9/-1").map Address.setup =
    some [["AUTH", "pw"], ["SELECT", "-1"]] := by decide +kernel

example : (Address.read? "redis://:pw@h?protocol=2&protocol=resp3").map Address.setup =
    some [["HELLO", "3", "AUTH", "default", "pw"]] := by decide +kernel

example : Address.read? "redis://127.0.0.1/x" = none ∧ Address.read? "rediss://127.0.0.1" = none ∧
    Address.read? "redis:///0" = none := by decide +kernel

end Cache

end Bringup
