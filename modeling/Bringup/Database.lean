import Bringup.Config.Schema
import Bringup.Environment
import Bringup.Net.Network
import Bringup.Net.Url.Query
import Bringup.Text.Quoted

namespace Bringup

/-! The connection to the database.

Which URL is used depends on the mode; a URL says where the server is and whom
to log in as, and the environment says so where the URL does not. A connection
counts once the server has answered a query. -/

structure DatabaseLogin where
  user : String
  /-- The database asked for; without one the server decides. -/
  database : Option String
deriving DecidableEq, Repr

inductive DatabaseError where
  | missingTestUrl
  /-- The server answered with an error. -/
  | answered (message : String)
  | unusableUrl (reason : String)
  | encryptionMissing
  | networkDown
  /-- There is no local socket in the directory given. -/
  | socketMissing
  /-- No connection came about in time. -/
  | noConnection
deriving DecidableEq, Repr

namespace DatabaseError

def message : DatabaseError → String
  | missingTestUrl => "test mode requested but database.test_url is not set"
  | answered text => "database error: error returned from database: " ++ text
  | unusableUrl reason => "database error: error with configuration: " ++ reason
  | encryptionMissing =>
      "database error: error occurred while attempting to establish a TLS connection: " ++
        "TLS upgrade required by connect options but SQLx was built without TLS support enabled"
  | networkDown =>
      "database error: error communicating with database: Network is unreachable (os error 101)"
  | socketMissing =>
      "database error: error communicating with database: No such file or directory (os error 2)"
  | noConnection => "database error: pool timed out while waiting for an open connection"

end DatabaseError

structure Database where
  testMode : Bool
  maxConnections : Nat
deriving DecidableEq, Repr

namespace Database

/-! ## Addresses -/

structure Address where
  host : UrlHost := .domain "localhost"
  /-- The directory of a local socket, which is used instead of any host. -/
  socket : Option String := none
  port : Nat := 5432
  user : String := "root"
  database : Option String := none
  isEncrypted : Bool := false
deriving DecidableEq, Repr

namespace Address

def login (address : Address) : DatabaseLogin := ⟨address.user, address.database⟩

def isDirectory (host : String) : Bool := host.toList.head? = some '/'

def usesSocket (address : Address) : Bool :=
  address.socket.isSome || isDirectory address.host.write

private def decoded (part : String) : Except DatabaseError String :=
  match Url.decodePart? part with
  | some text => .ok text
  | none => .error (.unusableUrl "invalid utf-8 sequence")

def needsEncryption? (mode : String) : Option Bool :=
  let folded := String.ofList (mode.toList.map Char.toLower)
  if folded ∈ ["require", "verify-ca", "verify-full"] then some true
  else if folded ∈ ["disable", "allow", "prefer"] then some false
  else none

private def applyMode (address : Address) (mode : String) : Except DatabaseError Address :=
  match needsEncryption? mode with
  | some isEncrypted => .ok { address with isEncrypted }
  | none =>
      .error (.unusableUrl
        ("error with configuration: unknown value " ++ quoted mode ++ " for \x60ssl_mode\x60"))

def readCount (bound : Nat) (written : String) : Except DatabaseError Nat :=
  match WholeNumber.readCount? written with
  | some count =>
      if count < bound then .ok count
      else .error (.unusableUrl "number too large to fit in target type")
  | none =>
      .error (.unusableUrl
        (if written.isEmpty then "cannot parse integer from empty string"
         else "invalid digit found in string"))

private def isIpAddress (written : String) : Bool :=
  let isWhole := fun (read : Option (List Nat × List Char)) => read.any fun result => result.2.isEmpty
  isWhole (SocketAddress.dotted written.toList) || isWhole (SocketAddress.longAddress written.toList)

/-- One parameter of the query. Parameters that say nothing about where to
connect are passed over. -/
def applyParameter (address : Address) (name value : String) : Except DatabaseError Address :=
  match name with
  | "sslmode" | "ssl-mode" => applyMode address value
  | "statement-cache-capacity" => (readCount (1 <<< 64) value).map fun _ => address
  | "host" =>
      if isDirectory value then .ok { address with socket := some value }
      else .ok { address with host := .domain value }
  | "hostaddr" =>
      if isIpAddress value then .ok { address with host := .domain value }
      else .error (.unusableUrl "invalid IP address syntax")
  | "port" => (readCount 65536 value).map fun port => { address with port }
  | "dbname" => .ok { address with database := some value }
  | "user" => .ok { address with user := value }
  | _ => .ok address

/-- The address that the environment gives. Values that cannot be read do not
count. -/
def ofEnvironment (environment : List Variable) : Address :=
  let start : Address := {}
  let valueOf := Variable.valueIn? environment
  let host := ((valueOf "PGHOSTADDR").or (valueOf "PGHOST")).getD "localhost"
  { host := .domain host
    port := ((valueOf "PGPORT").bind fun port => (readCount 65536 port).toOption).getD start.port
    user := (valueOf "PGUSER").getD start.user
    database := valueOf "PGDATABASE"
    isEncrypted := ((valueOf "PGSSLMODE").bind needsEncryption?).getD start.isEncrypted }

/-- The address with the host of a URL, which names a directory if it starts with
an escaped slash. -/
private def applyHost (address : Address) (host : UrlHost) : Except DatabaseError Address :=
  match Bytes.ofPercent host.write.toList with
  | 0x2F :: _ => (decoded host.write).map fun directory => { address with socket := some directory }
  | _ => .ok { address with host }

/-- The address that a URL spells. The scheme does not matter. -/
def read (environment : List Variable) (url : String) : Except DatabaseError Address :=
  match Url.read url with
  | .error fault => .error (.unusableUrl fault.message)
  | .ok url => do
      let start := ofEnvironment environment
      let address ← match url.host with
        | some host => applyHost start host
        | none => .ok start
      let user ← if url.username.isEmpty then .ok start.user else decoded url.username
      let _ ← decoded (url.password.getD "")
      let path := String.ofList (url.path.toList.dropWhile (· = '/'))
      let database ← if path.isEmpty then .ok start.database else (decoded path).map some
      url.parameters.foldlM (fun address parameter =>
        address.applyParameter parameter.1 parameter.2)
        { address with port := url.port.getD start.port, user, database }

end Address

/-! ## Connecting -/

def url (config : DatabaseConfig) (testMode : Bool) : Except DatabaseError String :=
  if testMode then
    match config.testUrl with
    | some url => .ok url
    | none => .error .missingTestUrl
  else .ok config.url

def locate (environment : List Variable) (config : DatabaseConfig) (testMode : Bool) :
    Except DatabaseError Address :=
  (url config testMode).bind (Address.read environment)

/-- The address to connect to. Without room for a connection or without time none is
attempted. -/
def target (environment : List Variable) (config : DatabaseConfig) (testMode : Bool) :
    Except DatabaseError Address :=
  match locate environment config testMode with
  | .error fault => .error fault
  | .ok address =>
      if config.maxConnections = 0 || config.connectTimeoutSecs = 0 then .error .noConnection
      else .ok address

def clockLimit : Nat := 0x8000000000000000

/-- How a program panics whose clock cannot count the time until which it is to wait. -/
def overflowMessage : String := "overflow when adding duration to instant"

/-- The message of the panic that connecting ends in, if it does. The time to wait is
reckoned once the URL has been read. -/
def panic? (clock : Nat) (environment : List Variable) (config : DatabaseConfig)
    (testMode : Bool) : Option String :=
  match locate environment config testMode with
  | .error _ => none
  | .ok _ =>
      if clock + config.connectTimeoutSecs < clockLimit then none else some overflowMessage

/-- The outcome of logging in at an address and of a first query, and the login
that the server saw. -/
def logIn (network : Network) (address : Address) :
    Except DatabaseError Unit × List DatabaseLogin :=
  if address.usesSocket then (.error .socketMissing, [])
  else if !network.isUp then (.error .networkDown, [])
  else
    match network.database with
    | none => (.error .noConnection, [])
    | some (place, server) =>
        if !Network.leadsTo address.host address.port place then (.error .noConnection, [])
        else if address.isEncrypted then (.error .encryptionMissing, [])
        else
          match server with
          | .accepting => (.ok (), [address.login])
          | .refusingLogins message => (.error (.answered message), [address.login])
          | .refusingQueries message => (.error (.answered message), [address.login])

example : (Address.read [] "postgres://u:p@127.0.0.1:9/accts?sslmode=require").toOption = some {
    host := .domain "127.0.0.1", port := 9, user := "u", database := some "accts",
    isEncrypted := true } := by decide +kernel

example : (Address.read [⟨"PGUSER", "v"⟩] "postgres://h/?port=9&host=/tmp").toOption = some {
    host := .domain "h", socket := some "/tmp", port := 9, user := "v" } := by decide +kernel

end Database

end Bringup
