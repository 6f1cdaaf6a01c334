import Bringup.Http.Endpoint
import Bringup.Http.Status
import Bringup.Json.Reading
import Bringup.Net.Network
import Bringup.Program.Exit

namespace Bringup

/-! Asking a running service how it is.

The program sends one request and prints the body of the response, laid out if
it is JSON and as it is otherwise. The exit code tells whether the status was one
of success. -/

namespace Inquiry

/-! ## Arguments -/

def defaultUrl : String := "http://localhost:8080"

def urlChoice : CommandLine.Choice where
  short := some 'u'
  long := "url"
  role := .value "URL" false
  default := some defaultUrl

inductive Topic where
  | asks (endpoint : Endpoint)
  | help
deriving DecidableEq, Repr

namespace Topic

def all : List Topic := [asks .liveness, asks .readiness, help]

def name : Topic → String
  | asks .liveness => "health"
  | asks .readiness => "status"
  | help => "help"

def description : Topic → String
  | asks .liveness => "Check that the process is serving"
  | asks .readiness => "Show bootstrap steps and readiness"
  | help => "Print this message or the help of the given subcommand(s)"

def named? (name : String) : Option Topic := all.find? fun topic => topic.name = name

end Topic

def command : CommandLine.Command where
  path := "service-cli"
  description := "Operator CLI for the account service"
  choices := [urlChoice, CommandLine.helpChoice]
  subcommands := Topic.all.map fun topic => ⟨topic.name, topic.description⟩

namespace Topic

def command (topic : Topic) : CommandLine.Command where
  path := Inquiry.command.path ++ " " ++ topic.name
  description := topic.description
  choices :=
    match topic with
    | asks _ => [CommandLine.helpChoice]
    | help => []
  operand :=
    match topic with
    | asks _ => none
    | help => some ("[COMMAND]...", "Print help for the subcommand(s)")

end Topic

/-- The help on what the names lead to. Subcommands have none of their own. -/
def helpOn : List String → CommandLine.Notice
  | [] => .help command
  | name :: rest =>
      match Topic.named? name, rest with
      | none, _ => .fault command (.unrecognizedSubcommand name [])
      | some topic, [] => .help topic.command
      | some topic, further :: _ =>
          .fault topic.command (.unrecognizedSubcommand further [])

structure Question where
  url : String := defaultUrl
  endpoint : Endpoint
deriving DecidableEq, Repr

namespace Question

def readTopic (name : String) (arguments : List String) :
    Except CommandLine.Notice Endpoint := do
  match Topic.named? name with
  | none => throw (.fault command (.unrecognizedSubcommand name []))
  | some .help => throw (helpOn arguments)
  | some (.asks endpoint) =>
      let _ ← (Topic.asks endpoint).command.parseOptions arguments
      return endpoint

def read (arguments : List String) : Except CommandLine.Notice Question := do
  match ← command.parse readTopic arguments with
  | (_, none) => throw (.helpNeeded command)
  | (progress, some endpoint) =>
      return { url := (progress.value? urlChoice.long).getD defaultUrl, endpoint }

example : (read ["-u", "http://h", "status"]).toOption = some ⟨"http://h", .readiness⟩ := by
  decide +kernel

def target (question : Question) : String := question.url ++ question.endpoint.path

end Question

/-! ## The exchange -/

structure Responder where
  address : SocketAddress
  status : Nat
  body : List UInt8
deriving DecidableEq, Repr

def requestLine (url : Url) : String :=
  "GET " ++ url.path ++ (url.query.elim "" ("?" ++ ·)) ++ " HTTP/1.1"

def reaches (url : Url) (responder : Responder) : Bool :=
  url.scheme = "http" &&
    url.host.any fun host =>
      Network.leadsTo host (url.port.getD 80) responder.address

def exchange (responder : Option Responder) (target : String) :
    Option (Nat × String) × List String :=
  match Url.read target, responder with
  | .ok url, some responder =>
      if reaches url responder then
        let body := if Http.isBodiless responder.status then [] else responder.body
        let response :=
          if Http.isStatus responder.status && !Http.isInterim responder.status then
            some (responder.status, Bytes.decodeLenient body)
          else none
        (response, [requestLine url])
      else (none, [])
  | _, _ => (none, [])

/-! ## The report -/

def layOut (body : String) : String :=
  match Json.read? body with
  | some value => value.pretty
  | none => body

def report (status : Nat) (body : String) : Exit where
  code := if Http.isSuccess status then 0 else 1
  output := layOut body ++ "\n"
  errorOutput := if Http.isSuccess status then ""
    else "Error: service returned status " ++ Http.writeStatus status ++ "\n"

def unanswered : Exit := { code := 1, errorOutput := "Error: transport" }

def launch (responder : Option Responder) (arguments : List String) : Exit × List String :=
  match Question.read arguments with
  | .error notice => (.ofNotice notice, [])
  | .ok question =>
      match exchange responder question.target with
      | (none, requests) => (unanswered, requests)
      | (some (status, body), requests) => (report status body, requests)

end Inquiry

end Bringup
