import Bringup.Context
import Bringup.Http.Target
import Bringup.Lifecycle.Manager
import Bringup.Log.Event

namespace Bringup

/-! The two endpoints of the HTTP server.

`/healthz` tells that the process serves, `/readyz` whether the service is ready
and how far it is. Both answer `GET` and `HEAD` only, and both are found by the
exact path of the target. -/

structure HttpRequest where
  method : String := "GET"
  target : String
deriving DecidableEq, Repr

structure HttpResponse where
  status : Nat
  contentType : Option String := none
  /-- The methods that a path allows, where another one was used. -/
  allowed : Option String := none
  body : String := ""
deriving DecidableEq, Repr

inductive Endpoint where
  | liveness
  | readiness
deriving DecidableEq, Repr

namespace Endpoint

def path : Endpoint → String
  | liveness => "/healthz"
  | readiness => "/readyz"

def named? (path : String) : Option Endpoint :=
  [liveness, readiness].find? fun endpoint => endpoint.path = path

end Endpoint

structure Readiness where
  isReady : Bool
  steps : List StepStatus
  components : List Slot
deriving DecidableEq, Repr

namespace Readiness

/-- The flag, the steps and the filled slots are read one after the other. What is read
from may have changed in between. -/
def gathered (atFlag atSteps : Manager) (atSlots : Context) : Readiness where
  isReady := atFlag.ready
  steps := atSteps.status
  components := atSlots.components

def of (manager : Manager) (context : Context) : Readiness := gathered manager manager context

def toJson (readiness : Readiness) : Json :=
  .object [
    ("ready", .flag readiness.isReady),
    ("steps", .list (readiness.steps.map StepStatus.toJson)),
    ("components", .list (readiness.components.map fun slot => .text slot.name))]

def status (readiness : Readiness) : Nat := if readiness.isReady then 200 else 503

end Readiness

namespace Http

def jsonType : String := "application/json"

def livenessJson : Json :=
  .object [("status", .text "ok"), ("version", .text serviceVersion)]

def readinessResponse (readiness : Readiness) : HttpResponse where
  status := readiness.status
  contentType := some jsonType
  body := readiness.toJson.compact

def respondTo (manager : Manager) (context : Context) (endpoint : Endpoint) : HttpResponse :=
  match endpoint with
  | .liveness =>
      { status := 200, contentType := some jsonType, body := livenessJson.compact }
  | .readiness => readinessResponse (Readiness.of manager context)

/-- The response to a request that is well formed. `HEAD` is answered like `GET`
without the body. -/
def respondAt (manager : Manager) (context : Context) (method path : String) : HttpResponse :=
  match Endpoint.named? path with
  | none => { status := 404 }
  | some endpoint =>
      let response := respondTo manager context endpoint
      if method = "GET" then response
      else if method = "HEAD" then { response with body := "" }
      else { status := 405, allowed := some "GET,HEAD" }

def respond (manager : Manager) (context : Context) (request : HttpRequest) : HttpResponse :=
  if !Target.isMethod request.method || !request.target.toList.all Target.isCarried then
    { status := 400 }
  else if Target.lengthLimit < request.target.utf8ByteSize then { status := 414 }
  else
    match Target.path? request.target with
    | none => { status := 400 }
    | some path => respondAt manager context request.method path

example : respond {} {} { target := "/readyz?x" } =
    { status := 503, contentType := some "application/json",
      body := "\x7b\"ready\":false,\"steps\":[],\"components\":[]\x7d" } := by decide +kernel

example : (respond {} {} { target := "/healthz/" }).status = 404 ∧
    (respond {} {} { method := "get", target := "/healthz" }).status = 405 := by decide +kernel

example : (respond {} {} { target := "http://h/healthz#x" }).status = 200 ∧
    (respond {} {} { target := "/ healthz" }).status = 400 := by decide +kernel

end Http

end Bringup
