import Bringup.Config.Load
import Bringup.Context
import Bringup.Lifecycle.Manager

namespace Bringup

/-! Why a step fails, and why initialization does. -/

inductive ExporterError where
  | unbound (fault : BindFault)
  | alreadyInstalled
deriving DecidableEq, Repr

namespace ExporterError

def message : ExporterError → String
  | unbound fault => "failed to create HTTP listener: " ++ fault.message
  | alreadyInstalled =>
      "failed to install exporter as global recorder: " ++
        "attempted to set a recorder after the metrics system was already initialized"

end ExporterError

inductive Cause where
  | said (message : String)
  | config (fault : ConfigError)
  | context (fault : ContextError)
  | database (fault : DatabaseError)
  | cache (fault : CacheError)
  | exporter (fault : ExporterError)
  /-- Logging was installed before. -/
  | loggingInstalled
  | invalidAddress

namespace Cause

def message : Cause → String
  | said message => message
  | config fault => fault.message
  | context fault => fault.message
  | database fault => fault.message
  | cache fault => fault.message
  | exporter fault => fault.message
  | loggingInstalled => "a global default trace dispatcher has already been set"
  | invalidAddress => "invalid socket address syntax"

end Cause

inductive InitError where
  | duplicate (fault : DuplicateName)
  | step (name : String) (cause : Cause)

namespace InitError

def stepName : InitError → String
  | duplicate fault => fault.name
  | step name _ => name

def stepMessage (name reason : String) : String :=
  "initialization step '" ++ name ++ "' failed: " ++ reason

def message : InitError → String
  | duplicate fault => fault.message
  | step name cause => stepMessage name cause.message

end InitError

inductive Outcome where
  | succeeded
  | failed (cause : Cause)
  | panicked (message : String)

namespace Outcome

def of : Except Cause Unit → Outcome
  | .ok () => succeeded
  | .error cause => failed cause

end Outcome

/-- How an operation on the manager ended: it came back, or a panic of an action
passed through it. -/
inductive Finish (α : Type) where
  | returned (value : α)
  | panicked (message : String)

namespace Finish

def map (transform : α → β) : Finish α → Finish β
  | returned value => returned (transform value)
  | panicked message => panicked message

end Finish

end Bringup
