import Bringup.Json.Value
import Bringup.Lifecycle.Script
import Bringup.Lifecycle.Stage
import Bringup.Text.Quoted

namespace Bringup

/-! Initialization steps. -/

inductive Action where
  | scripted (runs : List Script)
  /-- Asks for nothing; the ending of each call is told by its number. -/
  | plain (endings : Nat → Ending)
  | stage (stage : Stage)

namespace Action

/-- The script that a call follows, counted from zero. What a stage does is not
told by a script. -/
def script? : Action → Nat → Option Script
  | scripted runs, call => some (scriptAt runs call)
  | plain endings, call => some (.script [] (endings call))
  | stage _, _ => none

/-- How many steps the calls of an action can bring about. Stages register
nothing. -/
def weight : Action → Nat
  | scripted runs => runsWeight runs
  | plain _ => 0
  | stage _ => 0

end Action

structure StepStatus where
  name : String
  completed : Bool
deriving DecidableEq, Repr

namespace StepStatus

def toJson (status : StepStatus) : Json :=
  .object [("name", .text status.name), ("completed", .flag status.completed)]

end StepStatus

structure Step where
  name : String
  action : Action
  completed : Bool := false
  /-- How often the action was called. -/
  calls : Nat := 0

namespace Step

def status (step : Step) : StepStatus := ⟨step.name, step.completed⟩

def called (step : Step) : Step := { step with calls := step.calls + 1 }

def complete (step : Step) : Step := { step with completed := true }

def describe (step : Step) : String :=
  "InitStep \x7b name: " ++ quoted step.name ++ ", completed: " ++ toString step.completed ++
    ", .. \x7d"

end Step

end Bringup
