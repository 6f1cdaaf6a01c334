import Bringup.Lifecycle.Step

namespace Bringup

/-! The manager's bookkeeping: named steps in the order of their registration,
where each name stands, and whether the service is ready.

Each function here is one undivided access to the bookkeeping. What happens
between two of them is told in `Bringup.Lifecycle.Walk`. -/

structure DuplicateName where
  name : String
deriving DecidableEq, Repr

namespace DuplicateName

def message (fault : DuplicateName) : String :=
  "initialization step '" ++ fault.name ++ "' is already registered"

end DuplicateName

structure Manager where
  steps : List Step := []
  /-- Where the step of each name stands. -/
  positions : List (String × Nat) := []
  ready : Bool := false

namespace Manager

def position? (manager : Manager) (name : String) : Option Nat :=
  manager.positions.lookup name

/-- Appends a pending step, which leaves the service not ready. -/
def push (manager : Manager) (name : String) (action : Action) :
    Except DuplicateName Manager :=
  match manager.position? name with
  | some _ => .error ⟨name⟩
  | none =>
      .ok {
        steps := manager.steps ++ [{ name, action }]
        positions := (name, manager.steps.length) :: manager.positions
        ready := false }

def setReady (manager : Manager) (ready : Bool) : Manager := { manager with ready }

def noteCall (manager : Manager) (position : Nat) : Manager :=
  { manager with steps := manager.steps.modify position Step.called }

def markCompleted (manager : Manager) (position : Nat) : Manager :=
  { manager with steps := manager.steps.modify position Step.complete }

def status (manager : Manager) : List StepStatus := manager.steps.map Step.status

def isInitialized (manager : Manager) (name : String) : Bool :=
  match (manager.position? name).bind fun position => manager.steps[position]? with
  | some step => step.completed
  | none => false

def statusText (manager : Manager) : String :=
  (Json.list (manager.status.map StepStatus.toJson)).compact

end Manager

end Bringup
