namespace Bringup

/-! What the action of a step does, told in advance.

One call of an action makes requests of the manager in order and then ends by
succeeding, failing or panicking. A request may register a step that has a
script of its own, so scripts nest; how much a script can still register is
measured by its weight. -/

inductive Ending where
  | succeed
  | fail (message : String)
  | panic (message : String)
deriving DecidableEq, Repr

mutual

inductive Request where
  /-- Registers a step. A rejected registration that is required ends the
  requests and fails the action. -/
  | register (name : String) (runs : List Script) (isRequired : Bool)
  | isInitialized (name : String)
  | isReady
  | status

inductive Script where
  | script (requests : List Request) (ending : Ending)

end

instance : Inhabited Script := ⟨.script [] .succeed⟩

namespace Script

def requests : Script → List Request
  | script requests _ => requests

def ending : Script → Ending
  | script _ ending => ending

/-- The script of an action that asks for nothing and succeeds. -/
def quiet : Script := .script [] .succeed

def after (earlier : List Request) (script : Script) : Script :=
  .script (earlier ++ script.requests) script.ending

end Script

/-! ## Weights

The weight of an action bounds how many steps its calls can bring about, itself
included. -/

mutual

def Script.weight : Script → Nat
  | .script requests _ => requestsWeight requests

def requestsWeight : List Request → Nat
  | [] => 0
  | request :: rest => request.weight + requestsWeight rest

def Request.weight : Request → Nat
  | .register _ runs _ => 1 + runsWeight runs
  | _ => 0

def runsWeight : List Script → Nat
  | [] => 0
  | script :: rest => script.weight + runsWeight rest

end

/-- The script that call number `call` of an action follows: each script in
turn, then the last one again and again. An action without scripts succeeds. -/
def scriptAt (runs : List Script) (call : Nat) : Script :=
  match runs with
  | [] => .quiet
  | first :: rest =>
      match rest, call with
      | [], _ => first
      | _, 0 => first
      | rest, call + 1 => scriptAt rest call

theorem weight_scriptAt_le (runs : List Script) (call : Nat) :
    (scriptAt runs call).weight ≤ runsWeight runs := by
  fun_induction scriptAt runs call with
  | case1 => simp [Script.quiet, Script.weight, requestsWeight, runsWeight]
  | case2 => simp [runsWeight]
  | case3 => simp [runsWeight]
  | case4 =>
      rename_i induction
      rw [runsWeight]
      omega

end Bringup
