namespace Bringup

/-! The shutdown signal.

Handles come in families: a handle and its clones share one signal, which is
triggered once. A receiver belongs to the family of the handle that it was
subscribed with. A trigger reaches the receivers that are subscribed at that
moment, and each of them takes the signal once. -/

namespace Shutdown

structure Receiver where
  family : Nat
  /-- Whether a signal was sent that was not taken yet. -/
  hasSignal : Bool := false
deriving DecidableEq, Repr

/-- Families, handles and receivers, each numbered in the order of creation.
What was dropped keeps its number. -/
structure Board where
  /-- Whether each family was triggered. -/
  triggered : List Bool := [false]
  /-- The family of each handle. -/
  handles : List (Option Nat) := [some 0]
  receivers : List (Option Receiver) := []
deriving DecidableEq, Repr

inductive Act where
  | clone (handle : Nat)
  /-- Creates a handle of a family of its own; asks for a handle all the same. -/
  | unrelated (handle : Nat)
  | drop (handle : Nat)
  | trigger (handle : Nat)
  | subscribe (handle : Nat)
  | unsubscribe (receiver : Nat)
  | tryReceive (receiver : Nat)
deriving DecidableEq, Repr

inductive Result where
  | done
  /-- The number of a new handle or receiver. -/
  | created (number : Nat)
  | signal
  /-- No signal was sent yet. -/
  | empty
  /-- No signal is left and none can be sent any more. -/
  | closed
  | noHandle
  | noReceiver
deriving DecidableEq, Repr

namespace Board

def family? (board : Board) (handle : Nat) : Option Nat := (board.handles[handle]?).join

def receiver? (board : Board) (receiver : Nat) : Option Receiver :=
  (board.receivers[receiver]?).join

def isTriggered (board : Board) (family : Nat) : Bool := board.triggered.getD family false

def isOpen (board : Board) (family : Nat) : Bool := board.handles.contains (some family)

def receiverCount (board : Board) (family : Nat) : Nat :=
  board.receivers.countP fun receiver => receiver.any fun receiver => receiver.family = family

def send (family : Nat) (receiver : Receiver) : Receiver :=
  if receiver.family = family then { receiver with hasSignal := true } else receiver

def trigger (board : Board) (family : Nat) : Board :=
  if board.isTriggered family then board
  else
    { board with
      triggered := board.triggered.set family true
      receivers := board.receivers.map fun receiver => receiver.map (send family) }

/-- Takes a signal, or tells why there is none. -/
def receive (board : Board) (number : Nat) (receiver : Receiver) : Result × Board :=
  if receiver.hasSignal then
    (.signal, { board with
      receivers := board.receivers.set number (some { receiver with hasSignal := false }) })
  else if board.isOpen receiver.family then (.empty, board)
  else (.closed, board)

def perform (board : Board) : Act → Result × Board
  | .clone handle =>
      match board.family? handle with
      | none => (.noHandle, board)
      | some family =>
          (.created board.handles.length,
            { board with handles := board.handles ++ [some family] })
  | .unrelated handle =>
      match board.family? handle with
      | none => (.noHandle, board)
      | some _ =>
          (.created board.handles.length,
            { board with
              triggered := board.triggered ++ [false]
              handles := board.handles ++ [some board.triggered.length] })
  | .drop handle =>
      match board.family? handle with
      | none => (.noHandle, board)
      | some _ => (.done, { board with handles := board.handles.set handle none })
  | .trigger handle =>
      match board.family? handle with
      | none => (.noHandle, board)
      | some family => (.done, board.trigger family)
  | .subscribe handle =>
      match board.family? handle with
      | none => (.noHandle, board)
      | some family =>
          (.created board.receivers.length,
            { board with receivers := board.receivers ++ [some { family }] })
  | .unsubscribe receiver =>
      (.done, { board with receivers := board.receivers.set receiver none })
  | .tryReceive number =>
      match board.receiver? number with
      | none => (.noReceiver, board)
      | some receiver => board.receive number receiver

def performAll (board : Board) : List Act → List (Result × Board)
  | [] => []
  | act :: rest =>
      let step := board.perform act
      step :: step.2.performAll rest

def overview (board : Board) : List (Option (Bool × Nat)) :=
  board.handles.map fun handle =>
    handle.map fun family => (board.isTriggered family, board.receiverCount family)

example : (performAll {} [.subscribe 0, .trigger 0, .subscribe 0, .trigger 0, .tryReceive 0,
    .tryReceive 0, .tryReceive 1, .drop 0, .tryReceive 1]).map Prod.fst =
    [.created 0, .done, .created 1, .done, .signal, .empty, .empty, .done, .closed] := by
  decide +kernel

end Board

end Shutdown

end Bringup
