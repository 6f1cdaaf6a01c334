import Bringup.Shutdown

namespace Bringup

/-! Shutdown signals over broadcast channels.

The handles of a family share a flag and the sending side of a broadcast channel, and each
receiver keeps its own place in that channel. A board (`Shutdown.Board`) has one bit per
receiver instead. -/

namespace Shutdown

/-! ## Channels -/

/-- A broadcast channel of messages that carry nothing, so that a message is no more than its
number. Only the last messages are kept, as many as the channel has room for. -/
structure Channel where
  capacity : Nat
  /-- How many messages were sent. -/
  sent : Nat := 0
  senders : Nat := 1
  receivers : Nat := 0
deriving DecidableEq, Repr

inductive Reception where
  | message
  | empty
  | closed
  /-- Messages that the receiver did not take yet were given up for newer ones. -/
  | lagged (missed : Nat)
deriving DecidableEq, Repr

namespace Channel

def addSender (channel : Channel) : Channel := { channel with senders := channel.senders + 1 }

def dropSender (channel : Channel) : Channel := { channel with senders := channel.senders - 1 }

def subscribe (channel : Channel) : Channel := { channel with receivers := channel.receivers + 1 }

def unsubscribe (channel : Channel) : Channel :=
  { channel with receivers := channel.receivers - 1 }

/-- A message that nobody can receive is not kept. -/
def send (channel : Channel) : Channel :=
  if channel.receivers = 0 then channel else { channel with sent := channel.sent + 1 }

def receive (channel : Channel) (place : Nat) : Reception × Nat :=
  if place = channel.sent then (if channel.senders = 0 then .closed else .empty, place)
  else
    let oldest := channel.sent - channel.capacity
    if place < oldest then (.lagged (oldest - place), oldest) else (.message, place + 1)

example : receive { capacity := 1, sent := 2 } 0 = (.lagged 1, 1) := rfl

example : receive { capacity := 1, sent := 2, senders := 0 } 1 = (.message, 2) := rfl

end Channel

/-! ## Families of handles -/

structure Family where
  channel : Channel := { capacity := 1 }
  isTriggered : Bool := false
deriving DecidableEq, Repr

def Family.trigger (family : Family) : Family :=
  if family.isTriggered then family
  else { channel := family.channel.send, isTriggered := true }

def Family.onChannel (change : Channel → Channel) (family : Family) : Family :=
  { family with channel := change family.channel }

structure Listener where
  family : Nat
  place : Nat
deriving DecidableEq, Repr

structure Hub where
  families : List Family := [{}]
  handles : List (Option Nat) := [some 0]
  listeners : List (Option Listener) := []
deriving DecidableEq, Repr

inductive Report where
  | told (result : Result)
  | lagged (missed : Nat)
deriving DecidableEq, Repr

def Reception.report : Reception → Report
  | .message => .told .signal
  | .empty => .told .empty
  | .closed => .told .closed
  | .lagged missed => .lagged missed

namespace Hub

def family? (hub : Hub) (handle : Nat) : Option Nat := (hub.handles[handle]?).join

def listener? (hub : Hub) (number : Nat) : Option Listener := (hub.listeners[number]?).join

def family (hub : Hub) (number : Nat) : Family := hub.families.getD number {}

def isTriggered (hub : Hub) (family : Nat) : Bool := (hub.family family).isTriggered

def receiverCount (hub : Hub) (family : Nat) : Nat := (hub.family family).channel.receivers

def change (hub : Hub) (family : Nat) (transform : Family → Family) : Hub :=
  { hub with families := hub.families.modify family transform }

def onChannel (hub : Hub) (family : Nat) (transform : Channel → Channel) : Hub :=
  hub.change family (Family.onChannel transform)

def receive (hub : Hub) (number : Nat) (listener : Listener) : Report × Hub :=
  let (reception, place) := (hub.family listener.family).channel.receive listener.place
  (reception.report,
    { hub with listeners := hub.listeners.set number (some { listener with place }) })

def withHandle (hub : Hub) (handle : Nat) (use : Nat → Result × Hub) : Report × Hub :=
  match hub.family? handle with
  | none => (.told .noHandle, hub)
  | some family => (.told (use family).1, (use family).2)

def withListener (hub : Hub) (number : Nat) (missing : Result)
    (use : Listener → Report × Hub) : Report × Hub :=
  match hub.listener? number with
  | none => (.told missing, hub)
  | some listener => use listener

def perform (hub : Hub) : Act → Report × Hub
  | .clone handle => hub.withHandle handle fun family =>
      (.created hub.handles.length,
        { hub.onChannel family .addSender with handles := hub.handles ++ [some family] })
  | .unrelated handle => hub.withHandle handle fun _ =>
      (.created hub.handles.length,
        { hub with
          families := hub.families ++ [{}]
          handles := hub.handles ++ [some hub.families.length] })
  | .drop handle => hub.withHandle handle fun family =>
      (.done, { hub.onChannel family .dropSender with handles := hub.handles.set handle none })
  | .trigger handle => hub.withHandle handle fun family =>
      (.done, hub.change family .trigger)
  | .subscribe handle => hub.withHandle handle fun family =>
      (.created hub.listeners.length,
        { hub.onChannel family .subscribe with
          listeners := hub.listeners ++
            [some { family, place := (hub.family family).channel.sent }] })
  | .unsubscribe number => hub.withListener number .done fun listener =>
      (.told .done,
        { hub.onChannel listener.family .unsubscribe with
          listeners := hub.listeners.set number none })
  | .tryReceive number => hub.withListener number .noReceiver (hub.receive number)

def performAll (hub : Hub) : List Act → List (Report × Hub)
  | [] => []
  | act :: rest =>
      let step := hub.perform act
      step :: step.2.performAll rest

def overview (hub : Hub) : List (Option (Bool × Nat)) :=
  hub.handles.map fun handle =>
    handle.map fun family => (hub.isTriggered family, hub.receiverCount family)

end Hub

end Shutdown

end Bringup
