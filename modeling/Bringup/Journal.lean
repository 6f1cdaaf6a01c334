import Bringup.Lifecycle.Failure
import Bringup.Log.Filter

namespace Bringup

/-! What a process did, in order.

Nothing in a journal is ever taken back. What can be seen of a process from the
outside (its log, its metrics, what its servers were sent) is a view of the
journal. -/

inductive Reply where
  | registered (result : Except DuplicateName Unit)
  | truth (isTrue : Bool)
  | statuses (statuses : List StepStatus)

/-- One call of an action: the step, how often it has been called now, the
answers to its requests, and how it ended. -/
structure Call where
  step : String
  number : Nat
  replies : List Reply
  outcome : Outcome

structure Logger where
  filter : Filter
  isStructured : Bool
deriving DecidableEq, Repr

/-- A server that a connection is attempted to. -/
inductive Contact where
  | database (address : Database.Address)
  | cache (address : Cache.Address)
deriving DecidableEq, Repr

inductive Entry where
  /-- The gauge of readiness was set. -/
  | gauge (isReady : Bool)
  /-- A call of a step's action was counted and timed. -/
  | sample (step : String) (success : Bool)
  | event (event : Event)
  /-- An event of the server, which runs beside everything else. -/
  | serverEvent (event : Event)
  | call (call : Call)
  | loggerInstalled (logger : Logger)
  /-- A socket listens on an address. -/
  | bound (listener : Listener) (address : SocketAddress)
  /-- What is measured from here on can be read at an address. -/
  | exporterInstalled (address : SocketAddress)
  | sought (contact : Contact)
  | login (login : DatabaseLogin)
  | command (command : Cache.Command)

abbrev Journal := List Entry

namespace Journal

def gauges (journal : Journal) : List Bool :=
  journal.filterMap fun
    | .gauge isReady => some isReady
    | _ => none

def gauge? (journal : Journal) : Option Bool := journal.gauges.getLast?

def events (journal : Journal) : List Event :=
  journal.filterMap fun
    | .event event => some event
    | _ => none

def serverEvents (journal : Journal) : List Event :=
  journal.filterMap fun
    | .serverEvent event => some event
    | _ => none

def calls (journal : Journal) : List Call :=
  journal.filterMap fun
    | .call call => some call
    | _ => none

def samples (journal : Journal) : List (String × Bool) :=
  journal.filterMap fun
    | .sample step success => some (step, success)
    | _ => none

def commands (journal : Journal) : List Cache.Command :=
  journal.filterMap fun
    | .command command => some command
    | _ => none

def logins (journal : Journal) : List DatabaseLogin :=
  (journal.filterMap fun
    | .login login => some login
    | _ => none).eraseDups

def contacts (journal : Journal) : List Contact :=
  journal.filterMap fun
    | .sought contact => some contact
    | _ => none

def sockets (journal : Journal) : List (Listener × SocketAddress) :=
  journal.filterMap fun
    | .bound listener address => some (listener, address)
    | _ => none

/-! ## The log -/

structure Line where
  event : Event
  isStructured : Bool
deriving DecidableEq, Repr

/-- A line as it is written, without a time stamp. -/
def Line.write (line : Line) : String :=
  if line.isStructured then
    Json.compact (.object [
      ("level", .text line.event.level.name),
      ("fields", .object line.event.members),
      ("target", .text line.event.target)])
  else line.event.level.name ++ " " ++ line.event.target ++ ": " ++ line.event.line

private def lineOf (logger : Option Logger) (event : Event) : Option Line :=
  logger.bind fun logger =>
    if logger.filter.passes event then some ⟨event, logger.isStructured⟩ else none

/-- The lines written from a point on where a logger may be installed. The first
one that is installed writes them all. -/
def linesFrom (logger : Option Logger) : Journal → List Line
  | [] => []
  | .event event :: rest => (lineOf logger event).toList ++ linesFrom logger rest
  | .serverEvent event :: rest => (lineOf logger event).toList ++ linesFrom logger rest
  | .loggerInstalled installed :: rest => linesFrom (logger.or (some installed)) rest
  | _ :: rest => linesFrom logger rest

def lines (journal : Journal) : List Line := linesFrom none journal

def hasLogger (journal : Journal) : Bool :=
  journal.any fun
    | .loggerInstalled _ => true
    | _ => false

/-! ## Metrics -/

def exported? : Journal → Option (SocketAddress × Journal)
  | [] => none
  | .exporterInstalled address :: rest => some (address, rest)
  | _ :: rest => exported? rest

def count (journal : Journal) (step : String) (success : Bool) : Nat :=
  journal.samples.count (step, success)

def timings (journal : Journal) (step : String) : Nat :=
  journal.count step true + journal.count step false

def measuredSteps (journal : Journal) : List String :=
  (journal.samples.map Prod.fst).eraseDups

end Journal

end Bringup
