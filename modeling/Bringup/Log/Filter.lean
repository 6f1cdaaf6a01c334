import Bringup.Log.Event
import Bringup.Number.Reading
import Bringup.Text.Blank
import Bringup.Text.Digits
import Bringup.Text.Letters
import Bringup.Text.Pattern

namespace Bringup

/-! Which events are logged.

A filter is written as directives between commas. A directive names a level, or
a target, or both around an equals sign, and applies to the events whose target
starts with its own. Between them it may restrict itself to a span, to a field or
to a field's value. No event of the service happens inside a span and values are
only looked for on spans, so of these only the restriction to a field can ever be
met. Of the directives that apply the most specific decides. -/

/-- The least severe rank that passes; zero lets nothing pass. -/
abbrev Threshold := Nat

namespace Threshold

def parse? (written : List Char) : Option Threshold :=
  let named :=
    match String.ofList (written.map Char.toLower) with
    | "off" => some 0
    | "error" => some Level.error.rank
    | "warn" => some Level.warn.rank
    | "info" => some Level.info.rank
    | "debug" => some Level.debug.rank
    | "trace" => some Level.trace.rank
    | _ => none
  let digits := match written with
    | '+' :: digits => digits
    | digits => digits
  let numbered := (WholeNumber.readMagnitude? digits).bind fun rank =>
    if rank ≤ Level.trace.rank then some rank else none
  numbered.or named

def all : Threshold := Level.trace.rank

end Threshold

structure Directive where
  target : Option (List Char) := none
  /-- Restricted to a named span or to the value of a field. -/
  isScoped : Bool := false
  /-- The field that an event must carry. -/
  field : Option (List Char) := none
  threshold : Threshold := Threshold.all
deriving DecidableEq, Repr

namespace Directive

/-! ## Reading -/

/-- Where the reader of a directive stands. Positions count bytes. -/
inductive Place where
  | start
  | levelOrTarget (first : Nat)
  | inSpan (first : Nat)
  | inField (first : Nat)
  | afterField
  | afterSpan
  | inLevel (first : Nat)
deriving DecidableEq, Repr

def startsName (character : Char) : Bool :=
  character = '-' || character = ':' || character = '_' || Letters.isAlphanumeric character

def isValue (written : List Char) : Bool :=
  (Binary64.read? (String.ofList written)).isSome || Pattern.isValid written

/-- A field is a name, or a name and a value around an equals sign; a second
equals sign ends the value. -/
def setField? (directive : Directive) (written : List Char) : Option Directive :=
  let (name, rest) := written.span (· ≠ '=')
  match written, rest with
  | [], _ => none
  | _, [] => some { directive with field := some name }
  | _, _ :: rest =>
      if isValue (rest.takeWhile (· ≠ '=')) then
        some { directive with field := some name, isScoped := true }
      else none

/-- The level or target that a directive without equals sign names. -/
def setLevelOrTarget (directive : Directive) (written : List Char) : Directive :=
  match Threshold.parse? written with
  | some threshold => { directive with threshold, target := none }
  | none => { directive with threshold := Threshold.all, target := some written }

def dropBytes : Nat → List Char → List Char
  | _, [] => []
  | count, character :: rest =>
      if count = 0 then character :: rest else dropBytes (count - character.utf8Size) rest

def takeBytes : Nat → List Char → List Char
  | _, [] => []
  | count, character :: rest =>
      if count = 0 then [] else character :: takeBytes (count - character.utf8Size) rest

/-- One character at a position. Positions are those of the trimmed text, while
names and levels are taken from the text as it was given: in a directive that
starts with blanks they begin that much too early. -/
def advance (whole : List Char) (directive : Directive) (place : Place) (position : Nat)
    (character : Char) : Option (Directive × Place) :=
  let slice := fun first => takeBytes (position - first) (dropBytes first whole)
  match place with
  | .start =>
      if character = '[' then some (directive, .inSpan (position + 1))
      else if startsName character then some (directive, .levelOrTarget position)
      else none
  | .levelOrTarget first =>
      if character = '=' then
        some ({ directive with target := some (slice first) }, .inLevel (position + 1))
      else if character = '[' then
        some ({ directive with target := some (slice first) }, .inSpan (position + 1))
      else some (directive, place)
  | .inSpan first =>
      if character = ']' then some ({ directive with isScoped := true }, .afterSpan)
      else if character = '\x7b' then
        let isNamed := !(slice first).isEmpty
        some ({ directive with isScoped := directive.isScoped || isNamed },
          .inField (position + 1))
      else some (directive, place)
  | .inField first =>
      if character = '\x7d' then
        (directive.setField? (slice first)).map fun directive => (directive, .afterField)
      else some (directive, place)
  | .afterField => if character = ']' then some (directive, .afterSpan) else none
  | .afterSpan =>
      if character = '=' then some (directive, .inLevel (position + 1)) else none
  | .inLevel _ => some (directive, place)

def finish (whole : List Char) (directive : Directive) : Place → Option Directive
  | .levelOrTarget first => some (directive.setLevelOrTarget (dropBytes first whole))
  | .inLevel first =>
      let written := dropBytes first whole
      if written.isEmpty then some directive
      else (Threshold.parse? written).map fun threshold => { directive with threshold }
  | .afterSpan => some directive
  | _ => none

def scan (whole : List Char) (directive : Directive) (place : Place) (position : Nat) :
    List Char → Option Directive
  | [] => finish whole directive place
  | character :: rest =>
      match advance whole directive place position character with
      | none => none
      | some (directive, place) =>
          scan whole directive place (position + character.utf8Size) rest

def parse? (whole : List Char) : Option Directive :=
  scan whole {} .start 0 (Blank.trim whole)

/-! ## Applying -/

def appliesTo (directive : Directive) (event : Event) : Bool :=
  !directive.isScoped &&
    (directive.target.all fun target => target.isPrefixOf event.target.toList) &&
    directive.field.all fun name => event.fieldNames.contains (String.ofList name)

def order {Item : Type} [Ord Item] : Option Item → Option Item → Ordering
  | none, none => .eq
  | none, some _ => .lt
  | some _, none => .gt
  | some left, some right => compare left right

/-- Whether one directive yields to another that applies as well. One with a
target is more specific than one without, a longer target more than a shorter, a
field more than none; between two alike the order of their texts decides. -/
def yieldsTo (directive other : Directive) : Bool :=
  let text := fun (written : Option (List Char)) => written.map String.ofList
  let size := fun (written : Option (List Char)) => (text written).map String.utf8ByteSize
  let sizes := order (size directive.target) (size other.target)
  let presence := order (directive.field.map fun _ => 0) (other.field.map fun _ => 0)
  let targets := order (text directive.target) (text other.target)
  let fields := order (text directive.field) (text other.field)
  (sizes.then (presence.then (targets.then fields))).isLE

end Directive

structure Filter where
  directives : List Directive
deriving DecidableEq, Repr

namespace Filter

def deciding (held : Option Directive) (next : Directive) : Option Directive :=
  match held with
  | none => some next
  | some directive => if directive.yieldsTo next then some next else some directive

def passes (filter : Filter) (event : Event) : Bool :=
  match (filter.directives.filter fun directive => directive.appliesTo event).foldl
      deciding none with
  | none => false
  | some directive => event.level.rank ≤ directive.threshold

def parts (written : String) : List (List Char) :=
  (written.toList.splitOn ',').filter fun part => !part.isEmpty

def parse? (written : String) : Option Filter :=
  ((parts written).mapM Directive.parse?).map Filter.mk

/-- A filter from the directives that can be read. If there is none, errors
pass. -/
def parseLenient (written : String) : Filter :=
  match (parts written).filterMap Directive.parse? with
  | [] => ⟨[{ threshold := Level.error.rank }]⟩
  | directives => ⟨directives⟩

def defaultText (level : String) : String :=
  "account_service=" ++ level ++ ",tower_http=" ++ level

/-- The filter of a process: what the environment says if it can be read, else
the configured level. -/
def choose (fromEnvironment : Option String) (level : String) : Filter :=
  match fromEnvironment.bind parse? with
  | some filter => filter
  | none => parseLenient (defaultText level)

example : (choose none "info").passes .serviceStarting = true ∧
    (choose none "warn").passes .serviceStarting = false ∧
    (choose none "loud").passes (.stepFailed "a" "b") = true := by decide +kernel

example : (choose (some "") "info").passes (.stepFailed "a" "b") = false := by decide +kernel

example : (choose (some "off,account_service::lifecycle=4,account_service=error") "info").passes
    (.stepRegistered "a" 0) = true := by decide +kernel

example : (Filter.parse? "account_service=loud").isNone = true ∧
    (Filter.parse? "[span\x7bfield\x7d]=info").isSome = true ∧
    (Filter.parse? "[\x7bstep=(\x7d]").isNone = true := by decide +kernel

example : (choose (some "[\x7belapsed_ms\x7d]=info") "off").passes (.stepCompleted "a") = true ∧
    (choose (some "[\x7bstep\x7d]=off,[\x7berror\x7d]") "info").passes (.stepFailed "a" "b") =
      false := by decide +kernel

end Filter

end Bringup
