import Bringup.CommandLine.Command
import Bringup.CommandLine.Similarity

namespace Bringup

/-! Reading arguments against a command.

Arguments are read from left to right and the first fault ends the reading. An
option that takes a value takes it from behind an equals sign, from the rest of
a cluster of short options, or from the next argument. After a lone `--` nothing
is an option.

An option whose value is the next argument is pending: it is checked and
recorded only when another option is taken or the arguments end. Where an
argument cannot be understood at all, the fault of a pending option gives way to
that argument's fault. -/

namespace CommandLine

inductive Fault where
  /-- An argument that no option or operand takes, what could have been meant, and
  the options that its usage names. -/
  | unexpected (argument : String) (similar : Option Choice) (given : List Choice)
  | unexpectedValue (value : String) (choice : Choice) (matched : List Choice)
  | missingValue (choice : Choice)
  | repeated (choice : Choice)
  | unrecognizedSubcommand (name : String) (similar : List String)
  | needlessDashes (name : String)
  | missingSubcommand
deriving DecidableEq, Repr

inductive Notice where
  | help (command : Command)
  | version (command : Command)
  /-- Help, where arguments are needed and none were given. -/
  | helpNeeded (command : Command)
  | fault (command : Command) (fault : Fault)
deriving DecidableEq, Repr

namespace Fault

private def quotedWords (words : List String) : String :=
  String.intercalate ", " (words.map fun word => "'" ++ word ++ "'")

def headline (command : Command) : Fault → String
  | unexpected argument _ _ => "unexpected argument '" ++ argument ++ "' found"
  | unexpectedValue value choice _ =>
      "unexpected value '" ++ value ++ "' for '" ++ choice.display ++ "' found; no more were expected"
  | missingValue choice =>
      "a value is required for '" ++ choice.display ++ "' but none was supplied"
  | repeated choice => "the argument '" ++ choice.display ++ "' cannot be used multiple times"
  | unrecognizedSubcommand name _ => "unrecognized subcommand '" ++ name ++ "'"
  | needlessDashes name => "unexpected argument '" ++ name ++ "' found"
  | missingSubcommand =>
      "'" ++ command.path ++ "' requires a subcommand but one was not provided\n  [subcommands: " ++
        String.intercalate ", " command.subcommandNames ++ "]"

def tip : Fault → Option String
  | unexpected _ (some similar) _ =>
      some ("a similar argument exists: '--" ++ similar.long ++ "'")
  | unrecognizedSubcommand _ [] => none
  | unrecognizedSubcommand _ [similar] =>
      some ("a similar subcommand exists: '" ++ similar ++ "'")
  | unrecognizedSubcommand _ similar =>
      some ("some similar subcommands exist: " ++ quotedWords similar)
  | needlessDashes name =>
      some ("subcommand '" ++ name ++ "' exists; to use it, remove the '--' before it")
  | _ => none

def usage (command : Command) : Fault → Option String
  | unexpected _ similar given => some (command.usageOf (given ++ similar.toList))
  | unexpectedValue _ choice matched => some (command.groupedUsageOf matched choice)
  | missingValue _ => none
  | _ => some command.usage

def message (command : Command) (fault : Fault) : String :=
  "error: " ++ fault.headline command ++
    (match fault.tip with
      | some tip => "\n\n  tip: " ++ tip
      | none => "") ++
    (match fault.usage command with
      | some usage => "\n\n" ++ usage
      | none => "") ++
    (if command.choices.any fun choice => choice.role = .help then
        "\n\nFor more information, try '--help'.\n"
      else "\n")

end Fault

namespace Notice

def output : Notice → String
  | help command => command.help
  | version command => command.path ++ " " ++ command.version.getD "" ++ "\n"
  | helpNeeded _ | fault _ _ => ""

def errorOutput : Notice → String
  | help _ | version _ => ""
  | helpNeeded command => command.help
  | fault command problem => problem.message command

def exitCode : Notice → Nat
  | help _ | version _ => 0
  | helpNeeded _ | fault _ _ => 2

end Notice

/-! ## Reading -/

structure Progress where
  /-- The options that were taken, with the values of those that take one. -/
  matched : List (Choice × String) := []
  /-- An option that is not taken yet, with its value once that was read. -/
  pending : Option (Choice × Option String) := none
  /-- Whether a lone `--` was met. -/
  isTrailing : Bool := false
deriving DecidableEq, Repr

namespace Progress

def choices (progress : Progress) : List Choice := progress.matched.map Prod.fst

def value? (progress : Progress) (long : String) : Option String :=
  (progress.matched.find? fun entry => entry.1.long = long).map Prod.snd

def isGiven (progress : Progress) (long : String) : Bool := (progress.value? long).isSome

def awaiting? (progress : Progress) : Option Choice :=
  match progress.pending with
  | some (choice, none) => some choice
  | _ => none

/-- Takes an option with its value. One that is given again is forgotten, and one
with an improper value stays. -/
def record (progress : Progress) (choice : Choice) (value : String) : Progress × Option Fault :=
  if progress.choices.contains choice then
    ({ progress with matched := progress.matched.filter fun entry => entry.1 ≠ choice },
      some (.repeated choice))
  else
    ({ progress with matched := progress.matched ++ [(choice, value)] },
      match choice.role, value with
      | .value _ true, "" => some (.missingValue choice)
      | _, _ => none)

def settle (progress : Progress) : Progress × Option Fault :=
  match progress.pending with
  | none => (progress, none)
  | some (choice, none) => ({ progress with pending := none }, some (.missingValue choice))
  | some (choice, some value) => { progress with pending := none }.record choice value

end Progress

namespace Command

/-- What was reached, unless there was a fault on the way. -/
def orFault (command : Command) : Progress × Option Fault → Except Notice Progress
  | (progress, none) => .ok progress
  | (_, some fault) => .error (.fault command fault)

def accept (command : Command) (progress : Progress) (choice : Choice) (value : String) :
    Except Notice Progress := do
  let progress ← command.orFault progress.settle
  match choice.role with
  | .help => .error (.help command)
  | .version => .error (.version command)
  | _ => command.orFault (progress.record choice value)

/-- Takes the pending option and leaves another one pending, whose value is the
next argument. -/
def postpone (command : Command) (progress : Progress) (choice : Choice) :
    Except Notice Progress := do
  let progress ← command.orFault progress.settle
  return { progress with pending := some (choice, none) }

def similarChoice? (command : Command) (long : String) : Option Choice := do
  let similar ← (Similarity.suggestions long (command.choices.map Choice.long)).getLast?
  command.choices.find? fun choice => choice.long = similar

/-- Takes a long option, written behind two dashes, and a value behind an equals
sign. -/
def readLong (command : Command) (progress : Progress) (long : String) (value : Option String) :
    Except Notice Progress :=
  match command.choices.find? fun choice => choice.long = long with
  | none =>
      .error (.fault command
        (.unexpected ("--" ++ long) (command.similarChoice? long) progress.settle.1.choices))
  | some choice =>
      match choice.role, value with
      | .value _ _, some value => command.accept progress choice value
      | .value _ _, none => command.postpone progress choice
      | _, some value =>
          .error (.fault command (.unexpectedValue value choice progress.choices))
      | _, none => command.accept progress choice ""

/-- Takes a cluster of short options, the last of which may be followed by its
value. -/
def readShort (command : Command) (progress : Progress) : List Char → Except Notice Progress
  | [] => .ok progress
  | short :: rest =>
      match command.choices.find? fun choice => choice.short = some short with
      | none =>
          .error (.fault command (.unexpected ("-" ++ String.singleton short) none []))
      | some choice =>
          match choice.role, rest with
          | .value _ _, [] => command.postpone progress choice
          | .value _ _, '=' :: value => command.accept progress choice (String.ofList value)
          | .value _ _, value => command.accept progress choice (String.ofList value)
          | _, rest => do
              let progress ← command.accept progress choice ""
              command.readShort progress rest

/-- The fault of an argument that is no option. -/
def misplaced (command : Command) (progress : Progress) (argument : String) : Fault :=
  if progress.isTrailing && command.subcommandNames.contains argument then
    .needlessDashes argument
  else if command.subcommands.isEmpty then .unexpected argument none []
  else
    .unrecognizedSubcommand argument (Similarity.suggestions argument command.subcommandNames)

def longParts? (argument : List Char) : Option (String × Option String) :=
  match argument with
  | '-' :: '-' :: long =>
      let (name, rest) := long.span (· ≠ '=')
      some (String.ofList name, match rest with
        | _ :: value => some (String.ofList value)
        | [] => none)
  | _ => none

def read (command : Command) (progress : Progress) :
    List String → Except Notice (Progress × Option (String × List String))
  | [] => .ok (progress, none)
  | argument :: rest =>
      if progress.isTrailing then .error (.fault command (command.misplaced progress argument))
      else if progress.awaiting?.isNone && command.subcommandNames.contains argument then
        .ok (progress, some (argument, rest))
      else if argument = "--" then command.read { progress with isTrailing := true } rest
      else
        match longParts? argument.toList with
        | some (long, value) => do
            let progress ← command.readLong progress long value
            command.read progress rest
        | none =>
            match argument.toList with
            | '-' :: first :: cluster => do
                let progress ← command.readShort progress (first :: cluster)
                command.read progress rest
            | _ =>
                match progress.awaiting? with
                | some choice =>
                    command.read { progress with pending := some (choice, some argument) } rest
                | none => .error (.fault command (command.misplaced progress argument))

/-- The options of a command and its subcommand, which is read first. Where a
subcommand is needed, help is shown to those who give nothing at all. -/
def parse (command : Command)
    (readSubcommand : String → List String → Except Notice α) (arguments : List String) :
    Except Notice (Progress × Option α) := do
  let (progress, subcommand) ← command.read {} arguments
  let subcommand ← subcommand.mapM fun (name, rest) => readSubcommand name rest
  let progress ← command.orFault progress.settle
  if subcommand.isNone && !command.subcommands.isEmpty then
    if progress.matched.isEmpty then .error (.helpNeeded command)
    else .error (.fault command .missingSubcommand)
  else return (progress, subcommand)

def parseOptions (command : Command) (arguments : List String) : Except Notice Progress := do
  let (progress, _) ← command.parse
    (fun name _ => (.error (.fault command (.unrecognizedSubcommand name [])) :
      Except Notice Unit)) arguments
  return progress

end Command

end CommandLine

end Bringup
