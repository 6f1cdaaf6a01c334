namespace Bringup

/-! What a command accepts and how it describes itself. -/

namespace CommandLine

inductive Role where
  /-- Takes a value, which may have to be non-empty. -/
  | value (name : String) (isRequiredText : Bool)
  | switch
  | help
  | version
deriving DecidableEq, Repr

structure Choice where
  short : Option Char := none
  long : String
  role : Role
  description : String := ""
  default : Option String := none
deriving DecidableEq, Repr

namespace Choice

def display (choice : Choice) : String :=
  match choice.role with
  | .value name _ => "--" ++ choice.long ++ " <" ++ name ++ ">"
  | _ => "--" ++ choice.long

/-- Options that the command itself defines, and not the help and version that
every command may have. -/
def isOwn (choice : Choice) : Bool :=
  match choice.role with
  | .value _ _ | .switch => true
  | .help | .version => false

def label (choice : Choice) : String :=
  (match choice.short with
    | some short => "-" ++ String.singleton short ++ ", "
    | none => "    ") ++ choice.display

def explanation (choice : Choice) : String :=
  String.intercalate " "
    ((if choice.description.isEmpty then [] else [choice.description]) ++
      (choice.default.map fun default => "[default: " ++ default ++ "]").toList)

end Choice

structure Subcommand where
  name : String
  description : String
deriving DecidableEq, Repr

structure Command where
  /-- How the command is called, its parents included. -/
  path : String
  description : String
  version : Option String := none
  choices : List Choice := []
  /-- If there are subcommands, one of them must be given. -/
  subcommands : List Subcommand := []
  /-- What stands for arguments that are only described. -/
  operand : Option (String × String) := none
deriving DecidableEq, Repr

def helpChoice : Choice :=
  { short := some 'h', long := "help", role := .help, description := "Print help" }

def versionChoice : Choice :=
  { short := some 'V', long := "version", role := .version, description := "Print version" }

namespace Command

def subcommandNames (command : Command) : List String := command.subcommands.map Subcommand.name

def subcommandTail (command : Command) : String :=
  if command.subcommands.isEmpty then "" else " <COMMAND>"

def usage (command : Command) : String :=
  "Usage: " ++ command.path ++
    (if command.choices.any Choice.isOwn then " [OPTIONS]" else "") ++
    command.subcommandTail ++
    (match command.operand with
      | some (name, _) => " " ++ name
      | none => "")

private def usageWith (command : Command) (parts : List String) : String :=
  if parts.isEmpty then command.usage
  else
    "Usage: " ++ command.path ++ String.join (parts.map (" " ++ ·)) ++ command.subcommandTail

def usageOf (command : Command) (given : List Choice) : String :=
  command.usageWith (given.eraseDups.map Choice.display)

def alternatives (command : Command) : String :=
  "<" ++ String.intercalate "|" ((command.choices.filter Choice.isOwn).map Choice.display) ++ ">"

/-- The usage that names options, and instead of a command's own options all of
them as alternatives once one of them was matched. -/
def groupedUsageOf (command : Command) (matched : List Choice) (other : Choice) : String :=
  let given := (matched ++ [other]).eraseDups
  if matched.any Choice.isOwn then
    command.usageWith
      ((given.filter fun choice => !choice.isOwn).map Choice.display ++ [command.alternatives])
  else command.usageOf given

/-! ## Help -/

private def padded (width : Nat) (text : String) : String :=
  text ++ String.ofList (List.replicate (width - text.length) ' ')

private def table (heading : String) (rows : List (String × String)) : String :=
  if rows.isEmpty then ""
  else
    let width := rows.foldl (fun width row => max width row.1.length) 0
    "\n" ++ heading ++ ":\n" ++
      String.join (rows.map fun row => "  " ++ padded width row.1 ++ "  " ++ row.2 ++ "\n")

def help (command : Command) : String :=
  command.description ++ "\n\n" ++ command.usage ++ "\n" ++
    table "Commands" (command.subcommands.map fun sub => (sub.name, sub.description)) ++
    table "Arguments" command.operand.toList ++
    table "Options" (command.choices.map fun choice => (choice.label, choice.explanation))

end Command

end CommandLine

end Bringup
