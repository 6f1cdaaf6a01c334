import Bringup.Config.Decoding
import Bringup.Config.Override
import Bringup.Config.Validation
import Bringup.Files
import Bringup.Toml.Document

namespace Bringup

/-! From the text of a document and a list of variables to a valid
configuration.

The text is read as TOML, the overrides are applied in order, the result is
decoded and then validated; the first of these that fails says why. -/

inductive ConfigError where
  | unreadableFile (path : String) (fault : FileFault)
  | notToml (source : String) (fault : Toml.Fault)
  | wrongType (fault : TypeFault)
  | overrideFault (name : String) (fault : OverrideFault)
  | invalid (violations : List Violation)

namespace OverrideFault

def message (name : String) : OverrideFault → String
  | malformed => "Invalid override " ++ name ++ ": expected APP__<SECTION>__<KEY>"
  | unreadable expected => "Invalid override " ++ name ++ ": expected " ++ expected.describe

end OverrideFault

namespace ConfigError

def invalidMessage (lines : List String) : String :=
  "Validation failed: " ++ String.intercalate ", " lines

def message : ConfigError → String
  | unreadableFile path fault => "IO error reading " ++ path ++ ": " ++ fault.message
  | notToml source fault => "Parse error: " ++ fault.message source
  | wrongType fault => "Parse error: " ++ fault.message
  | overrideFault name fault => fault.message name
  | invalid violations => invalidMessage (violations.map Violation.message)

end ConfigError

namespace Config

def checked (config : Config) : Except ConfigError Config :=
  match config.violations with
  | [] => .ok config
  | first :: rest => .error (.invalid (first :: rest))

/-- The valid configuration that a document describes once overrides are
applied. -/
def resolve (document : Toml.Table) (environment : List Variable) : Except ConfigError Config :=
  match Override.applyAll document environment with
  | .error (name, fault) => .error (.overrideFault name fault)
  | .ok overridden =>
      match ofDocument overridden with
      | .error fault => .error (.wrongType fault)
      | .ok config => config.checked

def load (text : String) (environment : List Variable) : Except ConfigError Config :=
  match Toml.read text with
  | .error fault => .error (.notToml text fault)
  | .ok document => resolve document environment

def appliedOverrides (text : String) (environment : List Variable) : List String :=
  match Toml.read text with
  | .error _ => []
  | .ok document => Override.applied document environment

def loadFile (files : Files) (path : String) (environment : List Variable) :
    Except ConfigError Config :=
  match files.readText path with
  | .error fault => .error (.unreadableFile path fault)
  | .ok text => load text environment

end Config

end Bringup
