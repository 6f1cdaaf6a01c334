namespace Bringup

/-! The stages that the service goes through before it serves. -/

inductive Stage where
  /-- Loads the configuration file. -/
  | configuration (path : String)
  | logging
  | metrics
  | database (testMode : Bool)
  | cache
deriving DecidableEq, Repr

namespace Stage

def name : Stage → String
  | configuration _ => "config"
  | logging => "logging"
  | metrics => "metrics"
  | database _ => "database"
  | cache => "cache"

end Stage

end Bringup
