import Bringup.Cache
import Bringup.Database

namespace Bringup

/-! What the parts of the service share: three slots, each filled once. -/

inductive Slot where
  | config
  | database
  | cache
deriving DecidableEq, Repr

namespace Slot

def name : Slot → String
  | config => "config"
  | database => "database"
  | cache => "cache"

def all : List Slot := [config, database, cache]

end Slot

inductive ContextError where
  | notInitialized (slot : Slot)
  | alreadyInitialized (slot : Slot)
deriving DecidableEq, Repr

namespace ContextError

def message : ContextError → String
  | notInitialized slot => slot.name ++ " has not been initialized"
  | alreadyInitialized slot => slot.name ++ " is already initialized"

end ContextError

structure Context where
  config : Option Config := none
  database : Option Database := none
  cache : Option Cache := none
deriving DecidableEq, Repr

namespace Context

def isFilled (context : Context) : Slot → Bool
  | .config => context.config.isSome
  | .database => context.database.isSome
  | .cache => context.cache.isSome

def components (context : Context) : List Slot := Slot.all.filter context.isFilled

def getConfig (context : Context) : Except ContextError Config :=
  match context.config with
  | some config => .ok config
  | none => .error (.notInitialized .config)

def getDatabase (context : Context) : Except ContextError Database :=
  match context.database with
  | some database => .ok database
  | none => .error (.notInitialized .database)

def getCache (context : Context) : Except ContextError Cache :=
  match context.cache with
  | some cache => .ok cache
  | none => .error (.notInitialized .cache)

def setConfig (context : Context) (config : Config) : Except ContextError Context :=
  if context.isFilled .config then .error (.alreadyInitialized .config)
  else .ok { context with config := some config }

def setDatabase (context : Context) (database : Database) : Except ContextError Context :=
  if context.isFilled .database then .error (.alreadyInitialized .database)
  else .ok { context with database := some database }

def setCache (context : Context) (cache : Cache) : Except ContextError Context :=
  if context.isFilled .cache then .error (.alreadyInitialized .cache)
  else .ok { context with cache := some cache }

end Context

end Bringup
