import Bringup.Lifecycle.Walk

namespace Bringup

/-! Starting the service: its stages as steps of the manager.

Configuration, logging and metrics run as they are registered; database and
cache are only registered and wait for a walk. The first failure ends the
sequence, and nothing after it is registered. -/

namespace Service

def execStage (service : Service) (stage : Stage) :
    Finish (Except InitError Unit) × Service :=
  service.exec stage.name (.stage stage)

def registerStage (service : Service) (stage : Stage) : Except InitError Unit × Service :=
  match service.register stage.name (.stage stage) with
  | (.error fault, next) => (.error (.duplicate fault), next)
  | (.ok (), next) => (.ok (), next)

def registerStages (service : Service) : List Stage → Except InitError Unit × Service
  | [] => (.ok (), service)
  | stage :: rest =>
      match service.registerStage stage with
      | (.error fault, next) => (.error fault, next)
      | (.ok (), next) => next.registerStages rest

def execStages (service : Service) : List Stage → Finish (Except InitError Unit) × Service
  | [] => (.returned (.ok ()), service)
  | stage :: rest =>
      match service.execStage stage with
      | (.returned (.ok ()), next) => next.execStages rest
      | result => result

end Service

namespace Stage

def immediate (path : String) : List Stage := [configuration path, logging, metrics]

def deferred (testMode : Bool) : List Stage := [database testMode, cache]

end Stage

namespace Service

def registerConnectors (service : Service) (testMode : Bool) : Except InitError Unit × Service :=
  service.registerStages (Stage.deferred testMode)

def bootstrap (service : Service) (path : String) (testMode : Bool) :
    Finish (Except InitError Unit) × Service :=
  match service.execStages (Stage.immediate path) with
  | (.returned (.ok ()), next) =>
      let (result, last) := next.registerConnectors testMode
      (.returned result, last)
  | result => result

end Service

end Bringup
