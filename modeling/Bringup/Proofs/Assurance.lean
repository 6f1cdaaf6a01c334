import Bringup.Proofs.Fields
import Bringup.Proofs.Walking

namespace Bringup

/-! What the later stages of startup rely on.

Logging, metrics and the connections read the configuration from the context and would fail
without one, and the address of the metrics is read once more when it has been validated long
ago. Neither can go wrong: the steps are registered only once the configuration step has
succeeded, what it has put into the context is valid, and nothing takes its place
(`Service.session_assured`). -/

namespace Stage

def readsConfig : Stage → Bool
  | configuration _ => false
  | logging | metrics | database _ | cache => true

end Stage

namespace Cause

/-- Tells that an earlier stage has not done its part. -/
def isUnforeseen : Cause → Bool
  | context (.notInitialized _) | invalidAddress => true
  | said _ | config _ | context (.alreadyInitialized _) | database _ | cache _ | exporter _
  | loggingInstalled => false

end Cause

namespace Context

def HoldsValid (context : Context) : Prop :=
  ∃ config, context.config = some config ∧ config.violations = []

def Supplies (context : Context) : Action → Prop
  | .stage stage => stage.readsConfig = true → context.HoldsValid
  | .scripted _ | .plain _ => True

theorem Keeps.holdsValid {before after : Context} (keeps : before.Keeps after)
    (holds : before.HoldsValid) : after.HoldsValid := by
  rcases holds with ⟨config, held, valid⟩
  have filled : before.isFilled .config = true := by simp [isFilled, held]
  have same : after.config = before.config := keeps .config filled
  exact ⟨config, same.trans held, valid⟩

theorem Keeps.supplies {before after : Context} (keeps : before.Keeps after) {action : Action}
    (supplies : before.Supplies action) : after.Supplies action := by
  cases action with
  | scripted | plain => trivial
  | stage stage => exact fun reads => keeps.holdsValid (supplies reads)

/-! What is put into a slot is refused only if the slot is filled. -/

section

variable {context : Context} {fault : ContextError}

theorem setConfig_error {config : Config}
    (refused : context.setConfig config = .error fault) : fault = .alreadyInitialized .config := by
  unfold setConfig at refused
  split at refused <;> cases refused
  rfl

theorem setDatabase_error {database : Database}
    (refused : context.setDatabase database = .error fault) :
    fault = .alreadyInitialized .database := by
  unfold setDatabase at refused
  split at refused <;> cases refused
  rfl

theorem setCache_error {cache : Cache}
    (refused : context.setCache cache = .error fault) : fault = .alreadyInitialized .cache := by
  unfold setCache at refused
  split at refused <;> cases refused
  rfl

end

end Context

/-! ## The stages -/

namespace Config

theorem exists_metricsAddress {config : Config} (valid : config.violations = [])
    (enabled : config.observability.metricsEnabled = true) :
    ∃ address, SocketAddress.read? config.observability.metricsAddress = some address := by
  have fine := (violations_eq_nil_iff config).mp valid .metricsAddress
  simp only [Validation.complaint?, enabled, if_true, Validation.addressComplaint?] at fine
  split at fine
  · rename_i address found
    exact ⟨address, found⟩
  · cases fine

end Config

namespace World

theorem publish_foreseen {world next : World} {result : Except ContextError Context}
    {slot : Slot} {cause : Cause} (set : ∀ fault, result = .error fault →
      fault = .alreadyInitialized slot)
    (published : world.publish result = (.error cause, next)) : cause.isUnforeseen = false := by
  cases result with
  | ok context => cases published
  | error fault =>
      cases set fault rfl
      cases published
      rfl

theorem perform_foreseen {world next : World} {stage : Stage} {cause : Cause}
    (supplies : stage.readsConfig = true → world.context.HoldsValid)
    (performed : world.perform stage = (.error cause, next)) : cause.isUnforeseen = false := by
  cases stage with
  | configuration path =>
      simp only [perform] at performed
      split at performed
      · cases performed
        rfl
      · exact publish_foreseen (fun _ => Context.setConfig_error) performed
  | logging =>
      rcases supplies rfl with ⟨config, held, valid⟩
      simp only [perform, Context.getConfig, held, installLogger] at performed
      split at performed
      · rename_i refused
        split at refused <;> cases refused
        cases performed
        rfl
      · cases performed
  | metrics =>
      rcases supplies rfl with ⟨config, held, valid⟩
      simp only [perform, Context.getConfig, held] at performed
      split at performed
      · cases performed
      · rename_i enabled
        rcases Config.exists_metricsAddress valid (by simpa using enabled) with ⟨address, found⟩
        rw [found] at performed
        simp only at performed
        split at performed <;> cases performed
        rfl
  | database testMode =>
      rcases supplies rfl with ⟨config, held, valid⟩
      simp only [perform, Context.getConfig, held] at performed
      split at performed
      · cases performed
        rfl
      · exact publish_foreseen (fun _ => Context.setDatabase_error) performed
  | cache =>
      rcases supplies rfl with ⟨config, held, valid⟩
      simp only [perform, Context.getConfig, held] at performed
      split at performed
      · cases performed
        rfl
      · exact publish_foreseen (fun _ => Context.setCache_error) performed

end World

/-! ## Calls -/

namespace Service

theorem outcome_eq_failed {ending : Ending} {rejected : Option DuplicateName} {cause : Cause}
    (failed : outcome ending rejected = .failed cause) : cause.isUnforeseen = false := by
  cases ending <;> cases rejected <;> cases failed <;> rfl

end Service

namespace Trial

theorem foreseen {trial : Trial}
    (supplies : trial.service.world.context.Supplies trial.step.action) {cause : Cause}
    (failed : trial.outcome = .failed cause) : cause.isUnforeseen = false := by
  cases told : trial.step.action.script? trial.step.calls with
  | some script =>
      rw [outcome, called, Service.callAction_of_script told] at failed
      exact Service.outcome_eq_failed failed
  | none =>
      cases runs : trial.step.action with
      | scripted | plain => rw [runs] at told; cases told
      | stage stage =>
          rw [runs] at supplies
          rcases attempted : trial.begun.world.attempt stage with ⟨ended, world⟩
          rw [outcome, called_of_stage runs attempted] at failed
          cases failed
          have reads : stage.readsConfig = true → trial.begun.world.context.HoldsValid := supplies
          have performed := World.perform_of_attempt (.error cause) attempted
          exact World.perform_foreseen reads performed

end Trial

/-! ## Routes -/

namespace Service

def Furnishes (service : Service) (action : Action) : Prop :=
  service.world.context.Supplies action

def Assured (service : Service) : Prop :=
  ∀ step ∈ service.manager.steps, service.Furnishes step.action

variable {first last service : Service} {trials : List Trial} {outside : Prop}

theorem Assured.congr {next : Service} (assured : service.Assured)
    (steps : next.manager.steps = service.manager.steps)
    (keeps : service.world.context.Keeps next.world.context) : next.Assured := by
  intro step member
  rw [steps] at member
  exact keeps.supplies (assured step member)

theorem Assured.push {next : Service} {name : String} {action : Action}
    (assured : service.Assured) (furnishes : service.Furnishes action)
    (pushed : service.push name action = .ok next) : next.Assured := by
  intro step member
  rw [Furnishes, push_context pushed]
  have manager : next.manager = service.manager.enlist name action := by
    rw [Manager.enlist, push_manager pushed]
  rw [manager] at member
  rcases Manager.of_mem_enlist member with old | ⟨_, same⟩
  · exact assured step old
  · rw [same]
    exact furnishes

theorem Assured.call {trial : Trial} (assured : trial.service.Assured)
    (inside : trial.position < trial.service.manager.steps.length) : trial.after.Assured := by
  intro step member
  rcases Trial.of_mem_after inside member with ⟨earlier, old, _, same⟩ | ⟨runs, scripted⟩
  · rw [← same]
    exact trial.keeps_context.supplies (assured earlier old)
  · rw [scripted]
    trivial

theorem Route.assured (route : Route Furnishes outside first trials last)
    (assured : first.Assured) :
    last.Assured ∧ ∀ trial ∈ trials, trial.service.Furnishes trial.step.action := by
  induction route with
  | nil => exact ⟨assured, fun trial member => by cases member⟩
  | pushes _ permitted named pushed induction =>
      exact ⟨induction.1.push permitted pushed, induction.2⟩
  | @runs trials middle position step _ stands pending induction =>
      let trial : Trial := ⟨middle, position, step⟩
      have before : trial.service.Assured := induction.1
      refine ⟨before.call (List.getElem?_eq_some_iff.mp stands).1, fun called member => ?_⟩
      rcases List.mem_append.mp member with earlier | new
      · exact induction.2 called earlier
      · cases List.mem_singleton.mp new
        exact before step (List.mem_of_getElem? stands)
  | asides _ same induction =>
      refine ⟨induction.1.congr (core_steps same) ?_, induction.2⟩
      rw [core_context same]
      exact .refl _
  | publishes _ allowed calls keeps induction =>
      exact ⟨induction.1.congr rfl keeps, induction.2⟩

theorem holdsValid_of_loaded {next : Service} {path : String}
    (loaded : service.execStage (.configuration path) = (.returned (.ok ()), next)) :
    next.world.context.HoldsValid := by
  unfold execStage exec at loaded
  split at loaded
  · cases loaded
  · rename_i begun pushed
    let trial : Trial :=
      ⟨begun, service.manager.steps.length, ⟨"config", .stage (.configuration path), false, 0⟩⟩
    rcases trial.of_ran loaded with ⟨finished, rfl⟩
    have fills : trial.fills .config = true := by
      rw [Trial.fills, Outcome.of_finish_ok finished]
      rfl
    rcases Trial.loads_of_fills fills with ⟨config, ⟨path, _, read⟩, held⟩
    exact ⟨config, held, Config.violations_of_loadFile read⟩

theorem permits_furnishes : Permits Furnishes outside where
  scripts service runs := trivial
  opens service path := fun reads => by cases reads
  goesOn := by
    intro service next later path loaded routed stage reads
    rcases routed with ⟨trials, route⟩
    exact route.trail.keeps.holdsValid (holdsValid_of_loaded loaded)

/-! ## Sessions -/

/-- Whatever operations follow one another, as long as none of them registers the connectors
alone: the stages after the first always find a valid configuration in the context, so that no
call ever fails because a slot is not filled yet, or because the address of the metrics cannot
be read. -/
theorem session_assured (world : World) {operations : List (Operation α)}
    (spares : Operation.anyConnectsAlone operations = false) :
    let service := (({ world } : Service).session operations).2
    let trials := ({ world } : Service).trials operations
    Trail True { world } trials service ∧
      service.world.journal.calls = world.journal.calls ++ trials.map Trial.call ∧
      ∀ trial ∈ trials,
        (∀ stage, trial.step.action = .stage stage → stage.readsConfig = true →
          ∃ config, trial.begun.world.context.getConfig = .ok config ∧ config.violations = []) ∧
        (∀ slot, trial.outcome ≠ .failed (.context (.notInitialized slot))) ∧
        trial.outcome ≠ .failed .invalidAddress := by
  intro service trials
  have route : Route Furnishes True { world } trials service :=
    session_route permits_furnishes _ operations (fun _ => trivial) (by simp [spares])
  have fresh : ({ world } : Service).Assured := by
    intro step member
    cases member
  refine ⟨route.trail, route.trail.calls, fun trial member => ?_⟩
  have furnishes := (route.assured fresh).2 trial member
  refine ⟨fun stage runs reads => ?_, fun slot failed => ?_, fun failed => ?_⟩
  · rw [Furnishes, runs] at furnishes
    rcases furnishes reads with ⟨config, held, valid⟩
    refine ⟨config, ?_, valid⟩
    have found : trial.begun.world.context.config = some config := held
    rw [Context.getConfig, found]
  · cases Trial.foreseen furnishes failed
  · cases Trial.foreseen furnishes failed

/-- Startup succeeds, then somebody tries to put another configuration in place, and then the
database cannot be reached. -/
theorem assured_after_startup : ∃ (world : World) (operations : List (Operation Unit)),
    Operation.anyConnectsAlone operations = false ∧
      (({ world } : Service).trials operations).map (fun trial => trial.step.name) =
        ["config", "logging", "metrics", "database"] ∧
      ∀ trial ∈ ({ world } : Service).trials operations,
        trial.outcome ≠ .failed .invalidAddress := by
  let text := "[observability]\nmetrics_enabled = true\n"
  let world : World := { files := Files.write [] "config.toml" (.contents (Bytes.encode text)) }
  let operations : List (Operation Unit) :=
    [.bootstrap "config.toml" false, .setConfig .default, .initializeAll]
  have spares : Operation.anyConnectsAlone operations = false := rfl
  have steps : (({ world } : Service).session operations).2.world.journal.calls.map Call.step =
      ["config", "logging", "metrics", "database"] := by
    decide +kernel
  rcases session_assured world spares with ⟨_, calls, assured⟩
  have names : (({ world } : Service).trials operations).map (fun trial => trial.step.name) =
      ["config", "logging", "metrics", "database"] := by
    rw [← steps, calls]
    simp [Journal.calls, Trial.call, world]
  exact ⟨world, operations, spares, names, fun trial member => (assured trial member).2.2⟩

end Service

end Bringup
