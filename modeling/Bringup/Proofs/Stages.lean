import Bringup.World

namespace Bringup

/-! What the stages do to the shared context.

A stage that succeeds fills its slot, which was empty, and touches no other one; a stage that
fails or panics leaves the context alone (`World.attempt_gains`). -/

namespace Stage

def slot? : Stage → Option Slot
  | configuration _ => some .config
  | logging | metrics => none
  | database _ => some .database
  | cache => some .cache

end Stage

namespace Context

def AgreesAt (first second : Context) : Slot → Prop
  | .config => first.config = second.config
  | .database => first.database = second.database
  | .cache => first.cache = second.cache

theorem AgreesAt.refl (context : Context) (slot : Slot) : context.AgreesAt context slot := by
  cases slot <;> rfl

theorem AgreesAt.trans {first second third : Context} {slot : Slot}
    (earlier : first.AgreesAt second slot) (later : second.AgreesAt third slot) :
    first.AgreesAt third slot := by
  cases slot <;> exact Eq.trans earlier later

theorem AgreesAt.isFilled_eq {first second : Context} {slot : Slot}
    (agrees : first.AgreesAt second slot) : first.isFilled slot = second.isFilled slot := by
  cases slot <;> exact congrArg Option.isSome agrees

/-- A slot that was empty is filled, and no other one is touched. -/
structure Gains (gained : Slot) (before after : Context) : Prop where
  empty : before.isFilled gained = false
  full : after.isFilled gained = true
  others : ∀ slot, slot ≠ gained → after.AgreesAt before slot

theorem Gains.isFilled_eq {gained : Slot} {before after : Context}
    (gains : Gains gained before after) (slot : Slot) :
    after.isFilled slot = (before.isFilled slot || some gained == some slot) := by
  by_cases same : slot = gained
  · subst slot
    simp [gains.full]
  · have other : (some gained == some slot) = false := by simpa using Ne.symm same
    rw [(gains.others slot same).isFilled_eq, other, Bool.or_false]

theorem gains_setConfig {context next : Context} {config : Config}
    (set : context.setConfig config = .ok next) :
    Gains .config context next ∧ next.config = some config := by
  unfold setConfig at set
  split at set
  · cases set
  · rename_i empty
    cases set
    refine ⟨⟨by simpa using empty, rfl, fun slot other => ?_⟩, rfl⟩
    cases slot <;> first | rfl | exact absurd rfl other

theorem gains_setDatabase {context next : Context} {database : Database}
    (set : context.setDatabase database = .ok next) : Gains .database context next := by
  unfold setDatabase at set
  split at set
  · cases set
  · rename_i empty
    cases set
    refine ⟨by simpa using empty, rfl, fun slot other => ?_⟩
    cases slot <;> first | rfl | exact absurd rfl other

theorem gains_setCache {context next : Context} {cache : Cache}
    (set : context.setCache cache = .ok next) : Gains .cache context next := by
  unfold setCache at set
  split at set
  · cases set
  · rename_i empty
    cases set
    refine ⟨by simpa using empty, rfl, fun slot other => ?_⟩
    cases slot <;> first | rfl | exact absurd rfl other

end Context

theorem Outcome.of_ne_panicked {result : Except Cause Unit} {message : String} :
    of result ≠ .panicked message := by
  cases result <;> nofun

namespace World

@[simp] theorem installLogger_context (world : World) (config : ObservabilityConfig) :
    (world.installLogger config).2.context = world.context := by
  unfold installLogger
  split <;> rfl

@[simp] theorem installExporter_context (world : World) (address : SocketAddress) :
    (world.installExporter address).2.context = world.context := by
  unfold installExporter
  split
  · rfl
  · split <;> rfl

@[simp] theorem loadConfig_context (world : World) (path : String) :
    (world.loadConfig path).2.context = world.context := by
  unfold loadConfig
  simp only
  split <;> rfl

@[simp] theorem connectDatabase_context (world : World) (config : DatabaseConfig)
    (testMode : Bool) : (world.connectDatabase config testMode).2.context = world.context := by
  unfold connectDatabase
  split
  · rfl
  · simp only
    split <;> rfl

@[simp] theorem connectCache_context (world : World) (config : CacheConfig) :
    (world.connectCache config).2.context = world.context := by
  unfold connectCache
  split
  · rfl
  · simp only
    split <;> rfl

@[simp] theorem abandon_context (world : World) (stage : Stage) :
    (world.abandon stage).context = world.context := by
  cases stage <;> rfl

theorem attempt_cases (world : World) (stage : Stage) :
    (∃ message, world.panic? stage = some message ∧
        world.attempt stage = (.panicked message, world.abandon stage)) ∨
      world.panic? stage = none ∧
        world.attempt stage = (world.perform stage).map Outcome.of id := by
  unfold attempt
  cases world.panic? stage with
  | some message => exact .inl ⟨message, rfl, rfl⟩
  | none => exact .inr ⟨rfl, rfl⟩

theorem perform_of_attempt {world next : World} {stage : Stage} (result : Except Cause Unit)
    (attempted : world.attempt stage = (.of result, next)) :
    world.perform stage = (result, next) := by
  rcases world.attempt_cases stage with ⟨message, _, ended⟩ | ⟨_, ended⟩ <;>
    rw [ended] at attempted
  · cases result <;> cases attempted
  · rcases performed : world.perform stage with ⟨_ | done, last⟩ <;> cases result <;>
      rw [performed] at attempted <;> cases attempted <;> rfl

/-- What work does to the context: a success gains its slot, and anything else nothing. -/
def Gains (world : World) (slot? : Option Slot) : Outcome × World → Prop
  | (.succeeded, next) =>
      match slot? with
      | some slot => Context.Gains slot world.context next.context
      | none => next.context = world.context
  | (.failed _, next) | (.panicked _, next) => next.context = world.context

theorem gains_none {world next : World} {outcome : Outcome}
    (kept : next.context = world.context) : world.Gains none (outcome, next) := by
  cases outcome <;> exact kept

theorem gains_publish {world loaded : World} (kept : loaded.context = world.context)
    {result : Except ContextError Context} {slot : Slot}
    (set : ∀ next, result = .ok next → Context.Gains slot loaded.context next) :
    world.Gains (some slot) ((loaded.publish result).map .of id) := by
  cases result with
  | error fault => exact kept
  | ok next =>
      rw [kept] at set
      exact set next rfl

theorem perform_gains (world : World) (stage : Stage) :
    world.Gains stage.slot? ((world.perform stage).map .of id) := by
  cases stage with
  | configuration path =>
      have kept := loadConfig_context world path
      simp only [perform]
      split <;> rename_i loaded <;> rw [loaded] at kept
      · exact kept
      · exact gains_publish kept fun _ set => (Context.gains_setConfig set).1
  | logging =>
      simp only [perform]
      split
      · rfl
      · rename_i config _
        have kept := installLogger_context world config.observability
        split <;> rename_i installed <;> rw [installed] at kept
        · exact kept
        · exact gains_none kept
  | metrics =>
      simp only [perform]
      split
      · rfl
      · split
        · exact gains_none rfl
        · split
          · rfl
          · rename_i address _
            have kept := installExporter_context world address
            split <;> rename_i installed <;> rw [installed] at kept
            · exact kept
            · exact gains_none kept
  | database testMode =>
      simp only [perform]
      split
      · rfl
      · rename_i config _
        have kept := connectDatabase_context world config.database testMode
        split <;> rename_i connected <;> rw [connected] at kept
        · exact kept
        · exact gains_publish kept fun _ => Context.gains_setDatabase
  | cache =>
      simp only [perform]
      split
      · rfl
      · rename_i config _
        have kept := connectCache_context world config.cache
        split <;> rename_i connected <;> rw [connected] at kept
        · exact kept
        · exact gains_publish kept fun _ => Context.gains_setCache

theorem attempt_gains (world : World) (stage : Stage) :
    world.Gains stage.slot? (world.attempt stage) := by
  rcases world.attempt_cases stage with ⟨message, _, attempted⟩ | ⟨_, attempted⟩
  · rw [attempted]
    exact world.abandon_context stage
  · rw [attempted]
    exact world.perform_gains stage

/-- What work is to leave in the context: a slot filled after a success, and nothing new
otherwise. -/
def Fills (world : World) (slot? : Option Slot) : Outcome × World → Prop
  | (.succeeded, next) => ∀ slot,
      next.context.isFilled slot = (world.context.isFilled slot || slot? == some slot)
  | (.failed _, next) | (.panicked _, next) => next.context = world.context

theorem Gains.fills {world next : World} {slot? : Option Slot} {outcome : Outcome}
    (gains : world.Gains slot? (outcome, next)) : world.Fills slot? (outcome, next) := by
  cases outcome with
  | failed | panicked => exact gains
  | succeeded =>
      cases slot? with
      | none =>
          intro slot
          rw [show next.context = world.context from gains]
          exact (Bool.or_false _).symm
      | some gained => exact Context.Gains.isFilled_eq gains

theorem attempt_fills (world : World) (stage : Stage) :
    world.Fills stage.slot? (world.attempt stage) :=
  (world.attempt_gains stage).fills

theorem perform_configuration {world next : World} {path : String}
    (performed : world.perform (.configuration path) = (.ok (), next)) :
    ∃ config, Config.loadFile world.files path world.environment = .ok config ∧
      next.context.config = some config := by
  unfold perform at performed
  simp only [loadConfig] at performed
  split at performed
  · cases performed
  · rename_i config after loaded
    split at loaded
    · rename_i found
      cases loaded
      unfold publish at performed
      split at performed
      · cases performed
      · rename_i set
        cases performed
        exact ⟨config, found, (Context.gains_setConfig set).2⟩
    · cases loaded

end World

end Bringup
