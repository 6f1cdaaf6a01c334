import Bringup.Proofs.Independence
import Bringup.Proofs.Stages

namespace Bringup

/-! What readiness says about the context.

While startup alone registers steps and fills the context, the steps are some of its
stages, and a slot is filled exactly if the step that fills it is completed
(`Service.Equipped`). Whoever finds the service ready then finds the slots of all
registered stages filled. Which stages those are is settled by the first call of
startup: all if it succeeds, and some of those that run at once if it fails. -/

namespace Service

/-- The steps are some stages, and the slots filled are those of completed steps. -/
structure Equipped (stages : List Stage) (service : Service) : Prop where
  actions : service.manager.steps.map Step.action = stages.map Action.stage
  known : ∀ name, service.manager.position? name = none ↔ name ∉ stages.map Stage.name
  filled : ∀ slot, service.world.context.isFilled slot = true ↔
    ∃ position stage, stages[position]? = some stage ∧ stage.slot? = some slot ∧
      service.manager.completed? position = some true
  gate : service.manager.Gate

/-- What is left of a service if one looks at its steps and its context only. -/
def essence (service : Service) : Manager × Context :=
  (service.manager, service.world.context)

theorem Equipped.congr {stages : List Stage} {service next : Service}
    (equipped : service.Equipped stages) (same : next.essence = service.essence) :
    next.Equipped stages := by
  have manager : next.manager = service.manager := congrArg Prod.fst same
  have context : next.world.context = service.world.context := congrArg Prod.snd same
  exact ⟨by rw [manager]; exact equipped.actions, by rw [manager]; exact equipped.known,
    by rw [manager, context]; exact equipped.filled, by rw [manager]; exact equipped.gate⟩

theorem Equipped.length_eq {stages : List Stage} {service : Service}
    (equipped : service.Equipped stages) :
    service.manager.steps.length = stages.length := by
  simpa using congrArg List.length equipped.actions

theorem Equipped.fresh {world : World} (empty : world.context = {}) :
    Equipped [] { world } where
  actions := rfl
  known name := by simp [Manager.position?]
  filled slot := by cases slot <;> simp [empty, Context.isFilled]
  gate ready := by cases ready

theorem Equipped.filled_of_ready {stages : List Stage} {service : Service}
    (equipped : service.Equipped stages) (ready : service.manager.ready = true) (slot : Slot) :
    service.world.context.isFilled slot = true ↔ some slot ∈ stages.map Stage.slot? := by
  rw [equipped.filled]
  constructor
  · intro done
    rcases done with ⟨position, stage, stands, fills, _⟩
    rw [← fills]
    exact List.mem_map_of_mem (List.mem_of_getElem? stands)
  · intro member
    rcases List.mem_map.mp member with ⟨stage, registered, fills⟩
    rcases List.getElem?_of_mem registered with ⟨position, stands⟩
    refine ⟨position, stage, stands, fills, ?_⟩
    have pending := equipped.gate ready position
    have inside : position < service.manager.steps.length := by
      rw [equipped.length_eq]
      exact (List.getElem?_eq_some_iff.mp stands).1
    rw [Manager.completed?_of_stands (List.getElem?_eq_getElem inside)] at pending ⊢
    simpa using pending

/-! ## Running a stage -/

/-- How a step runs whose action is a stage: it succeeds, or it leaves the context alone. -/
theorem runStep_stage {service : Service} {position : Nat} {step : Step} {stage : Stage}
    (runs : step.action = .stage stage) :
    ((service.runStep position step).1 = .returned (.ok ()) ∧
        (service.runStep position step).2.manager =
          (service.manager.noteCall position).markCompleted position ∧
        ∀ slot, (service.runStep position step).2.world.context.isFilled slot =
          (service.world.context.isFilled slot || stage.slot? == some slot)) ∨
      ((service.runStep position step).1 ≠ .returned (.ok ()) ∧
        (service.runStep position step).2.manager = service.manager.noteCall position ∧
        (service.runStep position step).2.world.context = service.world.context) := by
  have fills := (service.beginCall position step).world.attempt_fills stage
  rcases attempted : (service.beginCall position step).world.attempt stage with ⟨outcome, world⟩
  rw [attempted] at fills
  simp only [runStep, runs, callAction, attempted]
  cases outcome with
  | succeeded => exact .inl ⟨rfl, rfl, fills⟩
  | failed cause => exact .inr ⟨by simp [book], rfl, fills⟩
  | panicked message => exact .inr ⟨by simp [book], rfl, fills⟩

variable {stages : List Stage} {service : Service} {position : Nat} {step : Step}

theorem Equipped.stage_of_stands (equipped : service.Equipped stages)
    (stands : service.manager.steps[position]? = some step) :
    ∃ stage, stages[position]? = some stage ∧ step.action = .stage stage := by
  have same : (service.manager.steps.map Step.action)[position]? =
      (stages.map Action.stage)[position]? := by
    rw [equipped.actions]
  simp only [List.getElem?_map, stands, Option.map_some] at same
  rcases Option.map_eq_some_iff.mp same.symm with ⟨stage, registered, runs⟩
  exact ⟨stage, registered, runs.symm⟩

/-- While a step is pending, the service is not ready. -/
theorem Equipped.unready (equipped : service.Equipped stages)
    (stands : service.manager.steps[position]? = some step)
    (pending : step.completed = false) : service.manager.ready = false := by
  cases ready : service.manager.ready with
  | false => rfl
  | true =>
      have gate := equipped.gate ready position
      rw [Manager.completed?_of_stands stands, pending] at gate
      exact absurd rfl gate

/-- A change of how far the steps have come while the service is not ready. -/
theorem Equipped.advance {next : Service} (equipped : service.Equipped stages)
    (alike : next.manager.outline = service.manager.outline)
    (unready : service.manager.ready = false)
    (filled : ∀ slot, next.world.context.isFilled slot = true ↔
      ∃ position stage, stages[position]? = some stage ∧ stage.slot? = some slot ∧
        next.manager.completed? position = some true) : next.Equipped stages where
  actions := (congrArg (·.2.1) alike).trans equipped.actions
  known name := by
    rw [← equipped.known, Manager.position?, Manager.outline_positions alike]
    rfl
  filled := filled
  gate ready := by
    rw [Manager.outline_ready alike, unready] at ready
    cases ready

theorem Equipped.runStep (equipped : service.Equipped stages)
    (stands : service.manager.steps[position]? = some step)
    (pending : step.completed = false) :
    (service.runStep position step).2.Equipped stages ∧
      (∀ {below}, service.manager.DoneBelow below →
        (service.runStep position step).2.manager.DoneBelow below) ∧
      ((service.runStep position step).1 = .returned (.ok ()) →
        (service.runStep position step).2.manager.completed? position = some true) := by
  have unready := equipped.unready stands pending
  have here : service.manager.completed? position = some false := by
    rw [Manager.completed?_of_stands stands, pending]
  rcases equipped.stage_of_stands stands with ⟨stage, registered, runs⟩
  rcases runStep_stage runs with ⟨_, manager, context⟩ | ⟨failed, manager, context⟩
  · have completed : ∀ other, (service.runStep position step).2.manager.completed? other =
        if other = position then some true else service.manager.completed? other := by
      intro other
      rw [manager, Manager.completed?_markCompleted, Manager.completed?_noteCall]
      split
      · rename_i same
        rw [same, here]
        rfl
      · rfl
    refine ⟨equipped.advance ?_ unready fun slot => ?_, fun below other less => ?_,
      fun _ => by rw [completed, if_pos rfl]⟩
    · rw [manager, Manager.outline_markCompleted, Manager.outline_noteCall]
    · rw [context slot, Bool.or_eq_true, beq_iff_eq, equipped.filled]
      constructor
      · intro known
        rcases known with ⟨other, earlier, stood, fills, done⟩ | fills
        · refine ⟨other, earlier, stood, fills, ?_⟩
          rw [completed, done, ite_self]
        · exact ⟨position, stage, registered, fills, by rw [completed, if_pos rfl]⟩
      · intro known
        rcases known with ⟨other, earlier, stood, fills, done⟩
        by_cases same : other = position
        · subst other
          rw [registered] at stood
          cases stood
          exact .inr fills
        · rw [completed, if_neg same] at done
          exact .inl ⟨other, earlier, stood, fills, done⟩
    · rw [completed, below other less, ite_self]
  · refine ⟨equipped.advance ?_ unready fun slot => ?_, fun below => ?_, fun succeeded => ?_⟩
    · rw [manager, Manager.outline_noteCall]
    · simp only [context, manager, Manager.completed?_noteCall]
      exact equipped.filled slot
    · rw [manager]
      exact below.noteCall position
    · exact absurd succeeded failed

theorem Equipped.setReady (equipped : service.Equipped stages) {ready : Bool}
    (gate : (service.manager.setReady ready).Gate) :
    (service.setReady ready).Equipped stages :=
  ⟨equipped.actions, equipped.known, equipped.filled, gate⟩

theorem Equipped.walk (equipped : service.Equipped stages)
    (below : service.manager.DoneBelow position) :
    (service.walk position).2.Equipped stages := by
  fun_induction Service.walk service position with
  | case1 service position past =>
      have gate : (service.manager.setReady true).Gate := fun _ other =>
        below.not_pending past other
      exact (equipped.setReady gate).congr rfl
  | case2 service position step stands done induction =>
      apply induction equipped
      apply below.succ
      rw [Manager.completed?_of_stands stands, done]
  | case3 service position step stands pending message next ran =>
      have after := equipped.runStep stands (by simpa using pending)
      rw [ran] at after
      exact after.1
  | case4 service position step stands pending fault next ran =>
      have after := equipped.runStep stands (by simpa using pending)
      rw [ran] at after
      exact after.1.setReady fun ready => by cases ready
  | case5 service position step stands pending next ran induction =>
      have after := equipped.runStep stands (by simpa using pending)
      rw [ran] at after
      exact induction after.1 ((after.2.1 below).succ (after.2.2 rfl))

theorem Equipped.initializeAll (equipped : service.Equipped stages) :
    service.initializeAll.2.Equipped stages :=
  equipped.walk fun _ less => by cases less

theorem Equipped.prepare (equipped : service.Equipped stages) :
    service.prepare.2.Equipped stages := by
  have initialized := equipped.initializeAll
  unfold Service.prepare
  split
  · exact equipped
  · split
    · rename_i failed
      rw [failed] at initialized
      exact initialized.congr rfl
    · exact initialized

theorem Equipped.initializeTimes (equipped : service.Equipped stages) (times : Nat) :
    (service.initializeTimes (α := α) times).2.Equipped stages := by
  induction times generalizing service with
  | zero => exact equipped
  | succ times induction => exact induction equipped.initializeAll

/-! ## Registering a stage -/

theorem Equipped.push {next : Service} {stage : Stage} (equipped : service.Equipped stages)
    (pushed : service.push stage.name (.stage stage) = .ok next) :
    next.Equipped (stages ++ [stage]) := by
  have accepted := push_manager pushed
  have context : next.world.context = service.world.context := by
    unfold Service.push at pushed
    split at pushed <;> cases pushed
    rfl
  have manager := (Manager.push_eq_ok accepted).2
  have length := equipped.length_eq
  refine ⟨?_, ?_, ?_, ?_⟩
  · rw [manager]
    simp [equipped.actions]
  · intro name
    have before := equipped.known name
    simp only [Manager.position?] at before
    simp only [manager, Manager.position?, List.lookup_cons]
    by_cases same : name = stage.name
    · simp [same]
    · have differs : (name == stage.name) = false := by simpa using same
      simp only [differs, before, List.map_append, List.mem_append, not_or, List.map_cons,
        List.map_nil, List.mem_singleton]
      exact ⟨fun absent => ⟨absent, same⟩, fun absent => absent.1⟩
  · intro slot
    rw [context, equipped.filled]
    constructor
    · intro known
      rcases known with ⟨position, earlier, stands, fills, done⟩
      have inside := (List.getElem?_eq_some_iff.mp stands).1
      refine ⟨position, earlier, ?_, fills, ?_⟩
      · rw [List.getElem?_append_left inside, stands]
      · rw [Manager.completed?_push accepted, if_neg (by omega), done]
    · intro known
      rcases known with ⟨position, earlier, stands, fills, done⟩
      rw [Manager.completed?_push accepted] at done
      split at done
      · cases done
      · have inside := Manager.inside_of_completed? done
        rw [List.getElem?_append_left (by omega)] at stands
        exact ⟨position, earlier, stands, fills, done⟩
  · intro ready
    rw [manager] at ready
    cases ready

/-! ## Startup -/

theorem Equipped.push_of_free {stage : Stage} (equipped : service.Equipped stages)
    (free : stage.name ∉ stages.map Stage.name) :
    ∃ next, service.push stage.name (.stage stage) = .ok next ∧
      next.Equipped (stages ++ [stage]) := by
  have unknown := (equipped.known _).mpr free
  cases pushed : service.push stage.name (.stage stage) with
  | ok next => exact ⟨next, rfl, equipped.push pushed⟩
  | error fault => simp [Service.push, Manager.push, unknown] at pushed

theorem Equipped.execStage {stage : Stage} (equipped : service.Equipped stages)
    (free : stage.name ∉ stages.map Stage.name) :
    (service.execStage stage).2.Equipped (stages ++ [stage]) := by
  rcases equipped.push_of_free free with ⟨next, pushed, grown⟩
  simp only [Service.execStage, Service.exec, pushed]
  exact (grown.runStep (push_stands pushed) rfl).1

theorem Equipped.execStages {more : List Stage} (equipped : service.Equipped stages)
    (free : ((stages ++ more).map Stage.name).Nodup) :
    ∃ ran, ran <+: more ∧ (service.execStages more).2.Equipped (stages ++ ran) ∧
      ((service.execStages more).1 = .returned (.ok ()) → ran = more) ∧
      (more ≠ [] → ran ≠ []) := by
  induction more generalizing service stages with
  | nil =>
      refine ⟨[], List.prefix_rfl, ?_, fun _ => rfl, fun some => some⟩
      rw [List.append_nil]
      exact equipped
  | cons stage rest induction =>
      have unknown : stage.name ∉ stages.map Stage.name := by
        rw [List.map_append, List.nodup_append] at free
        intro member
        exact free.2.2 _ member _ (by simp) rfl
      have grown := equipped.execStage unknown
      unfold Service.execStages
      split
      · rename_i next ran
        rw [ran] at grown
        rcases induction grown (by simpa using free) with ⟨ranLater, part, after, all, _⟩
        refine ⟨stage :: ranLater, by simpa using part, by simpa using after, ?_, by simp⟩
        intro succeeded
        rw [all succeeded]
      · rename_i failed
        refine ⟨[stage], by simp, grown, ?_, by simp⟩
        intro succeeded
        rcases ran : service.execStage stage with ⟨finish, next⟩
        rw [ran] at succeeded
        cases succeeded
        exact absurd ran (failed next)

theorem Equipped.registerStages {more : List Stage} (equipped : service.Equipped stages)
    (free : ((stages ++ more).map Stage.name).Nodup) :
    (service.registerStages more).1 = .ok () ∧
      (service.registerStages more).2.Equipped (stages ++ more) := by
  induction more generalizing service stages with
  | nil => exact ⟨rfl, by rw [List.append_nil]; exact equipped⟩
  | cons stage rest induction =>
      have unknown : stage.name ∉ stages.map Stage.name := by
        rw [List.map_append, List.nodup_append] at free
        intro member
        exact free.2.2 _ member _ (by simp) rfl
      rcases equipped.push_of_free unknown with ⟨next, pushed, grown⟩
      have later : (next.log (.stepRegistered stage.name service.manager.steps.length)).Equipped
          (stages ++ [stage]) := grown.congr rfl
      simp only [Service.registerStages, Service.registerStage, Service.register, pushed]
      simpa using induction later (by simpa using free)

/-- The first call of startup registers all stages if it succeeds, and some of those that
run at once, the configuration among them, if it fails. -/
theorem Equipped.bootstrap (equipped : service.Equipped []) (path : String)
    (testMode : Bool) :
    ∃ stages, (service.bootstrap path testMode).2.Equipped stages ∧
      Stage.configuration path ∈ stages ∧
      match (service.bootstrap path testMode).1 with
      | .returned (.ok ()) => stages = Stage.immediate path ++ Stage.deferred testMode
      | _ => stages <+: Stage.immediate path := by
  have free : (([] ++ Stage.immediate path).map Stage.name).Nodup := by
    simp [Stage.immediate, Stage.name]
  have freeAll : ((Stage.immediate path ++ Stage.deferred testMode).map Stage.name).Nodup := by
    simp [Stage.immediate, Stage.deferred, Stage.name]
  rcases equipped.execStages free with ⟨ran, part, after, all, some⟩
  rw [List.nil_append] at after
  have first : Stage.configuration path ∈ ran := by
    rcases List.prefix_cons_iff.mp part with none | ⟨rest, rfl, _⟩
    · exact absurd none (some (by simp [Stage.immediate]))
    · exact List.mem_cons_self
  unfold Service.bootstrap
  split
  · rename_i next executed
    rw [executed] at after all
    cases all rfl
    have registered := after.registerStages freeAll
    rcases connected : next.registerStages (Stage.deferred testMode) with ⟨result, last⟩
    rw [connected] at registered
    simp only [registerConnectors, connected]
    cases registered.1
    exact ⟨_, registered.2, List.mem_append_left _ first, rfl⟩
  · rename_i failed
    refine ⟨ran, after, first, ?_⟩
    split
    · rename_i succeeded
      exact (failed _ (Prod.ext succeeded rfl)).elim
    · exact part

theorem Equipped.bootstrap_again (equipped : service.Equipped stages) {path : String}
    (registered : Stage.configuration path ∈ stages) (other : String) (testMode : Bool) :
    (service.bootstrap other testMode).2 = service := by
  have listed : (Stage.configuration path).name ∈ stages.map Stage.name :=
    List.mem_map_of_mem registered
  have taken : service.manager.position? (Stage.configuration other).name ≠ none :=
    fun free => (equipped.known _).mp free listed
  rcases Option.ne_none_iff_exists'.mp taken with ⟨position, known⟩
  simp [Service.bootstrap, Stage.immediate, Service.execStages, Service.execStage,
    Service.exec, Service.push, Manager.push, known]

end Service

/-! ## Histories of a process -/

namespace Operation

mutual

/-- Whether an operation leaves it to startup to register steps and to fill the context. -/
def sparesStages : Operation α → Bool
  | register _ _ | exec _ _ | registerConnectors _ => false
  | setConfig _ | setDatabase _ _ | setCache _ => false
  | run _ inner => allSpareStages inner
  | _ => true

def allSpareStages : List (Operation α) → Bool
  | [] => true
  | operation :: rest => operation.sparesStages && allSpareStages rest

end

end Operation

namespace Service

theorem request_essence (service : Service) (sent : HttpRequest) :
    (service.request sent).2.essence = service.essence := by
  have context : service.world.startServer.context = service.world.context := by
    unfold World.startServer
    split <;> rfl
  unfold request
  simp only
  split <;> simp [essence, context]

theorem signal_essence (service : Service) : service.signal.essence = service.essence := by
  unfold signal World.stopServer
  split <;> rfl

end Service

namespace Service.Equipped

variable {stages : List Stage} {path : String}

mutual

theorem perform (registered : Stage.configuration path ∈ stages) {service : Service}
    (equipped : service.Equipped stages) (operation : Operation α)
    (spares : operation.sparesStages = true) : (operation.perform service).2.Equipped stages := by
  cases operation with
  | register | exec | registerConnectors | setConfig | setDatabase | setCache => cases spares
  | initializeAll => exact equipped.initializeAll
  | run value inner =>
      have prepared := equipped.prepare
      unfold Operation.perform
      split <;> rename_i found <;> rw [found] at prepared
      · exact prepared
      · exact prepared
      · rw [Operation.sparesStages] at spares
        exact performAll registered prepared inner spares
  | isInitialized | isReady | status | statusText => exact equipped
  | initializeAtOnce threads => exact equipped.initializeTimes threads
  | getConfig | getDatabase | getCache =>
      unfold Operation.perform
      split
      · exact equipped.congr rfl
      · exact equipped
  | components | scrape => exact equipped
  | request sent => exact equipped.congr (service.request_essence sent)
  | bootstrap other testMode =>
      have same := equipped.bootstrap_again registered other testMode
      simpa only [Operation.perform, same] using equipped
  | writeFile | elapse => exact equipped.congr rfl
  | installLogger config =>
      exact equipped.congr (by simp [Operation.perform, Service.ofWorld, Service.essence])
  | installExporter address =>
      exact equipped.congr (by simp [Operation.perform, Service.ofWorld, Service.essence])
  | signal => exact equipped.congr service.signal_essence

theorem performAll (registered : Stage.configuration path ∈ stages) {service : Service}
    (equipped : service.Equipped stages) (operations : List (Operation α))
    (spare : Operation.allSpareStages operations = true) :
    (Operation.performAll service operations).2.Equipped stages := by
  cases operations with
  | nil => exact equipped
  | cons operation rest =>
      have spares : operation.sparesStages = true ∧ Operation.allSpareStages rest = true := by
        simpa [Operation.allSpareStages] using spare
      have after := perform registered equipped operation spares.1
      unfold Operation.performAll
      split <;> rename_i performed <;> rw [performed] at after
      · exact after
      · exact performAll registered after rest spares.2

end

theorem session (registered : Stage.configuration path ∈ stages) {service : Service}
    (equipped : service.Equipped stages) (operations : List (Operation α))
    (spare : Operation.allSpareStages operations = true) :
    (service.session operations).2.Equipped stages := by
  induction operations generalizing service with
  | nil => exact equipped
  | cons operation rest induction =>
      have spares : operation.sparesStages = true ∧ Operation.allSpareStages rest = true := by
        simpa [Operation.allSpareStages] using spare
      exact induction (perform registered equipped operation spares.1) spares.2

end Service.Equipped

theorem Context.components_eq_filter {context : Context} (present : Slot → Bool)
    (filled : ∀ slot, context.isFilled slot = true ↔ present slot = true) :
    context.components = Slot.all.filter present :=
  List.filter_congr fun slot _ => Bool.eq_iff_iff.mpr (filled slot)

namespace Service

/-- Whatever follows the first call of startup, as long as nobody else registers steps or
fills the context: once the service is ready, the context holds the configuration, the
database and the cache if that call succeeded, and the configuration alone if it failed. -/
theorem components_of_ready {world : World} (empty : world.context = {}) (path : String)
    (testMode : Bool) {operations : List (Operation α)}
    (spare : Operation.allSpareStages operations = true)
    (ready : ((bootstrap { world } path testMode).2.session operations).2.manager.ready = true) :
    ((bootstrap { world } path testMode).2.session operations).2.world.context.components =
      match (bootstrap { world } path testMode).1 with
      | .returned (.ok ()) => [.config, .database, .cache]
      | _ => [.config] := by
  rcases (Equipped.fresh empty).bootstrap path testMode with ⟨stages, started, first, told⟩
  have filled := (started.session first operations spare).filled_of_ready ready
  split at told
  · subst stages
    apply Context.components_eq_filter (fun _ => true)
    intro slot
    rw [filled]
    cases slot <;> simp [Stage.immediate, Stage.deferred, Stage.slot?]
  · apply Context.components_eq_filter (· == .config)
    intro slot
    rw [filled]
    constructor
    · intro member
      have listed := (told.map Stage.slot?).subset member
      cases slot with
      | config => rfl
      | database | cache => simp [Stage.immediate, Stage.slot?] at listed
    · intro config
      cases beq_iff_eq.mp config
      exact List.mem_map_of_mem (f := Stage.slot?) first

theorem components_with_servers : ∃ world : World, world.context = {} ∧
    ((bootstrap { world } "config.toml" false).2.session
      [(.initializeAll : Operation Unit)]).2.manager.ready = true ∧
    ((bootstrap { world } "config.toml" false).2.session
      [(.initializeAll : Operation Unit)]).2.world.context.components =
        [.config, .database, .cache] := by
  refine ⟨{
    files := Files.write [] "config.toml" (.contents [])
    network := {
      isUp := true
      database := some ({ ip := .v4 [127, 0, 0, 1], port := 5432 }, .accepting)
      cache := some ({ ip := .v4 [127, 0, 0, 1], port := 6379 }, .replying "PONG") } },
    rfl, by decide +kernel, ?_⟩
  rw [components_of_ready rfl "config.toml" false rfl (by decide +kernel)]
  decide +kernel

/-- A first call of startup that fails leaves a list of steps that can be completed
without any connection: here it fails for want of a valid file, which is then written. -/
theorem ready_without_connections :
    ¬ ∀ (world : World), world.context = {} → ∀ path testMode
      (operations : List (Operation Unit)), Operation.allSpareStages operations = true →
      ((bootstrap { world } path testMode).2.session operations).2.manager.ready = true →
      ((bootstrap { world } path testMode).2.session operations).2.world.context.components =
        [.config, .database, .cache] := by
  intro connected
  have told := connected
    { files := Files.write [] "config.toml" (.contents (Bytes.encode "[")) } rfl "config.toml"
    false [.writeFile "config.toml" "", .initializeAll] rfl (by decide +kernel)
  exact absurd told (by decide +kernel)

end Service

end Bringup
