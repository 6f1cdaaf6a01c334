import Bringup.Proofs.Trials

namespace Bringup

/-! The calls that a process makes, one after the other.

Whatever operations a process performs, it goes along a trail of calls. Between them steps are
registered and the context may be filled from outside, and nothing else happens to either. What
a call, a registration and the rest keep then holds at all times. Scripts and the first stage of
startup are registered at any time, but the later stages only once the first one has succeeded;
so a route, which permits registrations only where they keep something, is open to all
operations if it is open to these (`Operation.perform_route`). -/

namespace Service

/-- What calls and registrations depend on, and leave behind. -/
def core (service : Service) : List Step × List (String × Nat) × List Call × Context :=
  (service.manager.steps, service.manager.positions, service.world.journal.calls,
    service.world.context)

theorem core_ext {first second : Service}
    (manager : first.manager.steps = second.manager.steps ∧
      first.manager.positions = second.manager.positions)
    (calls : first.world.journal.calls = second.world.journal.calls)
    (context : first.world.context = second.world.context) : first.core = second.core := by
  rw [core, core, manager.1, manager.2, calls, context]

section

variable {first second : Service}

theorem core_steps (same : first.core = second.core) :
    first.manager.steps = second.manager.steps := congrArg (·.1) same

theorem core_calls (same : first.core = second.core) :
    first.world.journal.calls = second.world.journal.calls := congrArg (·.2.2.1) same

theorem core_context (same : first.core = second.core) :
    first.world.context = second.world.context := congrArg (·.2.2.2) same

end

/-- What a process has gone through, with its calls in order. Slots of the context are filled
otherwise than by calls, and stages go by other names, only if that is allowed. -/
inductive Trail (outside : Prop) (first : Service) : List Trial → Service → Prop
  | nil : Trail outside first [] first
  | pushes {trials : List Trial} {middle next : Service} {name : String} {action : Action}
      (trail : Trail outside first trials middle) (named : outside ∨ action.GoesBy name)
      (pushed : middle.push name action = .ok next) : Trail outside first trials next
  | runs {trials : List Trial} {middle : Service} {position : Nat} {step : Step}
      (trail : Trail outside first trials middle)
      (stands : middle.manager.steps[position]? = some step)
      (pending : step.completed = false) :
      Trail outside first (trials ++ [⟨middle, position, step⟩]) (middle.runStep position step).2
  | asides {trials : List Trial} {middle next : Service}
      (trail : Trail outside first trials middle) (same : next.core = middle.core) :
      Trail outside first trials next
  | publishes {trials : List Trial} {middle : Service} {world : World}
      (trail : Trail outside first trials middle) (allowed : outside)
      (calls : world.journal.calls = middle.world.journal.calls)
      (keeps : middle.world.context.Keeps world.context) :
      Trail outside first trials { middle with world }

/-- A trail on which operations register only what they may. -/
inductive Route (may : Service → Action → Prop) (outside : Prop) (first : Service) :
    List Trial → Service → Prop
  | nil : Route may outside first [] first
  | pushes {trials : List Trial} {middle next : Service} {name : String} {action : Action}
      (route : Route may outside first trials middle) (permitted : may middle action)
      (named : action.GoesBy name) (pushed : middle.push name action = .ok next) :
      Route may outside first trials next
  | runs {trials : List Trial} {middle : Service} {position : Nat} {step : Step}
      (route : Route may outside first trials middle)
      (stands : middle.manager.steps[position]? = some step)
      (pending : step.completed = false) :
      Route may outside first (trials ++ [⟨middle, position, step⟩])
        (middle.runStep position step).2
  | asides {trials : List Trial} {middle next : Service}
      (route : Route may outside first trials middle) (same : next.core = middle.core) :
      Route may outside first trials next
  | publishes {trials : List Trial} {middle : Service} {world : World}
      (route : Route may outside first trials middle) (allowed : outside)
      (calls : world.journal.calls = middle.world.journal.calls)
      (keeps : middle.world.context.Keeps world.context) :
      Route may outside first trials { middle with world }

def Routed (may : Service → Action → Prop) (outside : Prop) (first last : Service) : Prop :=
  ∃ trials, Route may outside first trials last

variable {may : Service → Action → Prop} {outside : Prop}

theorem Route.trail {first last : Service} {trials : List Trial}
    (route : Route may outside first trials last) : Trail outside first trials last := by
  induction route with
  | nil => exact .nil
  | pushes _ permitted named pushed induction => exact induction.pushes (.inr named) pushed
  | runs _ stands pending induction => exact induction.runs stands pending
  | asides _ same induction => exact induction.asides same
  | publishes _ allowed calls keeps induction => exact induction.publishes allowed calls keeps

theorem Route.trans {first middle last : Service} {earlier later : List Trial}
    (route : Route may outside first earlier middle)
    (further : Route may outside middle later last) :
    Route may outside first (earlier ++ later) last := by
  induction further with
  | nil => rwa [List.append_nil]
  | pushes _ permitted named pushed induction => exact induction.pushes permitted named pushed
  | runs _ stands pending induction =>
      rw [← List.append_assoc]
      exact induction.runs stands pending
  | asides _ same induction => exact induction.asides same
  | publishes _ allowed calls keeps induction => exact induction.publishes allowed calls keeps

theorem Routed.refl (service : Service) : Routed may outside service service := ⟨[], .nil⟩

theorem Routed.trans {first middle last : Service} (earlier : Routed may outside first middle)
    (later : Routed may outside middle last) : Routed may outside first last := by
  rcases earlier with ⟨trials, route⟩
  rcases later with ⟨more, further⟩
  exact ⟨trials ++ more, route.trans further⟩

theorem log_core (service : Service) (event : Event) :
    (service.log event).core = service.core :=
  core_ext ⟨rfl, rfl⟩ (log_calls service event) rfl

theorem setReady_core (service : Service) (ready : Bool) :
    (service.setReady ready).core = service.core :=
  core_ext ⟨rfl, rfl⟩ (setReady_calls service ready) rfl

theorem register_route (service : Service) {name : String} {action : Action}
    (permitted : may service action) (named : action.GoesBy name) :
    Route may outside service [] (service.register name action).2 := by
  unfold register
  split
  · exact Route.nil.asides (log_core _ _)
  · rename_i pushed
    exact (Route.nil.pushes permitted named pushed).asides (log_core _ _)

/-! ## Walks and startup -/

set_option linter.unusedVariables false in
def walkTrials (service : Service) (position : Nat) : List Trial :=
  match stands : service.manager.steps[position]? with
  | none => []
  | some step =>
      if step.completed then walkTrials service (position + 1)
      else
        ⟨service, position, step⟩ ::
          match ran : service.runStep position step with
          | (.returned (.ok ()), next) => walkTrials next (position + 1)
          | _ => []
termination_by service.manager.ahead position
decreasing_by
  · rw [ahead_of_stands stands]
    omega
  · have less := runStep_ahead service position step stands
    rwa [ran] at less

theorem walk_route (service : Service) (position : Nat) :
    Route may outside service (service.walkTrials position) (service.walk position).2 := by
  fun_induction walkTrials service position with
  | case1 service position past =>
      rw [walk_of_none past]
      exact (Route.nil.asides (setReady_core service true)).asides (log_core _ _)
  | case2 service position step stands done induction =>
      rw [walk_of_done stands done]
      exact induction
  | case3 service position step stands pending induction =>
      have first : Route may outside service _ _ := Route.nil.runs stands (by simpa using pending)
      rw [walk_of_pending stands (by simpa using pending)]
      split
      · rename_i next ran
        rw [ran] at first ⊢
        exact first.trans (induction next ran)
      · rename_i failed
        rcases ran : service.runStep position step with ⟨⟨fault | _⟩ | message, next⟩ <;>
          rw [ran] at first
        · exact first.asides (setReady_core next false)
        · exact absurd ran (failed next)
        · exact first

def prepareTrials (service : Service) : List Trial :=
  if service.manager.ready then [] else service.walkTrials 0

theorem prepare_route (service : Service) :
    Route may outside service service.prepareTrials service.prepare.2 := by
  have walked : Route may outside service _ service.initializeAll.2 := walk_route service 0
  unfold prepare prepareTrials
  split
  · exact .nil
  · split
    · rename_i failed
      rw [failed] at walked
      exact walked.asides (log_core _ _)
    · exact walked

def initializeTrials (service : Service) : Nat → List Trial
  | 0 => []
  | times + 1 => service.walkTrials 0 ++ service.initializeAll.2.initializeTrials times

theorem initializeTimes_route (service : Service) (times : Nat) :
    Route may outside service (service.initializeTrials times)
      (service.initializeTimes (α := α) times).2 := by
  induction times generalizing service with
  | zero => exact .nil
  | succ times induction => exact (walk_route service 0).trans (induction _)

def execTrials (service : Service) (name : String) (action : Action) : List Trial :=
  match service.push name action with
  | .error _ => []
  | .ok next => [⟨next, service.manager.steps.length, { name, action }⟩]

theorem exec_route (service : Service) {name : String} {action : Action}
    (permitted : may service action) (named : action.GoesBy name) :
    Route may outside service (service.execTrials name action) (service.exec name action).2 := by
  unfold exec execTrials
  cases pushed : service.push name action with
  | error fault => exact .nil
  | ok next => exact (Route.nil.pushes permitted named pushed).runs (push_stands pushed) rfl

def execStagesTrials (service : Service) : List Stage → List Trial
  | [] => []
  | stage :: rest =>
      service.execTrials stage.name (.stage stage) ++
        match service.execStage stage with
        | (.returned (.ok ()), next) => next.execStagesTrials rest
        | _ => []

/-! Stages may be registered wherever a route leads. -/

section

variable {service : Service}
  (permitted : ∀ later, Routed may outside service later → ∀ stage, may later (.stage stage))

include permitted

theorem execStages_route (stages : List Stage) :
    Route may outside service (service.execStagesTrials stages) (service.execStages stages).2 := by
  induction stages generalizing service with
  | nil => exact .nil
  | cons stage rest induction =>
      have executed : Route may outside service _ (service.execStage stage).2 :=
        exec_route service (permitted service (.refl service) stage) rfl
      rw [execStagesTrials, execStages]
      rcases ended : service.execStage stage with ⟨⟨fault | _⟩ | message, next⟩ <;>
        rw [ended] at executed
      · exact (List.append_nil _).symm ▸ executed
      · exact executed.trans
          (induction fun later further => permitted later (.trans ⟨_, executed⟩ further))
      · exact (List.append_nil _).symm ▸ executed

theorem registerStages_route (stages : List Stage) :
    Route may outside service [] (service.registerStages stages).2 := by
  induction stages generalizing service with
  | nil => exact .nil
  | cons stage rest induction =>
      have registered : Route may outside service []
          (service.register stage.name (.stage stage)).2 :=
        register_route service (permitted service (.refl service) stage) rfl
      unfold registerStages registerStage
      split <;> rename_i found <;> split at found <;> cases found <;> rename_i found <;>
        rw [found] at registered
      · exact registered
      · exact registered.trans
          (induction fun later further => permitted later (.trans ⟨_, registered⟩ further))

end

/-- Scripts may be registered at any time, and so may the first stage of startup. The others
may be registered once the first one has succeeded. -/
structure Permits (may : Service → Action → Prop) (outside : Prop) : Prop where
  scripts : ∀ service runs, may service (.scripted runs)
  opens : ∀ service path, may service (.stage (.configuration path))
  goesOn : ∀ {service next later : Service} {path : String},
    service.execStage (.configuration path) = (.returned (.ok ()), next) →
      Routed may outside next later → ∀ stage, may later (.stage stage)

theorem bootstrap_route (permits : Permits may outside) (service : Service) (path : String)
    (testMode : Bool) :
    Route may outside service (service.execStagesTrials (Stage.immediate path))
      (service.bootstrap path testMode).2 := by
  have opened : Route may outside service _ (service.execStage (.configuration path)).2 :=
    exec_route service (permits.opens service path) rfl
  unfold bootstrap Stage.immediate execStages execStagesTrials
  rcases loaded : service.execStage (.configuration path) with ⟨(fault | done) | message, next⟩
  case returned.error | panicked =>
    rw [loaded] at opened
    rw [List.append_nil]
    exact opened
  case returned.ok =>
    have permitted : ∀ later, Routed may outside next later →
        ∀ stage, may later (.stage stage) := fun later => permits.goesOn loaded
    have executed := execStages_route permitted [.logging, .metrics]
    rw [loaded] at opened
    simp only
    split
    · rename_i last succeeded
      rw [succeeded] at executed
      have registered := registerStages_route (fun later further =>
        permitted later (.trans ⟨_, executed⟩ further)) (Stage.deferred testMode)
      rw [← List.append_nil (execStagesTrials _ _)]
      exact opened.trans (executed.trans registered)
    · exact opened.trans executed

end Service

/-! ## Operations -/

namespace Operation

mutual

/-- Whether an operation fills a slot of the context without a step. -/
def publishesDirectly : Operation α → Bool
  | setConfig _ | setDatabase _ _ | setCache _ => true
  | run _ inner => anyPublishesDirectly inner
  | _ => false

def anyPublishesDirectly : List (Operation α) → Bool
  | [] => false
  | operation :: rest => operation.publishesDirectly || anyPublishesDirectly rest

end

mutual

/-- Whether an operation registers the connectors without the stages before them. -/
def connectsAlone : Operation α → Bool
  | registerConnectors _ => true
  | run _ inner => anyConnectsAlone inner
  | _ => false

def anyConnectsAlone : List (Operation α) → Bool
  | [] => false
  | operation :: rest => operation.connectsAlone || anyConnectsAlone rest

end

end Operation

namespace Service

variable {may : Service → Action → Prop} {outside : Prop}

theorem request_core (service : Service) (sent : HttpRequest) :
    (service.request sent).2.core = service.core := by
  have started : ({ service with world := service.world.startServer } : Service).core =
      service.core := by
    unfold World.startServer
    split
    · rfl
    · exact core_ext ⟨rfl, rfl⟩ (by simp [World.record, Journal.calls]) rfl
  unfold request
  simp only
  split <;> exact started

theorem signal_core (service : Service) : service.signal.core = service.core := by
  unfold signal World.stopServer
  split <;>
    exact core_ext ⟨rfl, rfl⟩ (by simp [World.record, World.log, Journal.calls]) rfl

end Service

namespace Operation

open Service

mutual

def trials (service : Service) : Operation α → List Trial
  | exec name runs => service.execTrials name (.scripted runs)
  | initializeAll => service.walkTrials 0
  | run _ inner =>
      service.prepareTrials ++
        match service.prepare with
        | (.returned (.ok ()), next) => trialsAll next inner
        | _ => []
  | initializeAtOnce threads => service.initializeTrials threads
  | bootstrap path _ => service.execStagesTrials (Stage.immediate path)
  | _ => []

def trialsAll (service : Service) : List (Operation α) → List Trial
  | [] => []
  | operation :: rest =>
      trials service operation ++
        match operation.perform service with
        | (.returned _, next) => trialsAll next rest
        | (.panicked _, _) => []

end

variable {may : Service → Action → Prop} {outside : Prop}

mutual

theorem perform_route (permits : Permits may outside) (service : Service)
    (operation : Operation α) (allowed : operation.publishesDirectly = true → outside)
    (alone : operation.connectsAlone = true → ∀ service stage, may service (.stage stage)) :
    Route may outside service (operation.trials service) (operation.perform service).2 := by
  cases operation with
  | register name runs =>
      have registered : Route may outside service [] (service.register name (.scripted runs)).2 :=
        register_route service (permits.scripts service runs) trivial
      unfold perform trials
      split <;> rename_i found <;> rw [found] at registered <;> exact registered
  | exec name runs => exact exec_route service (permits.scripts service runs) trivial
  | initializeAll => exact walk_route service 0
  | run value inner =>
      have prepared : Route may outside service _ service.prepare.2 := prepare_route service
      rcases found : service.prepare with ⟨⟨fault | _⟩ | message, next⟩ <;>
        rw [found] at prepared
      · simpa only [perform, trials, found, List.append_nil] using prepared
      · have further := performAll_route permits next inner allowed alone
        simpa only [perform, trials, found] using prepared.trans further
      · simpa only [perform, trials, found, List.append_nil] using prepared
  | isInitialized | isReady | status | statusText | components | scrape => exact .nil
  | initializeAtOnce threads => exact initializeTimes_route service threads
  | setConfig config =>
      have gains : ∀ next, service.world.context.setConfig config = .ok next →
          Context.Gains .config service.world.context next :=
        fun _ set => (Context.gains_setConfig set).1
      exact Route.nil.publishes (allowed rfl) (by simp) (World.publish_keeps gains)
  | getConfig | getDatabase =>
      unfold perform trials
      split <;> exact .nil
  | getCache =>
      unfold perform trials
      split
      · exact Route.nil.asides
          (core_ext ⟨rfl, rfl⟩ (by simp [record, World.record, Journal.calls]) rfl)
      · exact .nil
  | setDatabase config testMode =>
      have written : (service.world.connectDatabase config testMode).2.journal.calls =
        service.world.journal.calls := (service.world.connectDatabase_adds config testMode).calls
      have kept := service.world.connectDatabase_context config testMode
      unfold perform trials
      split
      · exact .nil
      · split <;> rename_i found <;> rw [found] at written kept
        · exact Route.nil.publishes (allowed rfl) written (by rw [kept]; exact .refl _)
        · refine Route.nil.publishes (allowed rfl) (by simpa using written) ?_
          rw [← kept]
          exact World.publish_keeps fun _ => Context.gains_setDatabase
  | setCache config =>
      have written : (service.world.connectCache config).2.journal.calls =
        service.world.journal.calls := (service.world.connectCache_adds config).calls
      have kept := service.world.connectCache_context config
      unfold perform trials
      split <;> rename_i found <;> rw [found] at written kept
      · exact Route.nil.publishes (allowed rfl) written (by rw [kept]; exact .refl _)
      · refine Route.nil.publishes (allowed rfl) (by simpa using written) ?_
        rw [← kept]
        exact World.publish_keeps fun _ => Context.gains_setCache
  | registerConnectors testMode =>
      exact registerStages_route (fun later _ => alone rfl later) (Stage.deferred testMode)
  | request sent => exact Route.nil.asides (request_core service sent)
  | bootstrap path testMode => exact bootstrap_route permits service path testMode
  | writeFile | elapse => exact Route.nil.asides rfl
  | installLogger config =>
      exact Route.nil.asides (core_ext ⟨rfl, rfl⟩
        (service.world.installLogger_adds config).calls
        (service.world.installLogger_context config))
  | installExporter address =>
      exact Route.nil.asides (core_ext ⟨rfl, rfl⟩
        (World.installExporter_calls service.world address)
        (service.world.installExporter_context address))
  | signal => exact Route.nil.asides (signal_core service)

theorem performAll_route (permits : Permits may outside) (service : Service)
    (operations : List (Operation α)) (allowed : anyPublishesDirectly operations = true → outside)
    (alone : anyConnectsAlone operations = true → ∀ service stage, may service (.stage stage)) :
    Route may outside service (trialsAll service operations)
      (performAll service operations).2 := by
  cases operations with
  | nil => exact .nil
  | cons operation rest =>
      have first := perform_route permits service operation
        (fun publishes => allowed (by simp [anyPublishesDirectly, publishes]))
        fun connects => alone (by simp [anyConnectsAlone, connects])
      rcases performed : operation.perform service with ⟨answer | message, next⟩ <;>
        rw [performed] at first
      · have further := performAll_route permits next rest
          (fun publishes => allowed (by simp [anyPublishesDirectly, publishes]))
          fun connects => alone (by simp [anyConnectsAlone, connects])
        simpa only [performAll, trialsAll, performed] using first.trans further
      · simpa only [performAll, trialsAll, performed, List.append_nil] using first

end

end Operation

namespace Service

def trials (service : Service) : List (Operation α) → List Trial
  | [] => []
  | operation :: rest => operation.trials service ++ (operation.perform service).2.trials rest

theorem session_route {may : Service → Action → Prop} {outside : Prop}
    (permits : Permits may outside) (service : Service) (operations : List (Operation α))
    (allowed : Operation.anyPublishesDirectly operations = true → outside)
    (alone : Operation.anyConnectsAlone operations = true →
      ∀ service stage, may service (.stage stage)) :
    Route may outside service (service.trials operations) (service.session operations).2 := by
  induction operations generalizing service with
  | nil => exact .nil
  | cons operation rest induction =>
      have first := operation.perform_route permits service
        (fun publishes => allowed (by simp [Operation.anyPublishesDirectly, publishes]))
        fun connects => alone (by simp [Operation.anyConnectsAlone, connects])
      exact first.trans (induction _
        (fun publishes => allowed (by simp [Operation.anyPublishesDirectly, publishes]))
        fun connects => alone (by simp [Operation.anyConnectsAlone, connects]))

theorem session_trail {outside : Prop} (service : Service) (operations : List (Operation α))
    (allowed : Operation.anyPublishesDirectly operations = true → outside) :
    Trail outside service (service.trials operations) (service.session operations).2 := by
  have permits : Permits (fun _ _ => True) outside :=
    ⟨fun _ _ => trivial, fun _ _ => trivial, fun _ _ _ => trivial⟩
  exact (session_route permits service operations allowed fun _ _ _ => trivial).trail

end Service

end Bringup
