import Bringup.Proofs.Likeness
import Bringup.Proofs.Staging
import Bringup.Proofs.Trials

namespace Bringup

/-! Two services side by side.

Services that differ in the URL that is not used go the same way from the metrics on, step by
step (`Service.Alike`): what one of them registers, runs and answers, the other does as well
(`Service.Alike.prepare`, `Service.Alike.serve`). -/

/-! ## Managers -/

/-- The work as the other process has it, which loads its configuration from elsewhere. -/
def Action.loadingFrom (path : String) : Action → Action
  | .stage (.configuration _) => .stage (.configuration path)
  | action => action

def Step.loadingFrom (path : String) (step : Step) : Step :=
  { step with action := step.action.loadingFrom path }

theorem Step.loadingFrom_of_later {path : String} {testMode : Bool} {stage : Stage}
    (later : stage ∈ Stage.later testMode) {step : Step} (runs : step.action = .stage stage) :
    step.loadingFrom path = step := by
  have same : step.action.loadingFrom path = step.action := by
    rw [runs]
    simp only [Stage.later, List.mem_cons, List.not_mem_nil, or_false] at later
    rcases later with rfl | rfl | rfl <;> rfl
  rw [loadingFrom, same]

namespace Manager

def loadingFrom (path : String) (manager : Manager) : Manager :=
  { manager with steps := manager.steps.map (Step.loadingFrom path) }

variable {path : String} {manager : Manager}

theorem loadingFrom_change (position : Nat) (transform : Step → Step)
    (commutes : ∀ step : Step,
      (transform step).loadingFrom path = transform (step.loadingFrom path)) :
    (manager.loadingFrom path).change position transform =
      (manager.change position transform).loadingFrom path := by
  simp only [change, loadingFrom, mk.injEq, and_true]
  apply List.ext_getElem?
  intro other
  rw [List.getElem?_map, List.getElem?_modify, List.getElem?_modify, List.getElem?_map]
  cases manager.steps[other]? with
  | none => rfl
  | some step => by_cases here : position = other <;> simp [here, commutes]

theorem loadingFrom_status : (manager.loadingFrom path).status = manager.status := by
  rw [status, loadingFrom, List.map_map]
  rfl

theorem loadingFrom_getElem? {position : Nat} {step : Step}
    (stands : manager.steps[position]? = some step) :
    (manager.loadingFrom path).steps[position]? = some (step.loadingFrom path) := by
  rw [loadingFrom, List.getElem?_map, stands, Option.map_some]

theorem loadingFrom_push {testMode : Bool} {stage : Stage}
    (later : stage ∈ Stage.later testMode) :
    (manager.loadingFrom path).push stage.name (.stage stage) =
      (manager.push stage.name (.stage stage)).map (loadingFrom path) := by
  unfold push
  rw [show (manager.loadingFrom path).position? stage.name = manager.position? stage.name from rfl]
  split
  · rfl
  · have same : stage.waiting.loadingFrom path = stage.waiting :=
      Step.loadingFrom_of_later later rfl
    rw [Stage.waiting] at same
    simp [Except.map, loadingFrom, same]

def AwaitsLater (testMode : Bool) (manager : Manager) : Prop :=
  ∀ step ∈ manager.steps, step.completed = false →
    ∃ stage ∈ Stage.later testMode, step.action = .stage stage

theorem AwaitsLater.change {testMode : Bool}
    (awaits : manager.AwaitsLater testMode) (position : Nat) {transform : Step → Step}
    (keeps : ∀ step, (transform step).action = step.action ∧
      ((transform step).completed = false → step.completed = false)) :
    (manager.change position transform).AwaitsLater testMode := by
  intro step member pending
  rcases List.mem_iff_getElem?.mp member with ⟨place, found⟩
  simp only [Manager.change, List.getElem?_modify] at found
  rcases Option.map_eq_some_iff.mp found with ⟨old, stands, rfl⟩
  have stood := List.mem_of_getElem? stands
  by_cases here : position = place
  · rw [if_pos here] at pending ⊢
    rw [(keeps old).1]
    exact awaits old stood ((keeps old).2 pending)
  · rw [if_neg here] at pending ⊢
    exact awaits old stood pending

end Manager

/-! ## Services -/

structure Serving.Run.Alike (twins : Twins) (first second : Run) : Prop where
  exit : second.exit = first.exit
  receptions : second.receptions = first.receptions
  world : World.Alike twins first.world second.world

namespace Service

structure Alike (twins : Twins) (first second : Service) : Prop where
  manager : second.manager = first.manager.loadingFrom twins.otherPath
  awaits : first.manager.AwaitsLater twins.testMode
  world : World.Alike twins first.world second.world

variable {twins : Twins} {first second : Service}

theorem Alike.ready (alike : Alike twins first second) :
    second.manager.ready = first.manager.ready := by
  rw [alike.manager]
  rfl

theorem Alike.length (alike : Alike twins first second) :
    second.manager.steps.length = first.manager.steps.length := by
  rw [alike.manager]
  exact List.length_map _

theorem Alike.record (alike : Alike twins first second) (entry : Entry) :
    Alike twins (first.record entry) (second.record entry) :=
  { alike with world := alike.world.record entry }

theorem Alike.log (alike : Alike twins first second) (event : Event) :
    Alike twins (first.log event) (second.log event) :=
  alike.record (.event event)

theorem Alike.manage (alike : Alike twins first second) (manager : Manager)
    (awaits : manager.AwaitsLater twins.testMode) :
    Alike twins { first with manager }
      { second with manager := manager.loadingFrom twins.otherPath } :=
  { alike with manager := rfl, awaits }

theorem Alike.setReady (alike : Alike twins first second) (ready : Bool) :
    Alike twins (first.setReady ready) (second.setReady ready) := by
  have set := (alike.record (.gauge ready)).manage (first.manager.setReady ready)
    alike.awaits
  rw [Service.setReady, Service.setReady, alike.manager]
  exact set

theorem Alike.beginCall (alike : Alike twins first second) (position : Nat) (step : Step) :
    Alike twins (first.beginCall position step) (second.beginCall position step) := by
  have noted : (first.manager.change position Step.called).AwaitsLater twins.testMode :=
    alike.awaits.change position fun _ => ⟨rfl, id⟩
  have begun := (alike.log (.stepRunning step.name)).manage _ noted
  rw [← Manager.loadingFrom_change position Step.called fun _ => rfl, ← alike.manager] at begun
  exact begun

theorem runStep_of_attempted {service : Service} {position : Nat} {step : Step} {stage : Stage}
    (runs : step.action = .stage stage) {outcome : Outcome} {world : World}
    (attempted : (service.beginCall position step).world.attempt stage = (outcome, world)) :
    service.runStep position step =
      (({ service.beginCall position step with world } : Service).endCall step []
        outcome).book position step.name outcome := by
  have called : (⟨service, position, step⟩ : Trial).called = _ :=
    Trial.called_of_stage runs attempted
  have ran := Trial.runStep_eq ⟨service, position, step⟩
  rw [Trial.outcome, called] at ran
  exact ran

theorem Alike.book (alike : Alike twins first second) (position : Nat) (name : String)
    (outcome : Outcome) :
    Together (Alike twins) (first.book position name outcome)
      (second.book position name outcome) := by
  cases outcome with
  | panicked message => exact ⟨rfl, alike⟩
  | failed cause =>
      exact ⟨rfl, (alike.record (.sample name false)).log _⟩
  | succeeded =>
      have counted := alike.record (.sample name true)
      have completed : (first.manager.change position Step.complete).AwaitsLater
          twins.testMode :=
        alike.awaits.change position fun _ => ⟨rfl, fun pending => by cases pending⟩
      have marked := counted.manage _ completed
      rw [← Manager.loadingFrom_change position Step.complete fun _ => rfl,
        ← alike.manager] at marked
      exact ⟨rfl, marked.log (.stepCompleted name)⟩

theorem Alike.runStep (alike : Alike twins first second) (position : Nat) {step : Step}
    {stage : Stage} (later : stage ∈ Stage.later twins.testMode)
    (runs : step.action = .stage stage) :
    Together (Alike twins) (first.runStep position step) (second.runStep position step) := by
  have begun := alike.beginCall position step
  rcases (begun.world.attempt later).split with
    ⟨outcome, next, otherNext, found, otherFound, after⟩
  rw [runStep_of_attempted runs found, runStep_of_attempted runs otherFound]
  have left : Alike twins { first.beginCall position step with world := next }
    { second.beginCall position step with world := otherNext } := { begun with world := after }
  exact (left.record _).book position step.name outcome

/-! ## Startup and walks -/

theorem Alike.push (alike : Alike twins first second) {stage : Stage}
    (later : stage ∈ Stage.later twins.testMode) :
    (∃ fault, first.push stage.name (.stage stage) = .error fault ∧
        second.push stage.name (.stage stage) = .error fault) ∨
      ∃ next otherNext, first.push stage.name (.stage stage) = .ok next ∧
        second.push stage.name (.stage stage) = .ok otherNext ∧ Alike twins next otherNext := by
  unfold Service.push
  rw [alike.manager, Manager.loadingFrom_push later]
  cases pushed : first.manager.push stage.name (.stage stage) with
  | error fault => exact .inl ⟨fault, rfl, rfl⟩
  | ok manager =>
      have grown : manager.steps = first.manager.steps ++ [stage.waiting] :=
        congrArg Manager.steps (Manager.push_eq_ok pushed).2
      have awaits : manager.AwaitsLater twins.testMode := by
        intro step member pending
        rw [grown] at member
        rcases List.mem_append.mp member with before | last
        · exact alike.awaits step before pending
        · cases List.mem_singleton.mp last
          exact ⟨stage, later, rfl⟩
      exact .inr ⟨_, _, rfl, rfl,
        (alike.record (.gauge false)).manage manager awaits⟩

theorem Alike.execStage (alike : Alike twins first second) {stage : Stage}
    (later : stage ∈ Stage.later twins.testMode) :
    Together (Alike twins) (first.execStage stage) (second.execStage stage) := by
  unfold Service.execStage Service.exec
  rcases alike.push later with ⟨fault, pushed, otherPushed⟩ | ⟨next, other, pushed, otherPushed, on⟩
  · rw [pushed, otherPushed]
    exact ⟨rfl, alike⟩
  · rw [pushed, otherPushed, alike.length]
    exact on.runStep _ later rfl

theorem Alike.execStages (alike : Alike twins first second) (stages : List Stage)
    (later : ∀ stage ∈ stages, stage ∈ Stage.later twins.testMode) :
    Together (Alike twins) (first.execStages stages) (second.execStages stages) := by
  induction stages generalizing first second with
  | nil => exact ⟨rfl, alike⟩
  | cons stage rest induction =>
      rcases (alike.execStage (later stage (.head _))).split with
        ⟨result, next, other, found, otherFound, on⟩
      simp only [Service.execStages, found, otherFound]
      rcases result with ⟨fault | done⟩ | message
      · exact ⟨rfl, on⟩
      · exact induction on fun stage member => later stage (.tail _ member)
      · exact ⟨rfl, on⟩

theorem Alike.registerStages (alike : Alike twins first second) (stages : List Stage)
    (later : ∀ stage ∈ stages, stage ∈ Stage.later twins.testMode) :
    Together (Alike twins) (first.registerStages stages) (second.registerStages stages) := by
  induction stages generalizing first second with
  | nil => exact ⟨rfl, alike⟩
  | cons stage rest induction =>
      unfold Service.registerStages Service.registerStage Service.register
      rcases alike.push (later stage (.head _)) with
        ⟨fault, pushed, otherPushed⟩ | ⟨next, other, pushed, otherPushed, on⟩
      · rw [pushed, otherPushed]
        exact ⟨rfl, alike.log _⟩
      · rw [pushed, otherPushed, alike.length]
        exact induction (on.log _) fun stage member => later stage (.tail _ member)

theorem Alike.runPending (alike : Alike twins first second) {position : Nat} {step : Step}
    (stands : first.manager.steps[position]? = some step) (pending : step.completed = false)
    {result : Finish (Except InitError Unit)} {next : Service}
    (ran : first.runStep position step = (result, next)) :
    ∃ other, Alike twins next other ∧ second.walk position =
      (Task.initializeAll : Task Unit).resume position (result, other) := by
  rcases alike.awaits step (List.mem_of_getElem? stands) pending with ⟨stage, later, runs⟩
  rcases (alike.runStep position later runs).split with
    ⟨same, after, other, found, otherFound, on⟩
  rw [ran] at found
  cases found
  have otherStands : second.manager.steps[position]? = some step := by
    rw [alike.manager, Manager.loadingFrom_getElem? stands, Step.loadingFrom_of_later later runs]
  refine ⟨other, on, ?_⟩
  rw [walk_of_pending otherStands pending, otherFound]

theorem Alike.walk (alike : Alike twins first second) (position : Nat) :
    Together (Alike twins) (first.walk position) (second.walk position) := by
  fun_induction Service.walk first position generalizing second with
  | case1 first position past =>
      have otherPast : second.manager.steps[position]? = none := by
        rw [List.getElem?_eq_none_iff] at past ⊢
        rwa [alike.length]
      rw [walk_of_none otherPast]
      exact ⟨rfl, (alike.setReady true).log _⟩
  | case2 first position step stands done induction =>
      have otherStands : second.manager.steps[position]? =
          some (step.loadingFrom twins.otherPath) := by
        rw [alike.manager, Manager.loadingFrom_getElem? stands]
      have gone := walk_of_done otherStands done
      rw [gone]
      exact induction alike
  | case3 first position step stands pending message next ran =>
      rcases alike.runPending stands (by simpa using pending) ran with ⟨other, on, gone⟩
      rw [gone]
      exact ⟨rfl, on⟩
  | case4 first position step stands pending fault next ran =>
      rcases alike.runPending stands (by simpa using pending) ran with ⟨other, on, gone⟩
      rw [gone]
      exact ⟨rfl, on.setReady false⟩
  | case5 first position step stands pending next ran induction =>
      rcases alike.runPending stands (by simpa using pending) ran with ⟨other, on, gone⟩
      rw [gone]
      exact induction on

theorem Alike.prepare (alike : Alike twins first second) :
    Together (Alike twins) first.prepare second.prepare := by
  unfold Service.prepare Service.initializeAll
  rw [alike.ready]
  split
  · exact ⟨rfl, alike⟩
  · rcases (alike.walk 0).split with ⟨result, next, other, found, otherFound, on⟩
    rw [found, otherFound]
    rcases result with ⟨fault | done⟩ | message
    · exact ⟨rfl, on.log _⟩
    · exact ⟨rfl, on⟩
    · exact ⟨rfl, on⟩

/-! ## Serving -/

theorem Alike.readiness (alike : Alike twins first second) :
    Readiness.of second.manager second.world.context =
      Readiness.of first.manager first.world.context := by
  have components : second.world.context.components = first.world.context.components :=
    List.filter_congr fun slot _ => alike.world.isFilled slot
  rw [Readiness.of, Readiness.of, Readiness.gathered, Readiness.gathered, alike.ready, components,
    alike.manager, Manager.loadingFrom_status]

theorem Alike.respond (alike : Alike twins first second) (request : HttpRequest) :
    Http.respond second.manager second.world.context request =
      Http.respond first.manager first.world.context request := by
  have endpoints : Http.respondTo second.manager second.world.context =
      Http.respondTo first.manager first.world.context := by
    funext endpoint
    cases endpoint with
    | liveness => rfl
    | readiness => exact congrArg Http.readinessResponse alike.readiness
  unfold Http.respond Http.respondAt
  rw [endpoints]

theorem Alike.receive (alike : Alike twins first second) (requests : List HttpRequest) :
    second.receive requests = first.receive requests := by
  have respond : Http.respond second.manager second.world.context =
      Http.respond first.manager first.world.context := funext alike.respond
  have listens : second.world.listenerAt? = first.world.listenerAt? :=
    funext alike.world.listenerAt?
  unfold Service.receive
  rw [respond, listens, alike.world.network.1, alike.world.network.2]

theorem Alike.ended (alike : Alike twins first second) (exit : Exit)
    (requests : List HttpRequest) :
    Serving.Run.Alike twins ⟨exit, first.receive requests, first.world⟩
      ⟨exit, second.receive requests, second.world⟩ :=
  ⟨rfl, alike.receive requests, alike.world⟩

theorem Alike.answerAll (alike : Alike twins first second) (chosen : SocketAddress)
    (requests : List HttpRequest) :
    Together (Alike twins) (first.answerAll chosen requests)
      (second.answerAll chosen requests) := by
  have bound := alike.record (.bound .server chosen)
  have serving := (bound.log (.listening chosen.write)).record
    (.serverEvent (.serverStarting chosen.write))
  exact ⟨serving.receive requests,
    (serving.log .shutdownReceived).record (.serverEvent .serverStopped)⟩

theorem Alike.serve (alike : Alike twins first second) (requests : List HttpRequest) :
    Serving.Run.Alike twins (first.serve requests) (second.serve requests) := by
  have failed (reason : String) : Serving.Run.Alike twins
      ⟨.failure, first.receive requests, (first.log (.serverFailed reason)).world⟩
      ⟨.failure, second.receive requests, (second.log (.serverFailed reason)).world⟩ :=
    ⟨rfl, alike.receive requests, (alike.log _).world⟩
  unfold Service.serve
  simp only [alike.world.getConfig, twins.reads.server, alike.world.bind]
  split
  · exact failed _
  · split
    · exact failed _
    · rename_i chosen _
      rcases (alike.answerAll chosen requests).split with
        ⟨receptions, next, other, found, otherFound, on⟩
      rw [found, otherFound]
      exact ⟨rfl, rfl, (on.log .shutdownComplete).world⟩

end Service

end Bringup
