import Bringup.Proofs.Index
import Bringup.Proofs.Openings

namespace Bringup

/-! The start of the service, stage by stage.

At each moment of a run some stages are done and others wait (`Service.Staged`). Whoever runs
the first one that waits, startup or a walk, gets it done or comes to an end there
(`Service.Ran`). -/

namespace Stage

def waiting (stage : Stage) : Step := { name := stage.name, action := .stage stage }

def finished (stage : Stage) : Step := { stage.waiting with completed := true, calls := 1 }

structure IsNext (options : Serving.Options) (done : List Stage) (stage : Stage) : Prop where
  planned : stage ∈ options.stages
  turn : done.map reached = stage.milestone.earlier
  after : stage.name = "database" → .configuration options.configPath ∈ done
  unused : stage.name ∉ done.map name

end Stage

namespace Serving

theorem Options.isNext {options : Options} {done rest : List Stage} {stage : Stage}
    (plan : options.stages = done ++ stage :: rest) : stage.IsNext options done := by
  have planned : stage ∈ options.stages := by simp [plan]
  simp only [stages, Stage.immediate, Stage.deferred, List.cons_append, List.nil_append] at plan
  -- A stage at the front of what is left can be any of the five.
  rcases done with _ | ⟨first, _ | ⟨second, _ | ⟨third, _ | ⟨fourth, _ | ⟨fifth, done⟩⟩⟩⟩⟩ <;>
    simp only [List.cons_append, List.nil_append, List.cons.injEq] at plan
  · rcases plan with ⟨rfl, _⟩
    exact ⟨planned, rfl, by simp [Stage.name], by simp⟩
  · rcases plan with ⟨rfl, rfl, _⟩
    exact ⟨planned, rfl, by simp [Stage.name], by simp [Stage.name]⟩
  · rcases plan with ⟨rfl, rfl, rfl, _⟩
    exact ⟨planned, rfl, by simp [Stage.name], by simp [Stage.name]⟩
  · rcases plan with ⟨rfl, rfl, rfl, rfl, _⟩
    exact ⟨planned, rfl, by simp, by simp [Stage.name]⟩
  · rcases plan with ⟨rfl, rfl, rfl, rfl, rfl, _⟩
    exact ⟨planned, rfl, by simp [Stage.name], by simp [Stage.name]⟩
  · rcases plan with ⟨_, _, _, _, _, beyond⟩
    exact absurd beyond.symm (by simp)

end Serving

namespace Service

structure Staged (start : World) (options : Serving.Options) (done pending : List Stage)
    (service : Service) : Prop where
  steps : service.manager.steps = done.map Stage.finished ++ pending.map Stage.waiting
  indexed : service.manager.Indexed
  unready : service.manager.ready = false
  filled : ∀ slot, service.world.context.isFilled slot = true ↔
    ∃ stage ∈ done, stage.slot? = some slot
  attempted : service.world.Attempted start options (done.map Stage.reached)

variable {start : World} {options : Serving.Options} {done pending : List Stage}
  {service : Service}

theorem Staged.fresh (unused : start.journal = []) (empty : start.context = {}) :
    Staged start options [] [] { world := start } := by
  have around : start.around = start := by
    rw [World.around, ← unused, ← empty]
  refine ⟨rfl, .fresh, rfl, fun slot => ?_, ?_, ?_, ?_, around, fun config found => ?_⟩
  · cases slot <;> simp [empty, Context.isFilled]
  · rw [unused]
    rfl
  · rw [unused]
    exact .nil
  · rw [World.IsOpened, unused]
    rfl
  · simp [empty] at found

theorem Staged.names (staged : service.Staged start options done pending) :
    service.manager.steps.map Step.name = (done ++ pending).map Stage.name := by
  rw [staged.steps, List.map_append, List.map_append, List.map_map, List.map_map]
  rfl

theorem Staged.notes (staged : service.Staged start options done pending) {entry : Entry}
    (aimless : entry.milestone? = none) :
    (service.record entry).Staged start options done pending :=
  ⟨staged.steps, staged.indexed, staged.unready, staged.filled, staged.attempted.aside aimless⟩

/-! ## Registering stages -/

def adding (service : Service) (stage : Stage) : Service where
  manager := {
    steps := service.manager.steps ++ [stage.waiting]
    positions := (stage.name, service.manager.steps.length) :: service.manager.positions
    ready := false }
  world := service.world.record (.gauge false)

theorem push_of_free {stage : Stage} (free : service.manager.position? stage.name = none) :
    service.push stage.name (.stage stage) = .ok (service.adding stage) := by
  simp only [Service.push, Manager.push, free]
  rfl

theorem Staged.push (staged : service.Staged start options done pending) {stage : Stage}
    (unused : stage.name ∉ (done ++ pending).map Stage.name) :
    ∃ next, service.push stage.name (.stage stage) = .ok next ∧
      next.Staged start options done (pending ++ [stage]) := by
  have free := staged.indexed.free (by rwa [staged.names])
  have enlisted := staged.indexed.enlist stage.name (.stage stage)
  rw [Manager.enlist_of_free free] at enlisted
  have noted : (service.record (.gauge false)).Staged start options done pending :=
    staged.notes rfl
  refine ⟨_, push_of_free free, ⟨?_, enlisted, rfl, noted.filled, noted.attempted⟩⟩
  simp [adding, staged.steps]

theorem Staged.registerStage (staged : service.Staged start options done pending) {stage : Stage}
    (unused : stage.name ∉ (done ++ pending).map Stage.name) :
    (service.registerStage stage).1 = .ok () ∧
      (service.registerStage stage).2.Staged start options done (pending ++ [stage]) := by
  rcases staged.push unused with ⟨next, pushed, grown⟩
  unfold Service.registerStage register
  rw [pushed]
  exact ⟨rfl, grown.notes rfl⟩

theorem Staged.registerStages {more : List Stage}
    (staged : service.Staged start options done pending)
    (plan : options.stages = done ++ pending ++ more) :
    (service.registerStages more).1 = .ok () ∧
      (service.registerStages more).2.Staged start options done (pending ++ more) := by
  induction more generalizing pending service with
  | nil =>
      rw [List.append_nil]
      exact ⟨rfl, staged⟩
  | cons stage rest induction =>
      have registered := staged.registerStage (Serving.Options.isNext plan).unused
      rcases found : service.registerStage stage with ⟨result, next⟩
      rw [found] at registered
      cases registered.1
      simp only [Service.registerStages, found]
      have further := induction registered.2 (by simpa using plan)
      rwa [List.append_assoc] at further

/-! ## Running a stage -/

/-- How some stages went that were run one after the other, the service being left in one of
two ways. -/
def Ran (start : World) (options : Serving.Options) (stages : List Stage)
    (succeeded : Service → Prop) : Finish (Except InitError Unit) × Service → Prop
  | (.returned (.ok ()), next) => succeeded next
  | (.returned (.error fault), next) => ∃ stage ∈ stages, ∃ cause,
      fault = .step stage.name cause ∧ next.world.Attempted start options
        (stage.milestone.stopped (.failed cause.message))
  | (.panicked message, next) => ∃ stage ∈ stages, next.world.Attempted start options
      (stage.milestone.stopped (.panicked message))

section

variable {stage : Stage} {rest : List Stage} {outcome : Outcome} {world : World}

theorem runStep_waiting {position : Nat} (performed :
      (service.beginCall position stage.waiting).world.attempt stage = (outcome, world)) :
    service.runStep position stage.waiting =
      (({ manager := service.manager.noteCall position, world } : Service).endCall stage.waiting
        [] outcome).book position stage.name outcome := by
  have called : (service.beginCall position stage.waiting).callAction stage.waiting.action
      stage.waiting.calls = (([], outcome),
        { manager := service.manager.noteCall position, world }) := by
    unfold callAction
    simp only [Stage.waiting] at performed ⊢
    rw [performed]
    rfl
  simp only [runStep, called]
  rfl

theorem Staged.called (staged : service.Staged start options done (stage :: rest))
    (next : stage.IsNext options done)
    (performed : (service.beginCall done.length stage.waiting).world.attempt stage =
      (outcome, world)) :
    (world.record (.call ⟨stage.name, 1, [], outcome⟩)).Attempted start options
      (stage.milestone.earlier ++ [⟨stage.milestone, outcome.setback?⟩]) := by
  have begun := (next.turn ▸ staged.attempted).proceed (.event (.stepRunning stage.name))
    rfl trivial rfl rfl
  refine begun.call next.planned (fun named => ?_) performed
  have held := (staged.filled .config).mpr ⟨_, next.after named, rfl⟩
  exact Option.isSome_iff_exists.mp held

theorem Staged.finish (staged : service.Staged start options done (stage :: rest))
    (next : stage.IsNext options done)
    (performed : (service.beginCall done.length stage.waiting).world.attempt stage =
      (.succeeded, world)) :
    Staged start options (done ++ [stage]) rest {
      manager := (service.manager.noteCall done.length).markCompleted done.length
      world := world.record (.call ⟨stage.name, 1, [], .succeeded⟩) } := by
  have called := staged.called next performed
  have fills := World.attempt_fills (service.beginCall done.length stage.waiting).world stage
  rw [performed] at fills
  refine ⟨?_, ?_, staged.unready, fun slot => ?_, ?_⟩
  · have length : done.length = (done.map Stage.finished).length := by simp
    simp only [Manager.noteCall, Manager.markCompleted]
    rw [staged.steps, List.map_cons, length, Manager.modify_length_append,
      Manager.modify_length_append]
    simp [Stage.finished, Stage.waiting, Step.called, Step.complete]
  · have noted : (service.manager.change done.length Step.called).Indexed :=
      staged.indexed.change _ fun _ => rfl
    have marked : ((service.manager.change done.length Step.called).change done.length
      Step.complete).Indexed := noted.change _ fun _ => rfl
    exact marked
  · refine (Bool.eq_iff_iff.mp (fills slot)).trans ?_
    rw [Bool.or_eq_true, beq_iff_eq]
    refine (or_congr_left (staged.filled slot)).trans ?_
    simp only [List.mem_append, List.mem_singleton, or_and_right, exists_or, exists_eq_left]
  · rw [List.map_append, next.turn]
    exact called

theorem Staged.attempt (staged : service.Staged start options done (stage :: rest))
    (next : stage.IsNext options done) :
    Ran start options [stage] (Staged start options (done ++ [stage]) rest)
      (service.runStep done.length stage.waiting) := by
  rcases performed : (service.beginCall done.length stage.waiting).world.attempt stage with
    ⟨outcome, world⟩
  rw [runStep_waiting performed]
  cases outcome with
  | failed cause =>
      -- The failure is counted and logged after the call.
      have called := staged.called next performed
      exact ⟨stage, List.mem_singleton_self stage, cause, rfl, (called.aside rfl).aside rfl⟩
  | panicked message =>
      exact ⟨stage, List.mem_singleton_self stage, staged.called next performed⟩
  | succeeded => exact ((staged.finish next performed).notes rfl).notes rfl

end

theorem Ran.mono {stages more : List Stage} {succeeded other : Service → Prop}
    {result : Finish (Except InitError Unit) × Service}
    (ran : Ran start options stages succeeded result)
    (subset : stages ⊆ more) (weaker : ∀ next, succeeded next → other next) :
    Ran start options more other result := by
  rcases result with ⟨⟨_ | fault⟩ | message, next⟩
  · rcases ran with ⟨stage, member, cause, same, stopped⟩
    exact ⟨stage, subset member, cause, same, stopped⟩
  · exact weaker next ran
  · rcases ran with ⟨stage, member, stopped⟩
    exact ⟨stage, subset member, stopped⟩

/-! ## Startup -/

theorem Staged.execStage {stage : Stage} {more : List Stage}
    (staged : service.Staged start options done [])
    (plan : options.stages = done ++ stage :: more) :
    Ran start options [stage] (Staged start options (done ++ [stage]) [])
      (service.execStage stage) := by
  have isNext := Serving.Options.isNext plan
  rcases staged.push (by simpa using isNext.unused) with ⟨next, pushed, grown⟩
  have length : service.manager.steps.length = done.length := by
    simp [staged.steps]
  unfold Service.execStage exec
  rw [pushed, length]
  exact grown.attempt isNext

theorem Ran.bind {first rest : List Stage} {middle last : Service → Prop}
    {result : Finish (Except InitError Unit) × Service}
    {further : Service → Finish (Except InitError Unit) × Service}
    (continues : ∀ next, middle next → Ran start options rest last (further next)) :
    Ran start options first middle result →
      Ran start options (first ++ rest) last (match result with
        | (.returned (.ok ()), next) => further next
        | result => result) := by
  intro ran
  rcases result with ⟨⟨fault | _⟩ | message, next⟩
  · rcases ran with ⟨stage, member, rest⟩
    exact ⟨stage, List.mem_append_left _ member, rest⟩
  · exact (continues next ran).mono (List.subset_append_right _ _) fun _ => id
  · rcases ran with ⟨stage, member, stopped⟩
    exact ⟨stage, List.mem_append_left _ member, stopped⟩

theorem Staged.execStages {stages more : List Stage}
    (staged : service.Staged start options done [])
    (plan : options.stages = done ++ stages ++ more) :
    Ran start options stages (Staged start options (done ++ stages) [])
      (service.execStages stages) := by
  induction stages generalizing done service with
  | nil => simpa [Service.execStages, Ran] using staged
  | cons stage rest induction =>
      have executed := staged.execStage (by simpa using plan)
      refine Ran.bind (fun next grown => ?_) executed
      have further := induction grown (by simpa using plan)
      rwa [List.append_assoc] at further

theorem Staged.bootstrap (staged : service.Staged start options [] []) :
    Ran start options (Stage.immediate options.configPath)
      (Staged start options (Stage.immediate options.configPath) (Stage.deferred options.testMode))
      (service.bootstrap options.configPath options.testMode) := by
  have first : options.stages =
    [] ++ Stage.immediate options.configPath ++ Stage.deferred options.testMode := rfl
  have executed := staged.execStages first
  rw [← List.append_nil (Stage.immediate options.configPath)]
  refine Ran.bind (fun next grown => ?_) executed
  have second : options.stages =
    Stage.immediate options.configPath ++ [] ++ Stage.deferred options.testMode := rfl
  have registered := grown.registerStages second
  rcases found : next.registerStages (Stage.deferred options.testMode) with ⟨result, last⟩
  rw [found] at registered
  cases registered.1
  simp only [registerConnectors, found]
  exact registered.2

/-! ## Walks -/

def Arrived (start : World) (options : Serving.Options) (stages : List Stage)
    (last : Service) : Prop :=
  ∃ walked : Service, walked.Staged start options stages [] ∧
    last = (walked.setReady true).log (.bootstrapComplete stages.length)

theorem Staged.walk_past (staged : service.Staged start options done pending) {position : Nat}
    (inside : position ≤ done.length) : service.walk position = service.walk done.length := by
  induction gap : done.length - position generalizing position with
  | zero =>
      have arrived : position = done.length := by omega
      rw [arrived]
  | succ gap induction =>
      have before : position < done.length := by omega
      have stands : service.manager.steps[position]? = some done[position].finished := by
        simp [staged.steps, List.getElem?_append_left, before]
      rw [walk_of_done stands rfl]
      exact induction (by omega) (by omega)

theorem Staged.walk (staged : service.Staged start options done pending)
    (plan : options.stages = done ++ pending) :
    Ran start options pending (Arrived start options (done ++ pending))
      (service.walk done.length) := by
  induction pending generalizing done service with
  | nil =>
      have past : service.manager.steps[done.length]? = none := by
        simp [staged.steps]
      rw [walk_of_none past, List.append_nil]
      exact ⟨service, staged, rfl⟩
  | cons stage rest induction =>
      have stands : service.manager.steps[done.length]? = some stage.waiting := by
        simp [staged.steps]
      have attempted := staged.attempt (Serving.Options.isNext plan)
      rw [walk_of_pending stands rfl]
      rcases ran : service.runStep done.length stage.waiting with ⟨⟨fault | _⟩ | message, next⟩ <;>
        rw [ran] at attempted
      · rcases attempted with ⟨failed, member, cause, same, stopped⟩
        cases List.mem_singleton.mp member
        -- The walk sets the gauge after the call has been booked.
        exact ⟨stage, .head _, cause, same, stopped.aside rfl⟩
      · have further := induction attempted (by simpa using plan)
        rw [List.append_assoc, List.length_append] at further
        exact further.mono (List.subset_cons_self _ _) fun _ => id
      · rcases attempted with ⟨failed, member, stopped⟩
        cases List.mem_singleton.mp member
        exact ⟨stage, .head _, stopped⟩

theorem Staged.prepare (staged : service.Staged start options done pending)
    (plan : options.stages = done ++ pending) :
    Ran start options pending (Arrived start options (done ++ pending)) service.prepare := by
  -- The walk begins at the first step, and comes past those that are done already.
  have walked := staged.walk plan
  rw [← staged.walk_past (Nat.zero_le _)] at walked
  unfold Service.prepare initializeAll
  rw [if_neg (by simp [staged.unready])]
  rcases ended : service.walk 0 with ⟨⟨fault | _⟩ | message, next⟩ <;> rw [ended] at walked
  · rcases walked with ⟨stage, member, cause, same, stopped⟩
    exact ⟨stage, member, cause, same, stopped.aside rfl⟩
  · exact walked
  · exact walked

end Service

end Bringup
