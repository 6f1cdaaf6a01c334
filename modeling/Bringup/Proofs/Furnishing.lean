import Bringup.Proofs.Trails

namespace Bringup

/-! The slots of the context follow the steps.

As long as nobody else fills the context, a slot is filled exactly if the step that startup
registered for it is completed, and it then holds what the one successful call of that step
put there (`Service.Furnished`). -/

theorem Action.name_of_slot? {action : Action} {name : String} (named : action.GoesBy name)
    {slot : Slot} (fills : action.slot? = some slot) : name = slot.name := by
  cases action with
  | scripted | plain => cases fills
  | stage work =>
      refine Eq.trans named ?_
      cases work <;> cases fills <;> rfl

namespace Manager

def fills (manager : Manager) (slot : Slot) : Bool :=
  manager.steps.any fun step => step.action.slot? == some slot && step.completed

theorem fills_eq_true_iff {manager : Manager} {slot : Slot} :
    manager.fills slot = true ↔
      ∃ step ∈ manager.steps, step.action.slot? = some slot ∧ step.completed = true := by
  simp [fills]

theorem fills_enlist (manager : Manager) (name : String) (action : Action) :
    (manager.enlist name action).fills = manager.fills := by
  cases known : manager.position? name with
  | some position => rw [enlist_of_taken known]
  | none =>
      funext slot
      simp [enlist_of_free known, fills]

theorem fills_enlistAll (manager : Manager) (meanwhile : List (String × Action)) :
    (manager.enlistAll meanwhile).fills = manager.fills := by
  induction meanwhile generalizing manager with
  | nil => rfl
  | cons registration rest induction => rw [enlistAll, induction, fills_enlist]

theorem any_modify {steps : List Step} {position : Nat} {step : Step}
    (stands : steps[position]? = some step) (transform : Step → Step) (test : Step → Bool)
    (unmet : test step = false) :
    (steps.modify position transform).any test = (steps.any test || test (transform step)) := by
  induction steps generalizing position with
  | nil => cases stands
  | cons first rest induction =>
      cases position with
      | zero =>
          cases stands
          simp [unmet, Bool.or_comm]
      | succ position =>
          rw [List.modify_succ_cons, List.any_cons, induction stands, List.any_cons,
            Bool.or_assoc]

/-! Where the steps of a longer list come from. -/

theorem of_mem_enlist {manager : Manager} {name : String} {action : Action} {step : Step}
    (member : step ∈ (manager.enlist name action).steps) :
    step ∈ manager.steps ∨ step.name = name ∧ step.action = action := by
  cases known : manager.position? name with
  | some position =>
      rw [enlist_of_taken known] at member
      exact .inl member
  | none =>
      rw [enlist_of_free known] at member
      rcases List.mem_append.mp member with old | last
      · exact .inl old
      · cases List.mem_singleton.mp last
        exact .inr ⟨rfl, rfl⟩

theorem of_mem_enlistAll {manager : Manager} {meanwhile : List (String × List Script)}
    {step : Step} (member : step ∈ (manager.enlistAll (Service.enlisted meanwhile)).steps) :
    step ∈ manager.steps ∨ ∃ runs, step.action = .scripted runs := by
  induction meanwhile generalizing manager with
  | nil => exact .inl member
  | cons registration rest induction =>
      rcases induction member with before | scripted
      · rcases of_mem_enlist before with old | ⟨_, action⟩
        · exact .inl old
        · exact .inr ⟨_, action⟩
      · exact .inr scripted

theorem of_mem_settle {manager : Manager} {position : Nat} {outcome : Outcome} {step : Step}
    (member : step ∈ (manager.change position outcome.settle).steps) :
    ∃ earlier ∈ manager.steps, earlier.name = step.name ∧ earlier.action = step.action := by
  rcases List.mem_iff_getElem?.mp member with ⟨place, found⟩
  simp only [change, List.getElem?_modify] at found
  rcases Option.map_eq_some_iff.mp found with ⟨earlier, stands, rfl⟩
  refine ⟨earlier, List.mem_of_getElem? stands, ?_⟩
  by_cases here : position = place
  · rw [if_pos here]
    exact ⟨rfl, rfl⟩
  · rw [if_neg here]
    exact ⟨rfl, rfl⟩

def Named (manager : Manager) : Prop := ∀ step ∈ manager.steps, step.action.GoesBy step.name

theorem Named.enlist {manager : Manager} (named : manager.Named) {name : String}
    {action : Action} (new : action.GoesBy name) : (manager.enlist name action).Named := by
  intro step member
  rcases of_mem_enlist member with old | ⟨rfl, rfl⟩
  · exact named step old
  · exact new

end Manager

namespace Trial

theorem after_manager_change (trial : Trial)
    (inside : trial.position < trial.service.manager.steps.length) :
    ∃ meanwhile, trial.after.manager =
      (trial.service.manager.enlistAll (Service.enlisted meanwhile)).change trial.position
        trial.outcome.settle := by
  rcases trial.called_manager with ⟨meanwhile, manager, _⟩
  refine ⟨meanwhile, ?_⟩
  rw [after_manager, manager, ← Outcome.mark_called, ← Manager.enlistAll_change inside]
  rfl

theorem of_mem_after {trial : Trial} {step : Step}
    (inside : trial.position < trial.service.manager.steps.length)
    (member : step ∈ trial.after.manager.steps) :
    (∃ earlier ∈ trial.service.manager.steps,
        earlier.name = step.name ∧ earlier.action = step.action) ∨
      ∃ runs, step.action = .scripted runs := by
  rcases trial.after_manager_change inside with ⟨meanwhile, manager⟩
  rw [manager] at member
  rcases Manager.of_mem_settle member with ⟨settled, stood, name, action⟩
  rcases Manager.of_mem_enlistAll stood with old | ⟨runs, scripted⟩
  · exact .inl ⟨settled, old, name, action⟩
  · exact .inr ⟨runs, action.symm.trans scripted⟩

theorem after_fills {trial : Trial}
    (stands : trial.service.manager.steps[trial.position]? = some trial.step)
    (pending : trial.step.completed = false) (slot : Slot) :
    trial.after.manager.fills slot = (trial.service.manager.fills slot || trial.fills slot) := by
  have inside := (List.getElem?_eq_some_iff.mp stands).1
  rcases trial.after_manager_change inside with ⟨meanwhile, manager⟩
  have stood := Manager.enlistAll_stands stands (Service.enlisted meanwhile)
  have settled : ((trial.outcome.settle trial.step).action.slot? == some slot &&
      (trial.outcome.settle trial.step).completed) = trial.fills slot := by
    rw [Outcome.settle_completed, pending, Bool.false_or, Bool.and_comm]
    rfl
  have unmet : (trial.step.action.slot? == some slot && trial.step.completed) = false := by
    simp [pending]
  rw [manager, ← settled, ← trial.service.manager.fills_enlistAll (Service.enlisted meanwhile)]
  exact Manager.any_modify stood _
    (fun step => step.action.slot? == some slot && step.completed) unmet

theorem fills_eq_of_fills {trial : Trial} {slot : Slot} (fills : trial.fills slot = true)
    (other : Slot) : trial.fills other = (some slot == some other) := by
  rw [Trial.fills, Bool.and_eq_true, beq_iff_eq] at fills
  rw [Trial.fills, fills.1, fills.2, Bool.true_and]

theorem empty_of_fills {trial : Trial} {slot : Slot} (fills : trial.fills slot = true) :
    trial.service.world.context.isFilled slot = false := by
  rcases trial.called_context with ⟨gained, filling, gains⟩ | ⟨unfilling, _⟩
  · have same := fills_eq_of_fills filling slot
    rw [fills] at same
    cases Option.some.inj (beq_iff_eq.mp same.symm)
    exact gains.empty
  · rw [unfilling] at fills
    cases fills

theorem after_isFilled (trial : Trial) (slot : Slot) :
    trial.after.world.context.isFilled slot =
      (trial.service.world.context.isFilled slot || trial.fills slot) := by
  rw [after_context]
  rcases trial.called_context with ⟨gained, filling, gains⟩ | ⟨unfilling, same⟩
  · rw [gains.isFilled_eq, fills_eq_of_fills filling]
  · rw [same, unfilling, Bool.or_false]

end Trial

namespace Service

/-- The slots filled are those of completed steps, and each holds what the only call that
filled it left there. -/
structure Furnished (trials : List Trial) (service : Service) : Prop where
  named : service.manager.Named
  filled : ∀ slot, service.world.context.isFilled slot = service.manager.fills slot
  origin : ∀ slot,
    service.world.context.isFilled slot = false ∧ trials.filter (·.fills slot) = [] ∨
      service.world.context.isFilled slot = true ∧ ∃ trial,
        trials.filter (·.fills slot) = [trial] ∧
        service.world.context.AgreesAt trial.after.world.context slot

theorem Furnished.fresh {world : World} (empty : world.context = {}) :
    Furnished [] { world } where
  named step member := by cases member
  filled slot := by cases slot <;> simp [empty, Context.isFilled, Manager.fills]
  origin slot := by
    refine .inl ⟨?_, rfl⟩
    cases slot <;> simp [empty, Context.isFilled]

theorem Furnished.congr {trials : List Trial} {service next : Service}
    (furnished : service.Furnished trials) (named : next.manager.Named)
    (fills : next.manager.fills = service.manager.fills)
    (context : next.world.context = service.world.context) : next.Furnished trials := by
  refine ⟨named, ?_, ?_⟩
  · rw [context, fills]
    exact furnished.filled
  · rw [context]
    exact furnished.origin

theorem Furnished.push {trials : List Trial} {service next : Service} {name : String}
    {action : Action} (furnished : service.Furnished trials) (new : action.GoesBy name)
    (pushed : service.push name action = .ok next) : next.Furnished trials := by
  have manager : next.manager = service.manager.enlist name action := by
    rw [Manager.enlist, push_manager pushed]
  refine furnished.congr ?_ ?_ (push_context pushed)
  · rw [manager]
    exact furnished.named.enlist new
  · rw [manager]
    exact service.manager.fills_enlist name action

theorem Furnished.call {trials : List Trial} {trial : Trial}
    (furnished : trial.service.Furnished trials)
    (stands : trial.service.manager.steps[trial.position]? = some trial.step)
    (pending : trial.step.completed = false) :
    trial.after.Furnished (trials ++ [trial]) := by
  have inside := (List.getElem?_eq_some_iff.mp stands).1
  refine ⟨?_, fun slot => ?_, fun slot => ?_⟩
  · intro step member
    rcases Trial.of_mem_after inside member with ⟨earlier, old, name, action⟩ | ⟨runs, scripted⟩
    · rw [← name, ← action]
      exact furnished.named earlier old
    · rw [scripted]
      trivial
  · rw [trial.after_isFilled, trial.after_fills stands pending, furnished.filled]
  · rw [trial.after_isFilled, List.filter_append]
    rcases furnished.origin slot with ⟨empty, unfilled⟩ | ⟨full, first, only, agrees⟩
    · rw [empty, unfilled, Bool.false_or, List.nil_append]
      cases fills : trial.fills slot with
      | false => exact .inl ⟨rfl, by simp [fills]⟩
      | true => exact .inr ⟨rfl, trial, by simp [fills], .refl _ _⟩
    · have unfilling : trial.fills slot = false := by
        cases fills : trial.fills slot with
        | false => rfl
        | true =>
            rw [Trial.empty_of_fills fills] at full
            cases full
      refine .inr ⟨by rw [full, Bool.true_or], first, ?_, ?_⟩
      · simp [only, unfilling]
      · exact (trial.keeps_context slot full).trans agrees

/-- The configuration is the one that the only call that filled its slot has read. -/
theorem Furnished.configuration {trials : List Trial} {service : Service}
    (furnished : service.Furnished trials) (config : Config) :
    service.world.context.config = some config ↔
      ∃ trial, trials.filter (·.fills .config) = [trial] ∧ trial.Loads config := by
  rcases furnished.origin .config with ⟨empty, unfilled⟩ | ⟨_, first, only, agrees⟩
  · have unset : service.world.context.config = none := by
      simpa [Context.isFilled] using empty
    rw [unset, unfilled]
    constructor
    · intro held
      cases held
    · rintro ⟨_, filled, _⟩
      cases filled
  · have fills : first.fills .config = true := by
      have member : first ∈ trials.filter (·.fills .config) := by rw [only]; exact .head _
      exact (List.mem_filter.mp member).2
    rcases Trial.loads_of_fills fills with ⟨loaded, loads, held⟩
    have config : service.world.context.config = first.after.world.context.config := agrees
    rw [config, held, only]
    constructor
    · intro same
      exact ⟨first, rfl, Option.some.inj same ▸ loads⟩
    · rintro ⟨trial, same, other⟩
      cases List.singleton_inj.mp same
      rw [loads.unique other]

theorem Trail.furnished {first last : Service} {trials : List Trial}
    (trail : Trail False first trials last) (furnished : first.Furnished []) :
    last.Furnished trials := by
  induction trail with
  | nil => exact furnished
  | pushes _ named pushed induction => exact induction.push (named.resolve_left id) pushed
  | @runs trials middle position step _ stands pending induction =>
      let trial : Trial := ⟨middle, position, step⟩
      have before : trial.service.Furnished trials := induction
      exact before.call stands pending
  | asides _ same induction =>
      refine induction.congr ?_ ?_ (core_context same)
      · rw [Manager.Named, core_steps same]
        exact induction.named
      · funext slot
        rw [Manager.fills, core_steps same, Manager.fills]
  | publishes _ allowed => exact allowed.elim

variable {outside : Prop} {first last : Service} {trials : List Trial}

theorem Trail.keeps (trail : Trail outside first trials last) :
    first.world.context.Keeps last.world.context := by
  induction trail with
  | nil => exact .refl _
  | pushes _ named pushed induction =>
      rw [push_context pushed]
      exact induction
  | @runs trials middle position step _ stands pending induction =>
      exact induction.trans (Trial.keeps_context ⟨middle, position, step⟩)
  | asides _ same induction =>
      rw [core_context same]
      exact induction
  | publishes _ _ _ keeps induction => exact induction.trans keeps

theorem Trail.calls (trail : Trail outside first trials last) :
    last.world.journal.calls = first.world.journal.calls ++ trials.map Trial.call := by
  induction trail with
  | nil => exact (List.append_nil _).symm
  | pushes _ named pushed induction =>
      rw [push_journal pushed, Journal.calls_append, induction]
      exact List.append_nil _
  | @runs trials middle position step _ stands pending induction =>
      have after := Trial.after_calls ⟨middle, position, step⟩
      rcases Trial.called_manager ⟨middle, position, step⟩ with ⟨_, _, calls⟩
      rw [calls, induction, List.append_assoc] at after
      rw [List.map_append]
      exact after
  | asides _ same induction => exact (core_calls same).trans induction
  | publishes _ _ calls _ induction => exact calls.trans induction

/-! ## Sessions -/

/-- Whatever operations follow one another, as long as none of them fills the context itself:
a slot is filled exactly if the step that startup registered for it is completed, what it
holds never changes, and a call that does not succeed changes nothing in any slot. The
configuration is the one that the only successful call of its step read from its file. -/
theorem session_furnished {world : World} (empty : world.context = {})
    {earlier later : List (Operation α)}
    (spares : Operation.anyPublishesDirectly earlier = false)
    (sparesLater : Operation.anyPublishesDirectly later = false) :
    let service := (({ world } : Service).session earlier).2
    let last := (service.session later).2
    (∀ slot,
      (service.world.context.isFilled slot = true ↔ ∃ step ∈ service.manager.steps,
        step.name = slot.name ∧ step.action.slot? = some slot ∧ step.completed = true) ∧
      (service.world.context.isFilled slot = true →
        last.world.context.AgreesAt service.world.context slot)) ∧
    service.world.context.components = Slot.all.filter service.manager.fills ∧
    let trials := ({ world } : Service).trials earlier
    Trail False { world } trials service ∧
      service.world.journal.calls = world.journal.calls ++ trials.map Trial.call ∧
      (∀ trial ∈ trials, trial.outcome.isSuccess = false →
        trial.after.world.context = trial.service.world.context) ∧
      ∀ config, service.world.context.config = some config ↔
        ∃ trial, trials.filter (·.fills .config) = [trial] ∧ trial.Loads config := by
  intro service last
  have trail : Trail False { world } _ service := session_trail _ earlier (by simp [spares])
  have further : Trail False service _ last := session_trail _ later (by simp [sparesLater])
  have furnished := trail.furnished (.fresh empty)
  refine ⟨fun slot => ⟨?_, further.keeps slot⟩, ?_, trail, trail.calls,
    fun trial _ => trial.context_of_failure, furnished.configuration⟩
  · rw [furnished.filled, Manager.fills_eq_true_iff]
    constructor
    · rintro ⟨step, member, filling, completed⟩
      exact ⟨step, member, Action.name_of_slot? (furnished.named step member) filling, filling,
        completed⟩
    · rintro ⟨step, member, _, filling, completed⟩
      exact ⟨step, member, filling, completed⟩
  · exact List.filter_congr fun slot _ => furnished.filled slot

/-- A file that cannot be read at first is mended, loaded and then written once more: the
configuration that is held was read from the mended file and stays. -/
theorem furnished_after_mending : ∃ (world : World) (earlier later : List (Operation Unit)),
    Operation.anyPublishesDirectly earlier = false ∧
      Operation.anyPublishesDirectly later = false ∧
      (({ world } : Service).session earlier).2.world.context.isFilled .config = true ∧
      ((({ world } : Service).session earlier).2.session later).2.world.context.AgreesAt
        (({ world } : Service).session earlier).2.world.context .config := by
  let world : World := { files := Files.write [] "config.toml" (.contents (Bytes.encode "[")) }
  let earlier : List (Operation Unit) :=
    [.bootstrap "config.toml" false, .writeFile "config.toml" "", .initializeAll]
  let later : List (Operation Unit) :=
    [.writeFile "config.toml" "[database]\nmax_connections = 3\n", .registerConnectors true,
      .initializeAll, .bootstrap "config.toml" true]
  have filled :
      (({ world } : Service).session earlier).2.world.context.isFilled .config = true := by
    decide +kernel
  have empty : world.context = {} := rfl
  have spares : Operation.anyPublishesDirectly earlier = false := rfl
  have sparesLater : Operation.anyPublishesDirectly later = false := rfl
  exact ⟨world, earlier, later, spares, sparesLater, filled,
    ((session_furnished empty spares sparesLater).1 .config).2 filled⟩

end Service

end Bringup
