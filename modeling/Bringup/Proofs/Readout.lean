import Bringup.Proofs.ReadyGate

namespace Bringup

/-! What the endpoint of readiness tells while threads are at work.

The flag, the steps and the filled slots are read at three moments. Steps are only ever
appended, and what is completed stays completed, so an answer that reports readiness lists
completed steps first and then whatever was registered between the first two reads
(`System.Run.ready_response_steps`). Such a step may well be pending, so the answer need
not agree with itself (`System.pending_in_ready_response`). -/

namespace Manager

theorem names_modify (steps : List Step) (position : Nat) {change : Step → Step}
    (keeps : ∀ step, (change step).name = step.name) :
    (steps.modify position change).map Step.name = steps.map Step.name := by
  apply List.ext_getElem?
  intro other
  rw [List.getElem?_map, List.getElem?_map, List.getElem?_modify]
  cases steps[other]? with
  | none => rfl
  | some step => by_cases here : position = other <;> simp [here, keeps]

@[simp] theorem names_noteCall (manager : Manager) (position : Nat) :
    (manager.noteCall position).steps.map Step.name = manager.steps.map Step.name :=
  names_modify manager.steps position fun _ => rfl

@[simp] theorem names_markCompleted (manager : Manager) (position : Nat) :
    (manager.markCompleted position).steps.map Step.name = manager.steps.map Step.name :=
  names_modify manager.steps position fun _ => rfl

end Manager

namespace Happening

def registered? : Happening α → Option String
  | registered name => some name
  | _ => none

/-- Steps keep their names and places; a registration appends one. -/
theorem Effect.names {happening : Happening α} {before after : Manager}
    (effect : happening.Effect before after) :
    after.steps.map Step.name =
      before.steps.map Step.name ++ happening.registered?.toList := by
  cases happening with
  | registered name =>
      rcases effect with ⟨action, pushed⟩
      rw [(Manager.push_eq_ok pushed).2]
      simp [registered?]
  | called | completed => cases effect; simp [registered?]
  | walked | stopped => cases effect; simp [registered?, Manager.setReady]
  | began | rejected | ended | returned | silent => cases effect; simp [registered?]

end Happening

namespace Http

theorem readinessResponse_status_iff {readiness : Readiness} :
    (readinessResponse readiness).status = 200 ↔ readiness.isReady = true := by
  simp [readinessResponse, Readiness.status]

end Http

namespace Trace

def registrations (trace : Trace α) : List String :=
  trace.filterMap fun entry => entry.2.registered?

theorem registrations_snoc (trace : Trace α) (thread : Nat) (happening : Happening α) :
    registrations (trace ++ [(thread, happening)]) =
      trace.registrations ++ happening.registered?.toList := by
  unfold registrations
  rw [List.filterMap_append]
  cases named : happening.registered? <;> simp [named]

end Trace

namespace System

variable {plays : Action → Nat → Script → Prop}

theorem Run.names {first last : System α} {trace : Trace α} (run : Run plays first trace last) :
    last.service.manager.steps.map Step.name =
      first.service.manager.steps.map Step.name ++ trace.registrations := by
  induction run with
  | nil => simp [Trace.registrations]
  | snoc _ _ step induction =>
      rw [step.effect.names, induction, Trace.registrations_snoc, List.append_assoc]

theorem Run.keeps_completed {first last : System α} {trace : Trace α}
    (run : Run plays first trace last) {position : Nat}
    (done : first.service.manager.completed? position = some true) :
    last.service.manager.completed? position = some true := by
  induction run with
  | nil => exact done
  | snoc _ _ step induction => exact step.effect.keeps_completed induction

theorem Run.completed_below {world : World} {earlier between : Trace α}
    {first last : System α} (reached : Run plays (fresh world) earlier first)
    (run : Run plays first between last) (ready : first.service.manager.ready = true) :
    ∀ step ∈ last.service.manager.steps.take first.service.manager.steps.length,
      step.completed = true := by
  intro step member
  rcases List.getElem?_of_mem member with ⟨position, stands⟩
  rw [List.getElem?_take] at stands
  split at stands
  · rename_i inside
    have gate := (reached.sound (.fresh world)).gate ready position
    rw [Manager.completed?_of_stands (List.getElem?_eq_getElem inside)] at gate
    have done : first.service.manager.completed? position = some true := by
      rw [Manager.completed?_of_stands (List.getElem?_eq_getElem inside)]
      simpa using gate
    have still := run.keeps_completed done
    rw [Manager.completed?_of_stands stands] at still
    simpa using still
  · cases stands

/-- Whatever threads do while the endpoint of readiness reads the flag, then the steps and
then the slots: a response of status 200 lists completed steps, followed by the steps that
were registered between the first two reads. If none was, all that it lists is completed. -/
theorem Run.ready_response_steps {world : World} {earlier between : Trace α}
    {atFlag atSteps : System α} (reached : Run plays (fresh world) earlier atFlag)
    (run : Run plays atFlag between atSteps) (atSlots : Context) {readiness : Readiness}
    (read : readiness = .gathered atFlag.service.manager atSteps.service.manager atSlots)
    (ready : (Http.readinessResponse readiness).status = 200) :
    (∃ known added, readiness.steps = known ++ added ∧
        (∀ status ∈ known, status.completed = true) ∧
        added.map StepStatus.name = between.registrations) ∧
      (between.registrations = [] → ∀ status ∈ readiness.steps, status.completed = true) := by
  have flag : atFlag.service.manager.ready = true := by
    rw [Http.readinessResponse_status_iff, read] at ready
    exact ready
  have listed : readiness.steps = atSteps.service.manager.steps.map Step.status := by
    rw [read]
    rfl
  -- Steps are only appended, so the first `count` are those that stood when the flag was read.
  let count := atFlag.service.manager.steps.length
  have known : ∀ status ∈ (readiness.steps.take count), status.completed = true := by
    intro status member
    rw [listed, ← List.map_take] at member
    rcases List.mem_map.mp member with ⟨step, stood, rfl⟩
    exact reached.completed_below run flag step stood
  have added : (readiness.steps.drop count).map StepStatus.name = between.registrations := by
    have names : (readiness.steps.map StepStatus.name) =
        atFlag.service.manager.steps.map Step.name ++ between.registrations := by
      rw [listed, List.map_map, ← run.names]
      rfl
    rw [List.map_drop, names, List.drop_left' (List.length_map ..)]
  refine ⟨⟨_, _, (List.take_append_drop count readiness.steps).symm, known, added⟩, ?_⟩
  intro nothing status member
  rw [nothing, List.map_eq_nil_iff, List.drop_eq_nil_iff] at added
  rw [← List.take_of_length_le added] at member
  exact known status member

/-- A walk completes the only step and sets the flag, and then a step is registered. -/
theorem exists_registering : ∃ (earlier between : Trace Unit) (atFlag atSteps : System Unit),
    Run Action.Plays (fresh {}) earlier atFlag ∧ Run Action.Plays atFlag between atSteps ∧
      atFlag.service.manager.ready = true ∧ between.registrations = ["cache"] ∧
      atSteps.service.manager.status = [⟨"config", true⟩, ⟨"cache", false⟩] := by
  have run : Run Action.Plays (fresh {} : System Unit) [] (fresh {}) := .nil _
  have run := run.snoc 0 (.begins (.register "config" prompt) rfl)
  have run := run.snoc 0 (.registers rfl rfl)
  have run := run.snoc 0 (.returns rfl)
  have run := run.snoc 0 (.begins .initializeAll rfl)
  have run := run.snoc 0 (.enters rfl rfl)
  have run := run.snoc 0 (.works rfl (.finds rfl rfl))
  have run := run.snoc 0 (.works rfl (.calls rfl rfl rfl))
  have run := run.snoc 0 (.works rfl (.ends rfl))
  have run := run.snoc 0 (.works rfl (.books rfl))
  have run := run.snoc 0 (.works rfl (.arrives rfl))
  exact ⟨_, _, _, _, run, ((Run.nil _).snoc 1 (.begins (.register "cache" prompt) rfl)).snoc 1
    (.registers rfl rfl), rfl, rfl, rfl⟩

theorem ready_response_while_registering : ∃ (between : Trace Unit) (readiness : Readiness),
    between.registrations = ["cache"] ∧ (Http.readinessResponse readiness).status = 200 ∧
      readiness.steps = [⟨"config", true⟩, ⟨"cache", false⟩] ∧
      ∃ known added, readiness.steps = known ++ added ∧
        (∀ status ∈ known, status.completed = true) ∧
        added.map StepStatus.name = between.registrations := by
  rcases exists_registering with ⟨_, between, atFlag, atSteps, reached, run, ready, named, listed⟩
  have status : (Http.readinessResponse (.gathered atFlag.service.manager
      atSteps.service.manager {})).status = 200 :=
    Http.readinessResponse_status_iff.mpr ready
  exact ⟨between, _, named, status, listed, (reached.ready_response_steps run {} rfl status).1⟩

/-- A step that is registered once the flag has been read is listed as pending beside it, so
a response of status 200 can list more than completed steps. -/
theorem pending_in_ready_response :
    ¬ ∀ (earlier between later : Trace Unit) (atFlag atSteps atSlots : System Unit),
      Run Action.Plays (fresh {}) earlier atFlag → Run Action.Plays atFlag between atSteps →
      Run Action.Plays atSteps later atSlots →
      (Http.readinessResponse (.gathered atFlag.service.manager atSteps.service.manager
        atSlots.service.world.context)).status = 200 →
      ∀ status ∈ (Readiness.gathered atFlag.service.manager atSteps.service.manager
        atSlots.service.world.context).steps, status.completed = true := by
  intro coherent
  rcases exists_registering with ⟨earlier, between, atFlag, atSteps, reached, run, ready, _, listed⟩
  have told := coherent earlier between [] atFlag atSteps atSteps reached run (.nil atSteps)
    (Http.readinessResponse_status_iff.mpr ready) ⟨"cache", false⟩
    (by simp [Readiness.gathered, listed])
  cases told

end System

end Bringup
