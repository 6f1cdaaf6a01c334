import Bringup.Proofs.Furnishing

namespace Bringup

/-! What one walk does.

The list of steps grows while it is walked, and steps completed by other tasks are scattered
in it. At every position that a walk comes to, its calls so far were those of the steps before
that position that it found pending, in order (`Service.Visited`). So the calls of a whole walk
follow from the list at its end and from what was completed at its start
(`Service.initializeAll_accomplished`). -/

namespace Manager

def isDone (manager : Manager) (position : Nat) : Bool :=
  manager.completed? position == some true

def due (manager : Manager) (bound : Nat) : List Nat :=
  (List.range bound).filter fun position => !manager.isDone position

def roster (manager : Manager) : List (String × Action) :=
  manager.steps.map fun step => (step.name, step.action)

variable {manager : Manager} {position : Nat} {step : Step}

theorem isDone_of_stands (stands : manager.steps[position]? = some step) :
    manager.isDone position = step.completed := by
  rw [isDone, completed?_of_stands stands]
  cases step.completed <;> rfl

theorem due_succ (manager : Manager) (position : Nat) :
    manager.due (position + 1) =
      manager.due position ++ if manager.isDone position then [] else [position] := by
  rw [due, List.range_succ, List.filter_append]
  cases done : manager.isDone position <;> simp [due, done]

theorem due_prefix {first second : Nat} (le : first ≤ second) :
    manager.due first <+: manager.due second := by
  induction le with
  | refl => exact List.prefix_refl _
  | step _ induction =>
      apply induction.trans
      rw [due_succ]
      exact List.prefix_append _ _

theorem roster_of_stands (stands : manager.steps[position]? = some step) :
    manager.roster[position]? = some (step.name, step.action) := by
  simp [roster, stands]

/-! ## Registering and calling -/

theorem isDone_enlist (manager : Manager) (name : String) (action : Action) :
    (manager.enlist name action).isDone = manager.isDone := by
  cases known : manager.position? name with
  | some position => rw [enlist_of_taken known]
  | none =>
      funext position
      have pushed : manager.push name action = .ok (manager.enlist name action) := by
        rw [enlist_of_free known]
        simp [push, known]
      rw [isDone, completed?_push pushed]
      split
      · rename_i here
        have past : manager.completed? position = none := by
          rw [completed?_eq_none, here]
          exact List.getElem?_eq_none (Nat.le_refl _)
        rw [isDone, past]
        rfl
      · rfl

theorem isDone_enlistAll (manager : Manager) (meanwhile : List (String × Action)) :
    (manager.enlistAll meanwhile).isDone = manager.isDone := by
  induction meanwhile generalizing manager with
  | nil => rfl
  | cons registration rest induction => rw [enlistAll, induction, isDone_enlist]

/-- A call makes a difference to its own step only, and only if it succeeds. -/
theorem isDone_settle (stands : manager.steps[position]? = some step) (outcome : Outcome)
    (other : Nat) :
    (manager.change position outcome.settle).isDone other =
      (manager.isDone other || (other == position && outcome.isSuccess)) := by
  by_cases here : other = position
  · subst other
    have settled : (manager.change position outcome.settle).steps[position]? =
        some (outcome.settle step) := by
      simp [change, stands]
    rw [isDone_of_stands settled, isDone_of_stands stands, beq_self_eq_true, Bool.true_and]
    rfl
  · have unsettled : (manager.change position outcome.settle).completed? other =
        manager.completed? other := by
      simp [completed?, change, Ne.symm here]
    rw [isDone, unsettled, beq_eq_false_iff_ne.mpr here, Bool.false_and, Bool.or_false]
    rfl

theorem roster_enlist (manager : Manager) (name : String) (action : Action) :
    manager.roster <+: (manager.enlist name action).roster := by
  cases known : manager.position? name with
  | some position => simp [enlist_of_taken known]
  | none =>
      rw [enlist_of_free known, roster, roster, List.map_append]
      exact List.prefix_append _ _

theorem roster_enlistAll (manager : Manager) (meanwhile : List (String × Action)) :
    manager.roster <+: (manager.enlistAll meanwhile).roster := by
  induction meanwhile generalizing manager with
  | nil => exact List.prefix_refl _
  | cons registration rest induction =>
      exact (manager.roster_enlist _ _).trans (induction _)

theorem roster_change (manager : Manager) (position : Nat) {transform : Step → Step}
    (keeps : ∀ step, (transform step).name = step.name ∧
      (transform step).action = step.action) :
    (manager.change position transform).roster = manager.roster := by
  apply List.ext_getElem?
  intro other
  simp only [roster, change, List.getElem?_map, List.getElem?_modify]
  cases manager.steps[other]? with
  | none => rfl
  | some step => by_cases here : position = other <;> simp [here, keeps]

end Manager

namespace Outcome

def finish (name : String) : Outcome → Finish (Except InitError Unit)
  | succeeded => .returned (.ok ())
  | failed cause => .returned (.error (.step name cause))
  | panicked message => .panicked message

variable {name : String} {outcome : Outcome}

theorem of_finish_ok (finished : outcome.finish name = .returned (.ok ())) :
    outcome = .succeeded := by
  cases outcome <;> cases finished
  rfl

theorem of_finish_error {fault : InitError}
    (finished : outcome.finish name = .returned (.error fault)) :
    ∃ cause, outcome = .failed cause ∧ fault = .step name cause := by
  cases outcome <;> cases finished
  exact ⟨_, rfl, rfl⟩

theorem of_finish_panicked {message : String}
    (finished : outcome.finish name = .panicked message) : outcome = .panicked message := by
  cases outcome <;> cases finished
  rfl

end Outcome

namespace Trial

variable {trial : Trial}

theorem of_ran (trial : Trial) {next : Service} {finish : Finish (Except InitError Unit)}
    (ran : trial.service.runStep trial.position trial.step = (finish, next)) :
    trial.outcome.finish trial.step.name = finish ∧ trial.after = next := by
  refine ⟨?_, congrArg Prod.snd ran⟩
  apply Eq.trans _ (congrArg Prod.fst ran)
  rw [runStep_eq]
  cases trial.outcome <;> rfl

theorem after_isDone (stands : trial.service.manager.steps[trial.position]? = some trial.step)
    (other : Nat) :
    trial.after.manager.isDone other = (trial.service.manager.isDone other ||
      (other == trial.position && trial.outcome.isSuccess)) := by
  have inside := (List.getElem?_eq_some_iff.mp stands).1
  rcases trial.after_manager_change inside with ⟨meanwhile, manager⟩
  rw [manager, Manager.isDone_settle (Manager.enlistAll_stands stands _),
    Manager.isDone_enlistAll]

theorem after_roster (inside : trial.position < trial.service.manager.steps.length) :
    trial.service.manager.roster <+: trial.after.manager.roster := by
  rcases trial.after_manager_change inside with ⟨meanwhile, manager⟩
  have settled : ∀ step, (trial.outcome.settle step).name = step.name ∧
      (trial.outcome.settle step).action = step.action := fun _ => ⟨rfl, rfl⟩
  rw [manager, Manager.roster_change _ _ settled]
  exact Manager.roster_enlistAll _ _

end Trial

namespace Service

variable {first service : Service} {trials : List Trial} {position : Nat} {step : Step}

/-! ## The position of a walk -/

/-- Calls of registered steps lead from one service to another, and no step changes its
place. -/
structure Follows (first : Service) (trials : List Trial) (last : Service) : Prop where
  trail : Trail False first trials last
  grown : first.manager.roster <+: last.manager.roster
  stood : ∀ trial ∈ trials,
    last.manager.roster[trial.position]? = some (trial.step.name, trial.step.action)

theorem Follows.asides {last : Service} (follows : first.Follows trials service)
    (same : last.core = service.core) : first.Follows trials last := by
  have roster : last.manager.roster = service.manager.roster := by
    rw [Manager.roster, core_steps same]
    rfl
  constructor
  · exact follows.trail.asides same
  · rw [roster]
    exact follows.grown
  · rw [roster]
    exact follows.stood

theorem Follows.call {trial : Trial} (follows : first.Follows trials trial.service)
    (stands : trial.service.manager.steps[trial.position]? = some trial.step)
    (pending : trial.step.completed = false) :
    first.Follows (trials ++ [trial]) trial.after := by
  have grown := Trial.after_roster (List.getElem?_eq_some_iff.mp stands).1
  refine ⟨follows.trail.runs stands pending, follows.grown.trans grown, ?_⟩
  intro called member
  rcases List.mem_append.mp member with earlier | last
  · exact getElem?_of_grown grown (follows.stood called earlier)
  · cases List.mem_singleton.mp last
    exact getElem?_of_grown grown (Manager.roster_of_stands stands)

theorem Follows.inside {trial : Trial} (follows : first.Follows trials service)
    (member : trial ∈ trials) : trial.position < service.manager.steps.length := by
  have stands := (List.getElem?_eq_some_iff.mp (follows.stood trial member)).1
  rwa [Manager.roster, List.length_map] at stands

/-- A walk has come to a position: it has called the actions of the steps before it that it
found pending, and all calls succeeded. -/
structure Visited (first : Service) (trials : List Trial) (position : Nat)
    (service : Service) : Prop where
  follows : first.Follows trials service
  called : trials.map Trial.position = first.manager.due position
  succeeded : ∀ trial ∈ trials, trial.outcome = .succeeded
  done : ∀ other, service.manager.isDone other =
    (decide (other < position) || first.manager.isDone other)

theorem Visited.start (service : Service) : service.Visited [] 0 service where
  follows := ⟨.nil, List.prefix_refl _, fun _ member => by cases member⟩
  called := rfl
  succeeded trial member := by cases member
  done other := by simp

/-- A walk itself has not completed the step that it has come to. -/
theorem Visited.isDone_here (visited : first.Visited trials position service) :
    first.manager.isDone position = service.manager.isDone position := by
  simp [visited.done]

theorem Visited.pass (visited : first.Visited trials position service)
    (done : service.manager.isDone position = true) :
    first.Visited trials (position + 1) service where
  follows := visited.follows
  called := by
    rw [visited.called, Manager.due_succ, visited.isDone_here, done]
    exact (List.append_nil _).symm
  succeeded := visited.succeeded
  done other := by
    rw [visited.done]
    by_cases here : other = position
    · subst other
      simp [visited.isDone_here, done]
    · have same : other < position ↔ other < position + 1 := by omega
      rw [decide_eq_decide.mpr same]

section

variable {trial : Trial} (visited : first.Visited trials trial.position trial.service)
  (stands : trial.service.manager.steps[trial.position]? = some trial.step)

include visited stands

theorem Visited.called_call (pending : trial.step.completed = false) :
    (trials ++ [trial]).map Trial.position = first.manager.due (trial.position + 1) := by
  have undone := visited.isDone_here.trans (Manager.isDone_of_stands stands)
  rw [List.map_append, visited.called, Manager.due_succ, undone, pending]
  rfl

/-- A call that does not succeed completes nothing. -/
theorem Visited.done_failure (failed : trial.outcome.isSuccess = false) (other : Nat) :
    trial.after.manager.isDone other =
      (decide (other < trial.position) || first.manager.isDone other) := by
  rw [Trial.after_isDone stands, failed, Bool.and_false, Bool.or_false, visited.done]

theorem Visited.success (pending : trial.step.completed = false)
    (succeeded : trial.outcome = .succeeded) :
    first.Visited (trials ++ [trial]) (trial.position + 1) trial.after where
  follows := visited.follows.call stands pending
  called := visited.called_call stands pending
  succeeded called member := by
    rcases List.mem_append.mp member with earlier | last
    · exact visited.succeeded called earlier
    · cases List.mem_singleton.mp last
      exact succeeded
  done other := by
    rw [Trial.after_isDone stands, visited.done, succeeded]
    by_cases here : other = trial.position
    · simp [here, Outcome.isSuccess]
    · have same : other < trial.position ↔ other < trial.position + 1 := by omega
      simp [here, same]

end

/-! ## The end of a walk -/

/-- What a walk has accomplished when it finishes.

If it comes to the end of the list, everything is completed, the flag of readiness is set, and
the walk has called the action of each step exactly once, in order, but for the steps that were
completed before. If it fails, then at the first step whose action fails when it is called:
until there it has done the same, everything else is as far as it was, and the flag is
cleared. -/
def Accomplished (first last : Service) (trials : List Trial) :
    Finish (Except InitError Unit) → Prop
  | .returned (.ok ()) =>
      (∀ step ∈ last.manager.steps, step.completed = true) ∧ last.manager.ready = true ∧
        trials.map Trial.position = first.manager.due last.manager.steps.length ∧
        ∀ trial ∈ trials, trial.outcome = .succeeded
  | .returned (.error fault) => ∃ earlier trial cause,
      trials = earlier ++ [trial] ∧ (∀ called ∈ earlier, called.outcome = .succeeded) ∧
        trial.outcome = .failed cause ∧ fault = .step trial.step.name cause ∧
        trials.map Trial.position = first.manager.due (trial.position + 1) ∧
        (∀ other, last.manager.isDone other =
          (decide (other < trial.position) || first.manager.isDone other)) ∧
        last.manager.ready = false
  | .panicked message => ∃ trial ∈ trials, trial.outcome = .panicked message

/-- A walk that has come to the end of the list has come past completed steps only. -/
theorem Visited.doneBelow (visited : first.Visited trials position service) :
    service.manager.DoneBelow position := by
  intro earlier less
  have done := visited.done earlier
  rw [decide_eq_true less, Bool.true_or] at done
  exact beq_iff_eq.mp done

theorem Visited.arrive (visited : first.Visited trials position service)
    (past : service.manager.steps[position]? = none) :
    first.Accomplished ((service.setReady true).log (.bootstrapComplete position)) trials
      (.returned (.ok ())) := by
  have length := visited.doneBelow.eq_length past
  refine ⟨?_, rfl, ?_, visited.succeeded⟩
  · intro step member
    rcases List.mem_iff_getElem?.mp member with ⟨place, stands⟩
    have stood : service.manager.steps[place]? = some step := stands
    have before : place < position := by
      rw [length]
      exact (List.getElem?_eq_some_iff.mp stood).1
    have done := visited.doneBelow place before
    rw [Manager.completed?_of_stands stood] at done
    exact Option.some.inj done
  · rw [visited.called, length]
    rfl

/-- How a walk ends: it comes past the end of the list, or the call of the step that it has come
to fails or panics. -/
inductive Comes (first : Service) : Walked → Prop
  | arrives {trials : List Trial} {position : Nat} {service : Service}
      (visited : first.Visited trials position service)
      (past : service.manager.steps[position]? = none) :
      Comes first
        (.returned (.ok ()), (service.setReady true).log (.bootstrapComplete position))
  | stops {earlier : List Trial} {trial : Trial} {cause : Cause}
      (visited : first.Visited earlier trial.position trial.service)
      (stands : trial.service.manager.steps[trial.position]? = some trial.step)
      (pending : trial.step.completed = false) (failed : trial.outcome = .failed cause) :
      Comes first
        (.returned (.error (.step trial.step.name cause)), trial.after.setReady false)
  | panics {earlier : List Trial} {trial : Trial} {message : String}
      (visited : first.Visited earlier trial.position trial.service)
      (stands : trial.service.manager.steps[trial.position]? = some trial.step)
      (pending : trial.step.completed = false)
      (panicked : trial.outcome = .panicked message) :
      Comes first (.panicked message, trial.after)

theorem walk_comes (visited : first.Visited trials position service) :
    first.Comes (service.walk position) := by
  fun_induction walk service position generalizing trials with
  | case1 service position past => exact .arrives visited past
  | case2 service position step stands done induction =>
      apply induction
      apply visited.pass
      exact (Manager.isDone_of_stands stands).trans done
  | case3 service position step stands pending message next ran =>
      let trial : Trial := ⟨service, position, step⟩
      have unmet : trial.step.completed = false := by simpa using pending
      rcases trial.of_ran ran with ⟨finished, rfl⟩
      exact .panics visited stands unmet (Outcome.of_finish_panicked finished)
  | case4 service position step stands pending fault next ran =>
      let trial : Trial := ⟨service, position, step⟩
      have unmet : trial.step.completed = false := by simpa using pending
      rcases trial.of_ran ran with ⟨finished, rfl⟩
      rcases Outcome.of_finish_error finished with ⟨cause, failed, rfl⟩
      exact .stops visited stands unmet failed
  | case5 service position step stands pending next ran induction =>
      let trial : Trial := ⟨service, position, step⟩
      have unmet : trial.step.completed = false := by simpa using pending
      rcases trial.of_ran ran with ⟨finished, rfl⟩
      exact induction (visited.success stands unmet (Outcome.of_finish_ok finished))

/-- A call that does not succeed was of a step that was due. -/
theorem Visited.stopped {earlier : List Trial} {trial : Trial}
    (visited : first.Visited earlier trial.position trial.service)
    (stands : trial.service.manager.steps[trial.position]? = some trial.step)
    (pending : trial.step.completed = false) :
    (earlier ++ [trial]).map Trial.position <+:
      first.manager.due trial.after.manager.steps.length := by
  have follows := visited.follows.call stands pending
  rw [visited.called_call stands pending]
  exact Manager.due_prefix (follows.inside (List.mem_append_right _ (.head _)))

/-- Whatever comes of a walk, it calls the steps that are due in order, and all of them if their
calls succeed. -/
theorem Comes.due {walked : Walked} (comes : first.Comes walked) :
    ∃ trials, first.Follows trials walked.2 ∧
      trials.map Trial.position <+: first.manager.due walked.2.manager.steps.length ∧
      (trials = [] → first.manager.due walked.2.manager.steps.length = []) ∧
      ((∀ trial ∈ trials, trial.outcome = .succeeded) →
        walked.1 = .returned (.ok ()) ∧ walked.2.manager.ready = true ∧
        ∀ step ∈ walked.2.manager.steps, step.completed = true) := by
  cases comes with
  | @arrives trials position service visited past =>
      rcases visited.arrive past with ⟨completed, ready, called, _⟩
      have follows : first.Follows trials
          ((service.setReady true).log (.bootstrapComplete position)) :=
        visited.follows.asides ((log_core _ _).trans (setReady_core service true))
      refine ⟨trials, follows, ?_, ?_, fun _ => ⟨rfl, ready, completed⟩⟩
      · exact called.symm ▸ List.prefix_refl _
      · rintro rfl
        exact called.symm
  | @stops earlier trial cause visited stands pending failed =>
      have follows := (visited.follows.call stands pending).asides
        (setReady_core trial.after false)
      refine ⟨_, follows, visited.stopped stands pending, by simp, fun succeeded => ?_⟩
      have contrary := succeeded trial (List.mem_append_right _ (.head _))
      rw [failed] at contrary
      cases contrary
  | @panics earlier trial message visited stands pending panicked =>
      have follows := visited.follows.call stands pending
      refine ⟨_, follows, visited.stopped stands pending, by simp, fun succeeded => ?_⟩
      have contrary := succeeded trial (List.mem_append_right _ (.head _))
      rw [panicked] at contrary
      cases contrary

theorem walk_accomplished (visited : first.Visited trials position service) :
    ∃ all, first.Follows all (service.walk position).2 ∧
      first.Accomplished (service.walk position).2 all (service.walk position).1 := by
  have comes := walk_comes visited
  generalize service.walk position = walked at comes ⊢
  cases comes with
  | @arrives trials position service visited past =>
      refine ⟨trials, visited.follows.asides ?_, visited.arrive past⟩
      exact (log_core _ _).trans (setReady_core service true)
  | @stops earlier trial cause visited stands pending failed =>
      have called := visited.follows.call stands pending
      have unsuccessful : trial.outcome.isSuccess = false := by
        rw [failed]
        rfl
      exact ⟨_, called.asides (setReady_core _ _), earlier, trial, cause, rfl, visited.succeeded,
        failed, rfl, visited.called_call stands pending,
        visited.done_failure stands unsuccessful, rfl⟩
  | @panics earlier trial message visited stands pending panicked =>
      exact ⟨_, visited.follows.call stands pending, trial, List.mem_append_right _ (.head _),
        panicked⟩

/-- Whatever was registered and completed before, and whatever the actions ask for: a call that
initializes does what `Accomplished` says. Its calls are the ones that the journal tells, each
is a call of the step that stands at its position to the end, and the steps registered
meanwhile stand behind those that were there. -/
theorem initializeAll_accomplished (service : Service) :
    ∃ trials,
      service.Accomplished service.initializeAll.2 trials service.initializeAll.1 ∧
      service.initializeAll.2.world.journal.calls =
        service.world.journal.calls ++ trials.map Trial.call ∧
      service.Follows trials service.initializeAll.2 := by
  rcases walk_accomplished (.start service) with ⟨trials, follows, accomplished⟩
  exact ⟨trials, accomplished, follows.trail.calls, follows⟩

end Service

end Bringup
