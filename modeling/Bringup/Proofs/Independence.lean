import Bringup.Proofs.Answers
import Bringup.Proofs.Meanwhile

namespace Bringup

/-! What threads keep to so that nobody can tell in which way they took turns.

There are two manners. Either the actions ask for nothing, and then threads may
register, execute, initialize and run as they like; or all that threads do is to
initialize, and then the actions may ask for what they like. -/

namespace Action

/-- Asks for nothing: how a call ends is told by its number alone. -/
def IsIndependent (action : Action) : Prop :=
  ∀ call, ∃ ending, action.script? call = some (.script [] ending)

theorem IsIndependent.requests_eq_nil {action : Action} (independent : action.IsIndependent)
    {call : Nat} {script : Script} (played : action.Plays call script) :
    script.requests = [] := by
  rcases independent call with ⟨ending, told⟩
  rw [Plays, told] at played
  cases played
  rfl

theorem isIndependent_plain (endings : Nat → Ending) : (plain endings).IsIndependent :=
  fun call => ⟨endings call, rfl⟩

end Action

inductive Manner where
  | independent
  | initializing
deriving DecidableEq

namespace Manner

/-- Which tasks threads may begin. -/
def Allows : Manner → Task α → Prop
  | independent, .register _ action => action.IsIndependent
  | independent, .exec _ action => action.IsIndependent
  | independent, .look _ => False
  | independent, _ => True
  | initializing, task => task = .initializeAll

/-- Which actions the steps may have. -/
def Suits : Manner → Action → Prop
  | independent, action => action.IsIndependent
  | initializing, _ => True

/-- What others may register while a thread holds the lock of execution. -/
def Admits : Manner → List (String × Action) → Prop
  | independent, _ => True
  | initializing, meanwhile => meanwhile = []

theorem admits_nil (manner : Manner) : manner.Admits [] := by
  cases manner
  · trivial
  · rfl

end Manner

/-! ## Keeping to a manner -/

namespace Manager

/-- All about the bookkeeping but how far the steps have come. -/
def outline (manager : Manager) : List (String × Nat) × List Action × Bool :=
  (manager.positions, manager.steps.map Step.action, manager.ready)

theorem outline_change (manager : Manager) (position : Nat) (transform : Step → Step)
    (keeps : ∀ step, (transform step).action = step.action) :
    (manager.change position transform).outline = manager.outline := by
  have actions : (manager.steps.modify position transform).map Step.action =
      manager.steps.map Step.action := by
    apply List.ext_getElem?
    intro other
    simp only [List.getElem?_map, List.getElem?_modify]
    cases manager.steps[other]? with
    | none => rfl
    | some step => by_cases here : position = other <;> simp [here, keeps]
  simp only [outline, change, actions]

@[simp] theorem outline_noteCall (manager : Manager) (position : Nat) :
    (manager.noteCall position).outline = manager.outline :=
  outline_change manager position Step.called fun _ => rfl

@[simp] theorem outline_markCompleted (manager : Manager) (position : Nat) :
    (manager.markCompleted position).outline = manager.outline :=
  outline_change manager position Step.complete fun _ => rfl

theorem outline_ready {first second : Manager} (alike : first.outline = second.outline) :
    first.ready = second.ready := congrArg (·.2.2) alike

theorem outline_positions {first second : Manager} (alike : first.outline = second.outline) :
    first.positions = second.positions := congrArg Prod.fst alike

theorem enlist_outline {first second : Manager} (alike : first.outline = second.outline)
    (name : String) (action : Action) :
    (first.enlist name action).outline = (second.enlist name action).outline := by
  have positions := outline_positions alike
  have actions : first.steps.map Step.action = second.steps.map Step.action :=
    congrArg (·.2.1) alike
  have count : first.steps.length = second.steps.length := by
    simpa using congrArg List.length actions
  have known : first.position? name = second.position? name := by
    rw [position?, position?, positions]
  cases taken : second.position? name with
  | none =>
      rw [enlist_of_free (known.trans taken), enlist_of_free taken]
      simp [outline, positions, actions, count]
  | some other => rw [enlist_of_taken (known.trans taken), enlist_of_taken taken, alike]

end Manager

@[simp] theorem Outcome.outline_mark (outcome : Outcome) (manager : Manager) (position : Nat) :
    (outcome.mark manager position).outline = manager.outline := by
  cases outcome with
  | succeeded => exact manager.outline_markCompleted position
  | failed | panicked => rfl

theorem Happening.Effect.keeps_outline {happening : Happening α} {before after : Manager}
    (effect : happening.Effect before after) (steady : happening.isTurn = false) :
    after.outline = before.outline := by
  cases happening with
  | registered | walked | stopped => cases steady
  | called position => cases effect; exact before.outline_noteCall position
  | completed position => cases effect; exact before.outline_markCompleted position
  | began | rejected | ended | returned | silent => cases effect; rfl

namespace Manner

def SuitsAll (manner : Manner) (manager : Manager) : Prop :=
  ∀ step ∈ manager.steps, manner.Suits step.action

theorem SuitsAll.of_outline {manner : Manner} {before after : Manager}
    (suits : manner.SuitsAll before) (alike : after.outline = before.outline) :
    manner.SuitsAll after := by
  intro step member
  have actions : after.steps.map Step.action = before.steps.map Step.action :=
    congrArg (·.2.1) alike
  have found : step.action ∈ before.steps.map Step.action := by
    rw [← actions]
    exact List.mem_map_of_mem member
  rcases List.mem_map.mp found with ⟨other, stands, same⟩
  rw [← same]
  exact suits other stands

theorem SuitsAll.push {manner : Manner} {manager next : Manager} {name : String}
    {action : Action} (suits : manner.SuitsAll manager) (suitable : manner.Suits action)
    (pushed : manager.push name action = .ok next) : manner.SuitsAll next := by
  rw [(Manager.push_eq_ok pushed).2]
  intro step member
  rcases List.mem_append.mp member with earlier | appended
  · exact suits step earlier
  · cases List.mem_singleton.mp appended
    exact suitable

theorem SuitsAll.enlist {manner : Manner} {manager : Manager} {action : Action}
    (suits : manner.SuitsAll manager) (suitable : manner.Suits action) (name : String) :
    manner.SuitsAll (manager.enlist name action) := by
  unfold Manager.enlist
  split
  · rename_i pushed
    exact suits.push suitable pushed
  · exact suits

theorem suitsAll_initializing (manager : Manager) : initializing.SuitsAll manager :=
  fun _ _ => trivial

/-- What holds at all times while threads keep to a manner. -/
structure Governs (manner : Manner) (system : System α) : Prop where
  suits : manner.SuitsAll system.service.manager
  allows : ∀ {thread task}, (system.place thread).task? = some task → manner.Allows task
  quiet : ∀ {thread task phase}, system.place thread = .holding task phase →
    manner = .independent → phase.AsksNothing

end Manner

/-! ## The holder of the lock -/

/-- Calls of independent actions never ask for anything. -/
theorem Phase.Step.asksNothing {task : Task α} {service next : Service} {phase later : Phase}
    {happening : Happening α}
    (step : Phase.Step Action.Plays task service phase happening next later)
    (suits : Manner.independent.SuitsAll service.manager) (quiet : phase.AsksNothing) :
    later.AsksNothing := by
  have proceeds : ∀ position finish, (task.proceed position finish).AsksNothing := by
    intro position finish
    unfold Task.proceed
    split <;> trivial
  cases step with
  | accepts | refuses | passes | finds | arrives | ends | stops => trivial
  | skips | books => exact proceeds _ _
  | calls stands pending played =>
      exact (suits _ (List.mem_of_getElem? stands)).requests_eq_nil played
  | asks left replied =>
      rw [show _ = [] from quiet] at left
      cases left

theorem Phase.Step.suits {manner : Manner} {task : Task α} {service next : Service}
    {phase later : Phase} {happening : Happening α}
    (step : Phase.Step Action.Plays task service phase happening next later)
    (fits : phase.Fits task service.manager) (suits : manner.SuitsAll service.manager)
    (allowed : manner.Allows task) (quiet : manner = .independent → phase.AsksNothing) :
    manner.SuitsAll next.manager := by
  cases manner with
  | initializing => exact Manner.suitsAll_initializing _
  | independent =>
      have effect := step.effect
      cases step with
      | accepts pushed =>
          cases fits
          exact suits.push allowed (Service.push_manager pushed)
      | asks left replied =>
          rw [show _ = [] from quiet rfl] at left
          cases left
      | refuses | passes | finds | skips | ends | arrives | stops => exact suits
      | calls => exact suits.of_outline (effect.keeps_outline rfl)
      | @books _ position name outcome finish booked =>
          refine suits.of_outline (effect.keeps_outline ?_)
          cases outcome <;> rfl


/-! ## All threads -/

namespace Manner

variable {manner : Manner} {system next : System α} {thread : Nat} {happening : Happening α}

theorem Governs.put {service : Service} {holder : Option Nat} {place : Place α}
    (governs : manner.Governs system) (suits : manner.SuitsAll service.manager)
    (allows : ∀ task, place.task? = some task → manner.Allows task)
    (quiet : ∀ task phase, place = .holding task phase →
      manner = .independent → phase.AsksNothing) :
    manner.Governs ({ system with service, holder }.put thread place) where
  suits := suits
  allows {other task} at_ := by
    by_cases same : other = thread
    · rw [same, System.put_same] at at_
      exact allows task at_
    · rw [System.put_other _ _ same] at at_
      exact governs.allows at_
  quiet {other task phase} holding := by
    by_cases same : other = thread
    · rw [same, System.put_same] at holding
      exact quiet task phase holding
    · rw [System.put_other _ _ same] at holding
      exact governs.quiet holding

theorem Governs.step (governs : manner.Governs system) (sound : system.Sound)
    (step : System.Step Action.Plays system thread happening next)
    (allowed : ∀ task, happening = .began task → manner.Allows task) :
    manner.Governs next := by
  have stays : ∀ {task} {place : Place α}, (system.place thread).task? = some task →
      place.task? = some task → ∀ other, place.task? = some other → manner.Allows other := by
    intro task place here there other same
    rw [there] at same
    cases same
    exact governs.allows here
  cases step with
  | begins task idle =>
      refine governs.put governs.suits ?_ ?_
      · intro other same
        rw [Place.task?_start] at same
        cases same
        exact allowed task rfl
      · intro other phase holding
        cases task <;> cases holding
  | @registers name action result service beginning registered =>
      refine governs.put ?_ (stays (by rw [beginning]; rfl) rfl)
        (by intro _ _ holding; cases holding)
      have may := governs.allows (by rw [beginning]; rfl)
      cases manner with
      | initializing => exact suitsAll_initializing _
      | independent =>
          have admitted := governs.suits.enlist may name
          rw [← Service.register_manager, registered] at admitted
          exact admitted
  | looks beginning =>
      exact governs.put governs.suits (stays (by rw [beginning]; rfl) rfl)
        (by intro _ _ holding; cases holding)
  | findsReady beginning ready =>
      exact governs.put governs.suits (stays (by rw [beginning]; rfl) rfl)
        (by intro _ _ holding; cases holding)
  | findsUnready beginning unready =>
      exact governs.put governs.suits (stays (by rw [beginning]; rfl) rfl)
        (by intro _ _ holding; cases holding)
  | enters waiting free =>
      refine governs.put governs.suits (stays (by rw [waiting]; rfl) rfl) ?_
      intro task phase holding
      cases holding
      have opens := sound.opens waiting
      rename_i phase
      cases phase with
      | acting => cases opens
      | registering | visiting | starting | booking | stopping | leaving =>
          exact fun _ => trivial
  | works holding worked =>
      have may := governs.allows (by rw [holding]; rfl)
      refine governs.put
        (worked.suits (sound.fits holding) governs.suits may (governs.quiet holding))
        (stays (by rw [holding]; rfl) rfl) ?_
      intro task phase same manner
      cases same
      subst manner
      exact worked.asksNothing governs.suits (governs.quiet holding rfl)
  | leaves holding =>
      refine governs.put ?_ (stays (by rw [holding]; rfl) (Place.task?_after _ _)) ?_
      · rw [Service.report_manager]
        exact governs.suits
      · intro task phase same
        unfold Task.after at same
        split at same <;> cases same
  | applies applying =>
      exact governs.put governs.suits (stays (by rw [applying]; rfl) rfl)
        (by intro _ _ holding; cases holding)
  | returns answering =>
      exact governs.put governs.suits (by intro _ none; cases none)
        (by intro _ _ holding; cases holding)

end Manner

end Bringup
