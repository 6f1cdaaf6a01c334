import Bringup.Proofs.Accounts
import Bringup.Proofs.Milestones

namespace Bringup

/-! One call of an action.

A call is kept together with the service as the call found it (`Trial`), so that what it read
and wrote can be compared with what is there later. A call registers scripts at most
(`Trial.called_manager`), and it fills the slot of its action or leaves the context as it is
(`Trial.called_context`). -/

namespace Action

def slot? : Action → Option Slot
  | .stage work => work.slot?
  | .scripted _ | .plain _ => none

def GoesBy (name : String) : Action → Prop
  | .stage work => name = work.name
  | .scripted _ | .plain _ => True

end Action

namespace Context

def Keeps (before after : Context) : Prop :=
  ∀ slot, before.isFilled slot = true → after.AgreesAt before slot

theorem Keeps.refl (context : Context) : context.Keeps context :=
  fun slot _ => .refl context slot

theorem Keeps.trans {first second third : Context} (earlier : first.Keeps second)
    (later : second.Keeps third) : first.Keeps third := by
  intro slot filled
  have agrees := earlier slot filled
  exact (later slot (agrees.isFilled_eq.trans filled)).trans agrees

theorem Gains.keeps {gained : Slot} {before after : Context}
    (gains : Gains gained before after) : before.Keeps after := by
  intro slot filled
  refine gains.others slot fun same => ?_
  rw [same, gains.empty] at filled
  cases filled

end Context

namespace World

theorem publish_keeps {world : World} {result : Except ContextError Context} {slot : Slot}
    (set : ∀ next, result = .ok next → Context.Gains slot world.context next) :
    world.context.Keeps (world.publish result).2.context := by
  cases result with
  | error fault => exact .refl _
  | ok next => exact (set next rfl).keeps

end World

theorem World.installExporter_calls (world : World) (address : SocketAddress) :
    (world.installExporter address).2.journal.calls = world.journal.calls := by
  unfold installExporter
  split
  · rfl
  · split <;> simp [record, recordAll, Journal.calls]

theorem Journal.Adds.calls {stage : Stage} {first second : Journal}
    (adds : Adds stage.writes first second) : second.calls = first.calls := by
  rcases adds with ⟨entries, rfl, writes⟩
  have none : Journal.calls entries = [] := by
    refine List.filterMap_eq_nil_iff.mpr fun entry member => ?_
    have written := writes entry member
    cases entry <;> first | rfl | (cases stage <;> cases written)
  rw [Journal.calls_append, none, List.append_nil]

/-! ## A call -/

/-- A call of the action of a step that stands at a position, with the service that the call
finds. -/
structure Trial where
  service : Service
  position : Nat
  step : Step

namespace Trial

def called (trial : Trial) : (List Reply × Outcome) × Service :=
  (trial.service.beginCall trial.position trial.step).callAction trial.step.action
    trial.step.calls

def outcome (trial : Trial) : Outcome := trial.called.1.2

def call (trial : Trial) : Call :=
  ⟨trial.step.name, trial.step.calls + 1, trial.called.1.1, trial.outcome⟩

def after (trial : Trial) : Service := (trial.service.runStep trial.position trial.step).2

theorem runStep_eq (trial : Trial) :
    trial.service.runStep trial.position trial.step =
      (trial.called.2.endCall trial.step trial.called.1.1 trial.outcome).book trial.position
        trial.step.name trial.outcome := rfl

@[simp] theorem after_manager (trial : Trial) :
    trial.after.manager = trial.outcome.mark trial.called.2.manager trial.position := by
  rw [after, runStep_eq, Service.book_manager, Service.endCall_manager]

@[simp] theorem after_context (trial : Trial) :
    trial.after.world.context = trial.called.2.world.context := by
  rw [after, runStep_eq]
  cases trial.outcome <;> rfl

theorem after_calls (trial : Trial) :
    trial.after.world.journal.calls = trial.called.2.world.journal.calls ++ [trial.call] := by
  rw [after, runStep_eq, Service.book_calls, Service.endCall_calls]
  rfl

end Trial

namespace Service

theorem push_context {service next : Service} {name : String} {action : Action}
    (pushed : service.push name action = .ok next) :
    next.world.context = service.world.context := by
  unfold push at pushed
  split at pushed <;> cases pushed
  rfl

@[simp] theorem register_context (service : Service) (name : String) (action : Action) :
    (service.register name action).2.world.context = service.world.context := by
  unfold register push
  cases service.manager.push name action <;> rfl

def enlisted (meanwhile : List (String × List Script)) : List (String × Action) :=
  meanwhile.map fun entry => (entry.1, .scripted entry.2)

/-- A service in which an action has registered scripts, and nothing else has changed but the
log. -/
structure Extends (service next : Service) (meanwhile : List (String × List Script)) : Prop where
  manager : next.manager = service.manager.enlistAll (enlisted meanwhile)
  context : next.world.context = service.world.context
  calls : next.world.journal.calls = service.world.journal.calls

theorem Extends.refl (service : Service) : service.Extends service [] := ⟨rfl, rfl, rfl⟩

theorem Extends.trans {first second third : Service} {earlier later : List (String × List Script)}
    (begun : first.Extends second earlier) (further : second.Extends third later) :
    first.Extends third (earlier ++ later) := by
  refine ⟨?_, further.context.trans begun.context, further.calls.trans begun.calls⟩
  rw [further.manager, begun.manager, ← Manager.enlistAll_append, enlisted, enlisted, enlisted,
    List.map_append]

theorem reply_extends (service : Service) (request : Request) :
    ∃ meanwhile, service.Extends (service.reply request).2 meanwhile := by
  cases request with
  | register name runs isRequired =>
      have extended : service.Extends (service.register name (.scripted runs)).2 [(name, runs)] :=
        ⟨register_manager _ _ _, register_context _ _ _, register_calls _ _ _⟩
      unfold reply
      simp only
      split <;> rename_i found <;> rw [found] at extended <;> exact ⟨_, extended⟩
  | isInitialized | isReady | status => exact ⟨[], .refl service⟩

theorem answer_extends (service : Service) (requests : List Request) :
    ∃ meanwhile, service.Extends (service.answer requests).2 meanwhile := by
  fun_induction answer service requests with
  | case1 service => exact ⟨[], .refl service⟩
  | case2 service request rest reply fault next replied =>
      have first := service.reply_extends request
      rwa [replied] at first
  | case3 service request rest reply next replied replies rejected last answered induction =>
      have first := service.reply_extends request
      rw [replied] at first
      rw [answered] at induction
      rcases first with ⟨earlier, begun⟩
      rcases induction with ⟨later, further⟩
      exact ⟨earlier ++ later, begun.trans further⟩

end Service

namespace Trial

def fills (trial : Trial) (slot : Slot) : Bool :=
  trial.outcome.isSuccess && trial.step.action.slot? == some slot

def begun (trial : Trial) : Service := trial.service.beginCall trial.position trial.step

variable {trial : Trial}

theorem called_of_script {script : Script}
    (told : trial.step.action.script? trial.step.calls = some script) :
    ∃ meanwhile, trial.begun.Extends trial.called.2 meanwhile := by
  rw [called, Service.callAction_of_script told]
  exact trial.begun.answer_extends script.requests

theorem called_of_stage {stage : Stage} (runs : trial.step.action = .stage stage)
    {outcome : Outcome} {world : World}
    (attempted : trial.begun.world.attempt stage = (outcome, world)) :
    trial.called = (([], outcome), { trial.begun with world }) := by
  rw [called, runs, Service.callAction]
  simp only [begun] at attempted
  rw [attempted]
  rfl

/-- A call registers scripts at most, and calls nothing itself. -/
theorem called_manager (trial : Trial) :
    ∃ meanwhile, trial.called.2.manager =
        (trial.service.manager.noteCall trial.position).enlistAll (Service.enlisted meanwhile) ∧
      trial.called.2.world.journal.calls = trial.service.world.journal.calls := by
  have begun : trial.begun.world.journal.calls = trial.service.world.journal.calls :=
    Service.beginCall_calls _ _ _
  cases told : trial.step.action.script? trial.step.calls with
  | some script =>
      rcases called_of_script told with ⟨meanwhile, extended⟩
      exact ⟨meanwhile, extended.manager, extended.calls.trans begun⟩
  | none =>
      cases runs : trial.step.action with
      | scripted | plain => rw [runs] at told; cases told
      | stage work =>
          have written := trial.begun.world.attempt_adds work
          rcases attempted : trial.begun.world.attempt work with ⟨outcome, world⟩
          rw [attempted] at written
          rw [called_of_stage runs attempted]
          exact ⟨[], rfl, written.calls.trans begun⟩

theorem called_context (trial : Trial) :
    (∃ slot, trial.fills slot = true ∧
        Context.Gains slot trial.service.world.context trial.called.2.world.context) ∨
      (∀ slot, trial.fills slot = false) ∧
        trial.called.2.world.context = trial.service.world.context := by
  cases told : trial.step.action.script? trial.step.calls with
  | some script =>
      rcases called_of_script told with ⟨meanwhile, extended⟩
      refine .inr ⟨fun slot => ?_, extended.context⟩
      have unfilling : trial.step.action.slot? = none := by
        cases runs : trial.step.action with
        | scripted | plain => rfl
        | stage => rw [runs] at told; cases told
      simp [fills, unfilling]
  | none =>
      cases runs : trial.step.action with
      | scripted | plain => rw [runs] at told; cases told
      | stage work =>
          have gains := trial.begun.world.attempt_gains work
          rcases attempted : trial.begun.world.attempt work with ⟨outcome, world⟩
          rw [attempted] at gains
          have called := called_of_stage runs attempted
          have ended : trial.outcome = outcome := by rw [Trial.outcome, called]
          cases outcome with
          | failed | panicked =>
              refine .inr ⟨fun slot => ?_, ?_⟩
              · simp [fills, ended, Outcome.isSuccess]
              · rw [called]
                exact gains
          | succeeded =>
              cases filling : work.slot? with
              | none =>
                  rw [filling] at gains
                  refine .inr ⟨fun slot => ?_, ?_⟩
                  · simp [fills, runs, Action.slot?, filling]
                  · rw [called]
                    exact gains
              | some slot =>
                  rw [filling] at gains
                  refine .inl ⟨slot, ?_, ?_⟩
                  · simp [fills, runs, Action.slot?, filling, ended, Outcome.isSuccess]
                  · rw [called]
                    exact gains

theorem keeps_context (trial : Trial) :
    trial.service.world.context.Keeps trial.after.world.context := by
  rw [after_context]
  rcases trial.called_context with ⟨slot, _, gains⟩ | ⟨_, same⟩
  · exact gains.keeps
  · rw [same]
    exact .refl _

/-- A call that does not succeed leaves the context as it is. -/
theorem context_of_failure (trial : Trial) (failed : trial.outcome.isSuccess = false) :
    trial.after.world.context = trial.service.world.context := by
  rw [after_context]
  rcases trial.called_context with ⟨slot, fills, _⟩ | ⟨_, same⟩
  · rw [Trial.fills, failed] at fills
    cases fills
  · exact same

def Loads (trial : Trial) (config : Config) : Prop :=
  ∃ path, trial.step.action = .stage (.configuration path) ∧
    Config.loadFile trial.service.world.files path trial.service.world.environment = .ok config

theorem Loads.unique {trial : Trial} {first second : Config} (loads : trial.Loads first)
    (again : trial.Loads second) : first = second := by
  rcases loads with ⟨path, runs, loaded⟩
  rcases again with ⟨other, same, reloaded⟩
  rw [runs] at same
  cases same
  rw [loaded] at reloaded
  exact Except.ok.inj reloaded

/-- A call by which the configuration comes into the context has read it from its file. -/
theorem loads_of_fills {trial : Trial} (fills : trial.fills .config = true) :
    ∃ config, trial.Loads config ∧ trial.after.world.context.config = some config := by
  rw [Trial.fills, Bool.and_eq_true, beq_iff_eq] at fills
  rcases fills with ⟨succeeded, filling⟩
  cases runs : trial.step.action with
  | scripted | plain => rw [runs] at filling; cases filling
  | stage work =>
      cases work with
      | logging | metrics | database | cache => rw [runs] at filling; cases filling
      | configuration path =>
          rcases attempted : trial.begun.world.attempt (.configuration path) with
            ⟨⟨⟩ | ⟨cause⟩ | ⟨message⟩, world⟩ <;> have called := called_of_stage runs attempted
          case failed | panicked =>
            rw [outcome, called] at succeeded
            cases succeeded
          case succeeded =>
            have performed := World.perform_of_attempt (.ok ()) attempted
            rcases World.perform_configuration performed with ⟨config, loaded, held⟩
            refine ⟨config, ⟨path, runs, loaded⟩, ?_⟩
            rw [after_context, called]
            exact held

end Trial

end Bringup
