import Bringup.Proofs.Exporter
import Bringup.Proofs.Walking

namespace Bringup

/-! Panics of actions.

A panic that comes out of a call of the manager has come out of the call of one action, and
that was the last thing done (`Service.Interrupted`). So the process is left as it was before
that action was called, but for what the action had registered by then and for the call itself,
of which nothing is booked (`Service.Survived`). The step is due again, and the next call that
initializes goes on with the first step that is (`Service.Resumes`). -/

/-! ## What an action registers -/

def Request.accepted? : Request → Reply → Option (String × List Script)
  | .register name runs _, .registered (.ok ()) => some (name, runs)
  | _, _ => none

def acceptedSteps (requests : List Request) (replies : List Reply) : List Step :=
  ((requests.zip replies).filterMap fun heard => heard.1.accepted? heard.2).map
    fun (name, runs) => { name, action := .scripted runs }

theorem acceptedSteps_cons (request : Request) (reply : Reply) (requests : List Request)
    (replies : List Reply) :
    acceptedSteps (request :: requests) (reply :: replies) =
      acceptedSteps [request] [reply] ++ acceptedSteps requests replies := by
  simp only [acceptedSteps, List.zip_cons_cons, List.filterMap_cons]
  cases request.accepted? reply <;> rfl

/-- What is registered is pending, and it has not been called. -/
theorem of_mem_acceptedSteps {requests : List Request} {replies : List Reply} {step : Step}
    (member : step ∈ acceptedSteps requests replies) :
    step.completed = false ∧ step.calls = 0 := by
  rcases List.mem_map.mp member with ⟨registration, _, rfl⟩
  exact ⟨rfl, rfl⟩

namespace Service

theorem register_steps {service next : Service} {name : String} {action : Action}
    {result : Except DuplicateName Unit}
    (registered : service.register name action = (result, next)) :
    next.manager.steps = service.manager.steps ++
      match result with
      | .ok () => [{ name, action }]
      | .error _ => [] := by
  unfold register at registered
  split at registered
  · cases registered
    exact (List.append_nil _).symm
  · rename_i accepted pushed
    cases registered
    rw [log_manager, (Manager.push_eq_ok (push_manager pushed)).2]

theorem reply_steps (service : Service) (request : Request) :
    (service.reply request).2.manager.steps =
      service.manager.steps ++ acceptedSteps [request] [(service.reply request).1.1] := by
  cases request with
  | register name runs isRequired =>
      unfold reply
      simp only
      split <;> rename_i registered <;> exact register_steps registered
  | isInitialized | isReady | status => exact (List.append_nil _).symm

theorem answer_steps (service : Service) (requests : List Request) :
    (service.answer requests).2.manager.steps =
      service.manager.steps ++ acceptedSteps requests (service.answer requests).1.1 := by
  fun_induction answer service requests with
  | case1 service => exact (List.append_nil _).symm
  | case2 service request rest reply fault next replied =>
      have first := service.reply_steps request
      rw [replied] at first
      rw [acceptedSteps_cons]
      simp only [acceptedSteps, List.zip_nil_right, List.filterMap_nil, List.map_nil,
        List.append_nil] at first ⊢
      exact first
  | case3 service request rest reply next replied replies rejected last answered induction =>
      have first := service.reply_steps request
      rw [replied] at first
      rw [answered] at induction
      rw [acceptedSteps_cons, ← List.append_assoc, ← first]
      exact induction

end Service

/-! ## The call that panics -/

namespace Trial

variable {trial : Trial} {message : String}

/-- The steps that the action registers in the call, as the replies tell. A stage registers
none. -/
def registered (trial : Trial) : List Step :=
  match trial.step.action.script? trial.step.calls with
  | some script => acceptedSteps script.requests trial.call.replies
  | none => []

/-- What is registered is pending, and it has not been called. -/
theorem of_mem_registered {step : Step} (member : step ∈ trial.registered) :
    step.completed = false ∧ step.calls = 0 := by
  unfold registered at member
  split at member
  · exact of_mem_acceptedSteps member
  · cases member

theorem called_steps (trial : Trial) :
    trial.called.2.manager.steps =
      (trial.service.manager.noteCall trial.position).steps ++ trial.registered := by
  unfold registered
  split
  · rename_i script told
    have answered := trial.begun.answer_steps script.requests
    have called : trial.called = trial.begun.follow script :=
      Service.callAction_of_script told trial.begun
    rw [call, called]
    exact answered
  · rename_i told
    cases runs : trial.step.action with
    | scripted | plain => rw [runs] at told; cases told
    | stage work =>
        rw [called_of_stage runs rfl]
        exact (List.append_nil _).symm

theorem steps_of_panicked (panicked : trial.outcome = .panicked message) :
    trial.after.manager.steps =
      (trial.service.manager.noteCall trial.position).steps ++ trial.registered := by
  rw [after_manager, panicked]
  exact trial.called_steps

theorem after_told (trial : Trial) :
    trial.after.world.journal.toldOfCalls =
      trial.service.world.journal.toldOfCalls ++ trial.call.told := by
  have deeds := trial.begun.callAction_deeds trial.step.action trial.step.calls
  rw [after, runStep_eq]
  exact Service.book_told deeds.quiet trial.called.1.1 trial.outcome

end Trial

theorem Journal.samples_toldOfCalls (journal : Journal) :
    samples journal.toldOfCalls = journal.samples := by
  unfold samples toldOfCalls
  rw [List.filterMap_filter]
  congr 1
  funext entry
  cases entry <;> first | rfl | exact ite_self _

/-- A call that panics is not measured. -/
theorem Trial.measures_of_panicked {trial : Trial} {message : String}
    (panicked : trial.outcome = .panicked message) :
    Metrics.measures trial.after.world.journal =
      Metrics.measures trial.service.world.journal := by
  apply Metrics.measures_congr
  rw [← Journal.samples_toldOfCalls, trial.after_told, Journal.samples_append,
    Journal.samples_toldOfCalls, Call.told, call, panicked]
  exact List.append_nil _

namespace Service

variable {outside inner : Prop} {first middle last service : Service} {message : String}

/-! ## The way to the call -/

theorem Trail.trans {earlier later : List Trial} (trail : Trail outside first earlier middle)
    (further : Trail inner middle later last) (wide : inner → outside) :
    Trail outside first (earlier ++ later) last := by
  induction further with
  | nil => rwa [List.append_nil]
  | pushes _ named pushed induction => exact induction.pushes (named.imp_left wide) pushed
  | runs _ stands pending induction =>
      rw [← List.append_assoc]
      exact induction.runs stands pending
  | asides _ same induction => exact induction.asides same
  | publishes _ allowed calls keeps induction =>
      exact induction.publishes (wide allowed) calls keeps

theorem Trail.isDone {trials : List Trial} (trail : Trail outside first trials last)
    (position : Nat) :
    last.manager.isDone position = (first.manager.isDone position ||
      trials.any fun trial => trial.position == position && trial.outcome.isSuccess) := by
  induction trail with
  | nil => exact (Bool.or_false _).symm
  | @pushes trials middle next name action trail named pushed induction =>
      have enlisted := middle.manager.isDone_enlist name action
      rw [Manager.enlist, push_manager pushed] at enlisted
      rw [enlisted, induction]
  | @runs trials middle place step trail stands pending induction =>
      let trial : Trial := ⟨middle, place, step⟩
      have called := trial.after_isDone stands position
      rw [List.any_append, List.any_cons, List.any_nil, Bool.or_false, ← Bool.or_assoc,
        ← induction, BEq.comm]
      exact called
  | @asides trials middle next trail same induction =>
      rw [← induction, Manager.isDone, Manager.isDone, Manager.completed?, Manager.completed?,
        core_steps same]
  | publishes _ _ _ _ induction => exact induction

structure Interrupted (first : Service) (earlier : List Trial) (trial : Trial)
    (message : String) : Prop where
  trail : Trail True first earlier trial.service
  stands : trial.service.manager.steps[trial.position]? = some trial.step
  pending : trial.step.completed = false
  panicked : trial.outcome = .panicked message

def Breaks (first : Service) (message : String) (last : Service) : Prop :=
  ∃ earlier trial, first.Interrupted earlier trial message ∧ trial.after = last

theorem Breaks.of_trail {before : List Trial} (trail : Trail True first before middle)
    (breaks : middle.Breaks message last) : first.Breaks message last := by
  rcases breaks with ⟨earlier, trial, interrupted, after⟩
  refine ⟨before ++ earlier, trial, ?_, after⟩
  exact ⟨trail.trans interrupted.trail id, interrupted.stands, interrupted.pending,
    interrupted.panicked⟩

theorem initializeAll_breaks (panicked : service.initializeAll = (.panicked message, last)) :
    service.Breaks message last := by
  have comes : service.Comes service.initializeAll := walk_comes (.start service)
  rw [panicked] at comes
  cases comes with
  | @panics earlier trial _ visited stands pending ended =>
      have trail : Trail True service ([] ++ earlier) trial.service :=
        Trail.nil.trans visited.follows.trail fun _ => trivial
      exact ⟨earlier, trial, ⟨trail, stands, pending, ended⟩, rfl⟩

theorem prepare_breaks (panicked : service.prepare = (.panicked message, last)) :
    service.Breaks message last := by
  unfold prepare at panicked
  split at panicked
  · cases panicked
  · split at panicked
    · cases panicked
    · exact initializeAll_breaks panicked

theorem exec_breaks {name : String} {action : Action}
    (panicked : service.exec name action = (.panicked message, last)) :
    service.Breaks message last := by
  unfold exec at panicked
  split at panicked
  · cases panicked
  · rename_i next pushed
    let trial : Trial := ⟨next, service.manager.steps.length, { name, action }⟩
    rcases trial.of_ran panicked with ⟨finished, after⟩
    have panicked := Outcome.of_finish_panicked finished
    have trail : Trail True service [] next := Trail.nil.pushes (.inl trivial) pushed
    exact ⟨[], trial, ⟨trail, push_stands pushed, rfl, panicked⟩, after⟩

theorem permits_all : Permits (fun _ _ => True) True :=
  ⟨fun _ _ => trivial, fun _ _ => trivial, fun _ _ _ => trivial⟩

theorem execStages_breaks {stages : List Stage}
    (panicked : service.execStages stages = (.panicked message, last)) :
    service.Breaks message last := by
  induction stages generalizing service with
  | nil => cases panicked
  | cons stage rest induction =>
      unfold execStages at panicked
      rcases executed : service.execStage stage with ⟨⟨fault | _⟩ | told, next⟩ <;>
        rw [executed] at panicked
      · cases panicked
      · have route : Route (fun _ _ => True) True service _ (service.execStage stage).2 :=
          exec_route service trivial rfl
        rw [executed] at route
        exact .of_trail route.trail (induction panicked)
      · cases panicked
        exact exec_breaks executed

theorem bootstrap_breaks {path : String} {testMode : Bool}
    (panicked : service.bootstrap path testMode = (.panicked message, last)) :
    service.Breaks message last := by
  unfold bootstrap at panicked
  split at panicked
  · cases panicked
  · exact execStages_breaks panicked

end Service

namespace Operation

open Service

mutual

theorem perform_breaks {service last : Service} {message : String} (operation : Operation α)
    (panicked : operation.perform service = (.panicked message, last)) :
    service.Breaks message last := by
  cases operation with
  | exec name runs =>
      rcases found : service.exec name (.scripted runs) with ⟨finish, next⟩
      simp only [perform, found] at panicked
      cases finish <;> cases panicked
      exact exec_breaks found
  | initializeAll =>
      rcases found : service.initializeAll with ⟨finish, next⟩
      simp only [perform, found] at panicked
      cases finish <;> cases panicked
      exact initializeAll_breaks found
  | run value inner =>
      have route : Route (fun _ _ => True) True service _ service.prepare.2 :=
        prepare_route service
      unfold perform at panicked
      split at panicked <;> rename_i next prepared
      · cases panicked
        exact prepare_breaks prepared
      · cases panicked
      · rcases found : performAll next inner with ⟨finish, final⟩
        rw [prepared] at route
        simp only [found] at panicked
        cases finish <;> cases panicked
        exact .of_trail route.trail (performAll_breaks inner found)
  | bootstrap path testMode =>
      rcases found : service.bootstrap path testMode with ⟨finish, next⟩
      simp only [perform, found] at panicked
      cases finish <;> cases panicked
      exact bootstrap_breaks found
  | register | getConfig | getDatabase | getCache | setCache =>
      unfold perform at panicked
      split at panicked <;> cases panicked
  | setDatabase config testMode =>
      -- Its own panic is an answer, not one of an action.
      unfold perform at panicked
      split at panicked
      · cases panicked
      · split at panicked <;> cases panicked
  | isInitialized | isReady | status | statusText | components | scrape | initializeAtOnce
  | setConfig | registerConnectors | request | writeFile | installLogger | installExporter
  | signal | elapse => cases panicked

theorem performAll_breaks {service last : Service} {message : String}
    (operations : List (Operation α))
    (panicked : performAll service operations = (.panicked message, last)) :
    service.Breaks message last := by
  cases operations with
  | nil => cases panicked
  | cons operation rest =>
      have route := operation.perform_route permits_all service (fun _ => trivial)
        fun _ _ _ => trivial
      unfold performAll at panicked
      split at panicked <;> rename_i performed
      · cases panicked
        exact perform_breaks operation performed
      · rename_i next
        rcases found : performAll next rest with ⟨finish, final⟩
        rw [performed] at route
        simp only [found] at panicked
        cases finish <;> cases panicked
        exact .of_trail route.trail (performAll_breaks rest found)

end

end Operation

/-! ## The next walk -/

namespace Manager

variable {manager : Manager}

theorem mem_due {position bound : Nat} :
    position ∈ manager.due bound ↔ position < bound ∧ manager.isDone position = false := by
  simp [due]

theorem due_first {position bound : Nat} {rest : List Nat}
    (first : manager.due bound = position :: rest) :
    manager.isDone position = false ∧ manager.DoneBelow position := by
  have found : (List.range bound).find? (fun place => !manager.isDone place) = some position := by
    rw [← List.head?_filter]
    exact congrArg List.head? first
  rcases List.find?_range_eq_some.mp found with ⟨undone, _, before⟩
  refine ⟨by simpa using undone, fun earlier less => ?_⟩
  have done := before earlier less
  rw [Bool.not_not] at done
  exact beq_iff_eq.mp done

end Manager

namespace Service

variable {service last : Service} {message : String}

/-- How the next call goes on that initializes: its calls are those of the steps that are not
completed, in order and from the first one on, and if they all succeed, it comes to the end of
the list. -/
structure Resumes (service : Service) (trials : List Trial) : Prop where
  follows : service.Follows trials service.initializeAll.2
  calls : service.initializeAll.2.world.journal.calls =
    service.world.journal.calls ++ trials.map Trial.call
  ordered : trials.map Trial.position <+:
    service.manager.due service.initializeAll.2.manager.steps.length
  opens : ∃ trial rest, trials = trial :: rest ∧ service.manager.DoneBelow trial.position ∧
    service.manager.completed? trial.position = some false
  succeeds : (∀ trial ∈ trials, trial.outcome = .succeeded) →
    service.initializeAll.1 = .returned (.ok ()) ∧
    service.initializeAll.2.manager.ready = true ∧
    ∀ step ∈ service.initializeAll.2.manager.steps, step.completed = true

theorem exists_resumes {position : Nat} {step : Step}
    (stands : service.manager.steps[position]? = some step) (pending : step.completed = false) :
    ∃ trials, service.Resumes trials := by
  have comes : service.Comes service.initializeAll := walk_comes (.start service)
  rcases comes.due with ⟨trials, follows, ordered, none, succeeds⟩
  refine ⟨trials, follows, follows.trail.calls, ordered, ?_, succeeds⟩
  have inside := (List.getElem?_eq_some_iff.mp stands).1
  have undone := Manager.isDone_of_stands stands
  rw [pending] at undone
  have longer : service.manager.steps.length ≤
      service.initializeAll.2.manager.steps.length := by
    have grown := follows.grown.length_le
    rwa [Manager.roster, Manager.roster, List.length_map, List.length_map] at grown
  have member := Manager.mem_due.mpr ⟨Nat.lt_of_lt_of_le inside longer, undone⟩
  cases trials with
  | nil =>
      rw [none rfl] at member
      cases member
  | cons trial rest =>
      rcases ordered with ⟨later, due⟩
      rcases Manager.due_first due.symm with ⟨unmet, below⟩
      refine ⟨trial, rest, rfl, below, ?_⟩
      -- Nothing before it is pending, so it does not stand behind the step that is.
      have before : trial.position ≤ position := by
        apply Nat.le_of_not_lt
        intro behind
        have done := below position behind
        rw [Manager.completed?_of_stands stands, pending] at done
        cases done
      have here : trial.position < service.manager.steps.length :=
        Nat.lt_of_le_of_lt before inside
      have found := List.getElem?_eq_getElem here
      rw [Manager.isDone_of_stands found] at unmet
      rw [Manager.completed?_of_stands found, unmet]

/-! ## What a panic leaves behind -/

/-- A panic comes out of a call of the manager, which initializes, executes one step or runs an
application that may ask for more. -/
inductive Panics (service : Service) (message : String) (last : Service) : Prop
  | initializeAll (panicked : service.initializeAll = (.panicked message, last))
  | exec {name : String} {action : Action}
      (panicked : service.exec name action = (.panicked message, last))
  | run {α : Type} {value : α} {inner : List (Operation α)}
      (panicked : (Operation.run value inner).perform service = (.panicked message, last))

/-- What the call of an action leaves behind that has panicked, after the earlier calls. The
step has been called once more and is pending, behind all steps stand those that the action had
registered, and completed are those that were, or whose earlier call succeeded. Nothing is told
of the call but that its step was run. -/
structure Survived (first : Service) (earlier : List Trial) (trial : Trial) (message : String)
    (last : Service) : Prop extends first.Interrupted earlier trial message where
  after : trial.after = last
  calls : last.world.journal.calls =
    first.world.journal.calls ++ (earlier ++ [trial]).map Trial.call
  kept : last.manager.steps[trial.position]? = some trial.step.called
  registered : last.manager.steps =
      (trial.service.manager.noteCall trial.position).steps ++ trial.registered ∧
    ∀ step ∈ trial.registered, step.completed = false ∧ step.calls = 0
  done : ∀ position, last.manager.isDone position = (first.manager.isDone position ||
    earlier.any fun called => called.position == position && called.outcome.isSuccess)
  told : last.world.journal.toldOfCalls = trial.service.world.journal.toldOfCalls ++
    [.event (.stepRunning trial.step.name), .call trial.call]
  unmeasured : Metrics.measures last.world.journal =
    Metrics.measures trial.service.world.journal
  unready : last.manager.ready = false
  intact : last.manager.Intact

theorem Panics.breaks (panics : service.Panics message last) : service.Breaks message last := by
  cases panics with
  | initializeAll panicked => exact initializeAll_breaks panicked
  | exec panicked => exact exec_breaks panicked
  | run panicked => exact Operation.perform_breaks _ panicked

theorem Panics.intact (panics : service.Panics message last)
    (intact : service.manager.Intact) : last.manager.Intact := by
  cases panics with
  | initializeAll panicked =>
      have course : Course True service _ _ := initializeAll_course service
      rw [panicked] at course
      exact course.intact intact
  | @exec name action panicked =>
      have course : Course True service _ _ := exec_course service name action
      rw [panicked] at course
      exact course.intact intact
  | @run α value inner panicked =>
      have course := (Operation.run value inner).perform_course service fun _ => trivial
      rw [panicked] at course
      exact course.intact intact

theorem Interrupted.survived {first : Service} {earlier : List Trial} {trial : Trial}
    (interrupted : first.Interrupted earlier trial message)
    (intact : trial.after.manager.Intact) :
    first.Survived earlier trial message trial.after := by
  have ⟨trail, stands, pending, panicked⟩ := interrupted
  have whole := trail.runs stands pending
  have steps := Trial.steps_of_panicked panicked
  have kept : trial.after.manager.steps[trial.position]? = some trial.step.called := by
    have noted : (trial.service.manager.noteCall trial.position).steps[trial.position]? =
        some trial.step.called := by
      simp [Manager.noteCall, stands]
    rw [steps]
    exact (List.getElem?_append_left (List.getElem?_eq_some_iff.mp noted).1).trans noted
  refine ⟨interrupted, rfl, whole.calls, kept,
    ⟨steps, fun _ => Trial.of_mem_registered⟩, ?_, ?_,
    Trial.measures_of_panicked panicked, intact.gate.unready kept pending, intact⟩
  · intro position
    apply (whole.isDone position).trans
    rw [List.any_append]
    simp [panicked, Outcome.isSuccess]
  · rw [Trial.after_told, Call.told]
    simp only [Trial.call, panicked]
    rfl

/-- Whatever manager a call is made on out of which a panic of an action comes: what the panic
leaves behind is as `Survived` says, and the next call that initializes goes on from there. -/
theorem Panics.recovers (reachable : service.manager.Reachable)
    (panics : service.Panics message last) :
    ∃ earlier trial retried, service.Survived earlier trial message last ∧
      last.Resumes retried := by
  have intact := panics.intact reachable.intact
  rcases panics.breaks with ⟨earlier, trial, interrupted, rfl⟩
  have survived := interrupted.survived intact
  rcases exists_resumes survived.kept survived.pending with ⟨retried, resumes⟩
  exact ⟨earlier, trial, retried, survived, resumes⟩

def fragile : List (Operation Unit) :=
  [.register "config" [], .register "database"
    [.script [.register "cache" [] true] (.panic "lost"), .quiet]]

theorem initializeAll_fragile : ∃ last,
    (Service.session {} fragile).2.initializeAll = (.panicked "lost", last) ∧
      last.manager.status =
        [⟨"config", true⟩, ⟨"database", false⟩, ⟨"cache", false⟩] := by
  have opened : (Service.session {} fragile).2.initializeAll = _ := walk_of_pending rfl rfl
  have onward : _ = walk ((Service.session {} fragile).2.runStep 0
    { name := "config", action := .scripted [] }).2 1 := opened
  have broken := onward.trans (walk_of_pending rfl rfl)
  exact ⟨_, broken, rfl⟩

theorem fragile_survived : ∃ last,
    (Service.session {} fragile).2.initializeAll = (.panicked "lost", last) ∧
      last.manager.status =
        [⟨"config", true⟩, ⟨"database", false⟩, ⟨"cache", false⟩] ∧
      ∃ earlier trial retried,
        (Service.session {} fragile).2.Survived earlier trial "lost" last ∧
        last.Resumes retried := by
  have started : ({} : Service).manager.Reachable := .fresh
  rcases initializeAll_fragile with ⟨last, panicked, status⟩
  have survived := Panics.recovers (started.operations fragile) (.initializeAll panicked)
  exact ⟨last, panicked, status, survived⟩

end Service

end Bringup
