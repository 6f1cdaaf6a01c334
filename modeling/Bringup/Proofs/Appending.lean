import Bringup.Proofs.Reachable
import Bringup.Proofs.Staging
import Bringup.Proofs.Walking

namespace Bringup

/-! What startup appends to the steps that there are.

Startup registers five stages in order and runs the first three at once. It stops at the first
stage whose name is taken and at the first one that fails, so what it appends is always a prefix
of its plan (`Service.Boots`), whatever was registered before and whatever the rest of the
process has come to. -/

namespace Stage

def isImmediate : Stage → Bool
  | configuration _ | logging | metrics => true
  | database _ | cache => false

/-- The step of a stage that startup has appended without failure. -/
def booted (stage : Stage) : Step := if stage.isImmediate then stage.finished else stage.waiting

def firstCall (stage : Stage) (outcome : Outcome) : Call := ⟨stage.name, 1, [], outcome⟩

/-- The calls by which startup has appended a stage without failure. -/
def bootCalls (stage : Stage) : List Call :=
  if stage.isImmediate then [stage.firstCall .succeeded] else []

def before (name : String) (stages : List Stage) : List Stage :=
  stages.takeWhile fun stage => stage.name ≠ name

def plan (path : String) (testMode : Bool) : List Stage := immediate path ++ deferred testMode

example (path : String) (testMode : Bool) :
    (plan path testMode).map (fun stage => (stage.name, stage.isImmediate)) =
      [("config", true), ("logging", true), ("metrics", true), ("database", false),
        ("cache", false)] := rfl

theorem nodup_plan (path : String) (testMode : Bool) :
    ((plan path testMode).map name).Nodup := by
  simp [plan, immediate, deferred, name]

theorem map_booted {view : Step → α} {expected : Stage → α}
    (seen : ∀ stage : Stage, view stage.booted = expected stage) (stages : List Stage) :
    (stages.map booted).map view = stages.map expected := by
  rw [List.map_map]
  exact List.map_congr_left fun stage _ => seen stage

theorem booted_names (stages : List Stage) :
    (stages.map booted).map Step.name = stages.map name :=
  map_booted (fun stage => by cases stage <;> rfl) stages

theorem booted_entries (stages : List Stage) :
    (stages.map booted).map (fun step => (step.name, step.action)) =
      stages.map fun stage => (stage.name, .stage stage) :=
  map_booted (fun stage => by cases stage <;> rfl) stages

theorem booted_status (stages : List Stage) :
    (stages.map booted).map Step.status =
      stages.map fun stage => ⟨stage.name, stage.isImmediate⟩ :=
  map_booted (fun stage => by cases stage <;> rfl) stages

theorem bootCalls_steps (stages : List Stage) :
    (stages.flatMap bootCalls).map Call.step = (stages.filter isImmediate).map name := by
  induction stages with
  | nil => rfl
  | cons stage rest induction =>
      rw [List.flatMap_cons, List.map_append, induction]
      cases stage <;> rfl

theorem bootCalls_succeeded (stages : List Stage) :
    ∀ call ∈ stages.flatMap bootCalls, call.outcome = .succeeded := by
  intro call member
  rcases List.mem_flatMap.mp member with ⟨stage, _, own⟩
  rw [bootCalls] at own
  split at own
  · rw [List.mem_singleton.mp own]
    rfl
  · cases own

theorem bootCalls_ne_panicked {stages : List Stage} {call : Call} {message : String}
    (last : (stages.flatMap bootCalls).getLast? = some call) :
    call.outcome ≠ .panicked message := by
  rw [bootCalls_succeeded stages call (List.mem_of_getLast? last)]
  simp

theorem find?_bootCalls (stages : List Stage) :
    (stages.flatMap bootCalls).find? (·.outcome.isFailure) = none := by
  refine List.find?_eq_none.mpr fun call member failed => ?_
  rw [bootCalls_succeeded stages call member] at failed
  cases failed

theorem fails_iff_firstCall (stage : Stage) (outcome : Outcome) {name : String} {cause : Cause} :
    outcome.finish stage.name = .returned (.error (.step name cause)) ↔
      ∃ call, [stage.firstCall outcome].find? (·.outcome.isFailure) = some call ∧
        call.step = name ∧ call.outcome = .failed cause := by
  cases outcome with
  | failed told =>
      constructor
      · intro same
        cases same
        exact ⟨_, rfl, rfl, rfl⟩
      · rintro ⟨_, same, rfl, told⟩
        cases same
        cases told
        rfl
  | succeeded | panicked =>
      constructor
      · nofun
      · rintro ⟨_, same, _⟩
        cases same

theorem before_of_split {before rest : List Stage} {stage : Stage}
    (distinct : ((before ++ stage :: rest).map name).Nodup) :
    Stage.before stage.name (before ++ stage :: rest) = before := by
  have others : ∀ earlier ∈ before, decide (earlier.name ≠ stage.name) = true := by
    intro earlier member
    rw [List.map_append] at distinct
    exact decide_eq_true ((List.nodup_append.mp distinct).2.2 _ (List.mem_map_of_mem member) _
      (by simp))
  rw [Stage.before, List.takeWhile_append_of_pos others, List.takeWhile_cons_of_neg (by simp),
    List.append_nil]

end Stage

def Entry.isApart : Entry → Bool
  | sought _ | login _ | command _ => false
  | _ => true

theorem Stage.isApart_of_writes {stage : Stage} (immediate : stage.isImmediate = true)
    {entry : Entry} (writes : stage.writes entry = true) : entry.isApart = true := by
  cases stage with
  | database | cache => cases immediate
  | configuration | logging | metrics => cases entry <;> first | rfl | cases writes

namespace Service

def names (service : Service) : List String := service.manager.steps.map Step.name

variable {service middle last : Service}

/-- Steps have been appended, and calls made, but neither the database nor the cache has been
sought or sent anything. The flag has fallen if there are such steps. -/
structure Grows (service : Service) (added : List Step) (calls : List Call) (last : Service) :
    Prop where
  steps : last.manager.steps = service.manager.steps ++ added
  calls : last.world.journal.calls = service.world.journal.calls ++ calls
  apart : Journal.Adds Entry.isApart service.world.journal last.world.journal
  around : last.world.around = service.world.around
  ready : last.manager.ready = (added.isEmpty && service.manager.ready)

theorem Grows.refl (service : Service) : service.Grows [] [] service :=
  ⟨(List.append_nil _).symm, (List.append_nil _).symm, .refl _ _, rfl, rfl⟩

theorem Grows.trans {added more : List Step} {calls further : List Call}
    (grows : service.Grows added calls middle) (later : middle.Grows more further last) :
    service.Grows (added ++ more) (calls ++ further) last := by
  refine ⟨?_, ?_, grows.apart.trans later.apart, later.around.trans grows.around, ?_⟩
  · rw [later.steps, grows.steps, List.append_assoc]
  · rw [later.calls, grows.calls, List.append_assoc]
  · rw [later.ready, grows.ready]
    cases added <;> simp

theorem Grows.log {added : List Step} {calls : List Call} (grows : service.Grows added calls last)
    (event : Event) : service.Grows added calls (last.log event) := by
  refine ⟨grows.steps, ?_, grows.apart.trans (.one _ rfl), grows.around, grows.ready⟩
  rw [log_calls, grows.calls]

/-! ## One stage -/

variable {stage : Stage}

theorem push_of_mem (indexed : service.manager.Indexed) {name : String}
    (taken : name ∈ service.names) (action : Action) :
    service.push name action = .error ⟨name⟩ := by
  cases known : service.manager.position? name with
  | some position => simp [push, Manager.push, known]
  | none => exact absurd taken (indexed.unused known)

theorem adding_grows (service : Service) (stage : Stage) :
    service.Grows [stage.waiting] [] (service.adding stage) := by
  refine ⟨rfl, ?_, .one _ rfl, rfl, rfl⟩
  rw [adding, World.record_journal, Journal.calls_append]
  rfl

theorem runStep_grows (service : Service) (immediate : stage.isImmediate = true)
    {outcome : Outcome} {world : World}
    (attempted : ((service.adding stage).beginCall service.manager.steps.length
      stage.waiting).world.attempt stage = (outcome, world)) :
    service.Grows [outcome.settle stage.waiting] [stage.firstCall outcome]
      ((service.adding stage).runStep service.manager.steps.length stage.waiting).2 := by
  have added := service.adding_grows stage
  have begun := (service.adding stage).beginCall_calls service.manager.steps.length stage.waiting
  have written := ((service.adding stage).beginCall service.manager.steps.length
    stage.waiting).world.attempt_adds stage
  have around := ((service.adding stage).beginCall service.manager.steps.length
    stage.waiting).world.attempt_around stage
  rw [attempted] at written around
  rw [runStep_waiting attempted]
  refine ⟨?_, ?_, ?_, ?_, ?_⟩
  · rw [book_manager, endCall_manager]
    have marked := outcome.mark_called (service.adding stage).manager
      service.manager.steps.length
    have settled := Manager.modify_length_append service.manager.steps stage.waiting []
      outcome.settle
    rw [← settled]
    exact congrArg Manager.steps marked
  · rw [book_calls, endCall_calls, written.calls, begun, added.calls, List.append_nil]
    rfl
  · have opened : Journal.Adds Entry.isApart (service.adding stage).world.journal
        ((service.adding stage).beginCall service.manager.steps.length
          stage.waiting).world.journal := .one _ rfl
    have called := written.mono fun _ => Stage.isApart_of_writes immediate
    rw [book_journal, endCall_journal]
    refine ((added.apart.trans opened).trans called).trans (.trans (.one _ rfl) (.all _ ?_))
    cases outcome <;> simp [bookingEntries, Entry.isApart]
  · cases outcome <;> exact around
  · rw [book_manager, endCall_manager]
    cases outcome <;> rfl

/-- Of the stages that run at once, only the one that goes through the environment panics. -/
theorem foreign_of_panicked {world next : World} {message : String}
    (immediate : stage.isImmediate = true)
    (panicked : world.attempt stage = (.panicked message, next)) : world.foreign ≠ none := by
  rcases world.attempt_cases stage with ⟨_, panics, _⟩ | ⟨_, ended⟩
  · cases stage with
    | configuration path =>
        intro text
        simp [World.panic?, text] at panics
    | logging | metrics => cases panics
    | database | cache => cases immediate
  · rw [ended] at panicked
    exact absurd (congrArg Prod.fst panicked) Outcome.of_ne_panicked

/-! ## Stages in order -/

/-- How startup goes over some stages in order: it appends them all, or it stops at one whose
name is taken or whose action does not succeed. Only the names that were taken before count, as
the stages have different names. -/
inductive Boots (service : Service) (stages : List Stage) :
    Finish (Except InitError Unit) × Service → Prop
  | all {last : Service} (unused : ∀ stage ∈ stages, stage.name ∉ service.names)
      (grows : service.Grows (stages.map Stage.booted) (stages.flatMap Stage.bootCalls) last) :
      Boots service stages (.returned (.ok ()), last)
  | taken {before rest : List Stage} {stage : Stage} {last : Service}
      (split : stages = before ++ stage :: rest)
      (unused : ∀ earlier ∈ before, earlier.name ∉ service.names)
      (taken : stage.name ∈ service.names)
      (grows : service.Grows (before.map Stage.booted) (before.flatMap Stage.bootCalls) last) :
      Boots service stages (.returned (.error (.duplicate ⟨stage.name⟩)), last)
  | ends {before rest : List Stage} {stage : Stage} {outcome : Outcome} {last : Service}
      (split : stages = before ++ stage :: rest)
      (unused : ∀ earlier ∈ before ++ [stage], earlier.name ∉ service.names)
      (immediate : stage.isImmediate = true) (unsuccessful : outcome.isSuccess = false)
      (foreign : ∀ message, outcome = .panicked message → service.world.foreign ≠ none)
      (grows : service.Grows (before.map Stage.booted ++ [stage.waiting.called])
        (before.flatMap Stage.bootCalls ++ [stage.firstCall outcome]) last) :
      Boots service stages (outcome.finish stage.name, last)

theorem Boots.nil (service : Service) : service.Boots [] (.returned (.ok ()), service) :=
  .all (fun _ member => by cases member) (.refl service)

theorem Grows.names {stages : List Stage} {calls : List Call}
    (grows : service.Grows (stages.map Stage.booted) calls last) :
    last.names = service.names ++ stages.map Stage.name := by
  rw [Service.names, grows.steps, List.map_append, Stage.booted_names]
  rfl

theorem Grows.unused {first stages : List Stage} {calls : List Call}
    (grows : service.Grows (first.map Stage.booted) calls middle)
    (unused : ∀ stage ∈ first, stage.name ∉ service.names)
    (free : ∀ stage ∈ stages, stage.name ∉ middle.names) :
    ∀ stage ∈ first ++ stages, stage.name ∉ service.names := by
  intro stage member known
  rcases List.mem_append.mp member with old | new
  · exact unused stage old known
  · refine free stage new ?_
    rw [grows.names]
    exact List.mem_append_left _ known

/-- A name that is taken then, and not by these stages, was taken before. -/
theorem Grows.taken {first : List Stage} {calls : List Call} {name : String}
    (grows : service.Grows (first.map Stage.booted) calls middle) (taken : name ∈ middle.names)
    (other : name ∉ first.map Stage.name) : name ∈ service.names := by
  rw [grows.names] at taken
  exact (List.mem_append.mp taken).resolve_right other

/-- Whoever has stopped does not go on. -/
theorem Boots.stop {stages : List Stage} {result : Finish (Except InitError Unit) × Service}
    (boots : service.Boots stages result) (stopped : result.1 ≠ .returned (.ok ()))
    (more : List Stage) : service.Boots (stages ++ more) result := by
  have longer : ∀ {before rest : List Stage} {stage : Stage}, stages = before ++ stage :: rest →
      stages ++ more = before ++ stage :: (rest ++ more) := by
    rintro before rest stage rfl
    rw [List.append_assoc, List.cons_append]
  cases boots with
  | all => exact absurd rfl stopped
  | taken split unused taken grows => exact .taken (longer split) unused taken grows
  | ends split unused immediate unsuccessful foreign grows =>
      exact .ends (longer split) unused immediate unsuccessful foreign grows

theorem Grows.foreign {added : List Step} {calls : List Call}
    (grows : service.Grows added calls last) : last.world.foreign = service.world.foreign := by
  have same : last.world.around.foreign = service.world.around.foreign := by rw [grows.around]
  exact same

theorem Boots.trans {first more : List Stage} {finish : Finish (Except InitError Unit)}
    {result : Finish (Except InitError Unit) × Service}
    (boots : service.Boots first (finish, middle))
    (succeeded : finish = .returned (.ok ())) (further : middle.Boots more result)
    (distinct : ((first ++ more).map Stage.name).Nodup) :
    service.Boots (first ++ more) result := by
  cases boots with
  | taken => cases succeeded
  | ends _ _ _ unsuccessful =>
      rw [Outcome.of_finish_ok succeeded] at unsuccessful
      cases unsuccessful
  | all unused grows =>
      have longer : ∀ {before rest : List Stage} {stage : Stage},
          more = before ++ stage :: rest → first ++ more = (first ++ before) ++ stage :: rest := by
        rintro before rest stage rfl
        rw [List.append_assoc]
      cases further with
      | all free later =>
          refine .all (grows.unused unused free) ?_
          rw [List.map_append, List.flatMap_append]
          exact grows.trans later
      | @taken before rest stage last split free taken later =>
          have other : stage.name ∉ first.map Stage.name := by
            intro again
            rw [List.map_append, split] at distinct
            exact (List.nodup_append.mp distinct).2.2 _ again _ (by simp) rfl
          have grown := grows.trans later
          rw [← List.map_append, ← List.flatMap_append] at grown
          exact .taken (longer split) (grows.unused unused free) (grows.taken taken other) grown
      | @ends before rest stage outcome last split free immediate unsuccessful foreign later =>
          have unused := grows.unused unused free
          rw [← List.append_assoc] at unused
          have grown := grows.trans later
          rw [← List.append_assoc, ← List.append_assoc, ← List.map_append,
            ← List.flatMap_append] at grown
          exact .ends (longer split) unused immediate unsuccessful
            (fun message ended => grows.foreign ▸ foreign message ended) grown

theorem execStage_boots (indexed : service.manager.Indexed)
    (immediate : stage.isImmediate = true) : service.Boots [stage] (service.execStage stage) := by
  have split : [stage] = [] ++ stage :: [] := rfl
  by_cases taken : stage.name ∈ service.names
  · rw [execStage, exec, push_of_mem indexed taken]
    exact .taken split (fun _ member => by cases member) taken (.refl service)
  · have unused : ∀ other ∈ [stage], other.name ∉ service.names := by simpa using taken
    rcases attempted : ((service.adding stage).beginCall service.manager.steps.length
      stage.waiting).world.attempt stage with ⟨outcome, world⟩
    have grown := service.runStep_grows immediate attempted
    rw [execStage, exec, push_of_free (indexed.free taken)]
    change service.Boots [stage]
      ((service.adding stage).runStep service.manager.steps.length stage.waiting)
    rw [runStep_waiting attempted] at grown ⊢
    cases outcome with
    | succeeded =>
        refine .all unused ?_
        rw [List.map_singleton, List.flatMap_singleton, Stage.booted, Stage.bootCalls,
          if_pos immediate, if_pos immediate]
        exact grown
    | failed cause => exact .ends split unused immediate rfl (by simp) grown
    | panicked message =>
        have foreign := foreign_of_panicked immediate attempted
        exact .ends split unused immediate rfl (fun _ _ => foreign) grown

theorem registerStage_boots (indexed : service.manager.Indexed)
    (deferred : stage.isImmediate = false) :
    service.Boots [stage]
      (.returned (service.registerStage stage).1, (service.registerStage stage).2) := by
  by_cases taken : stage.name ∈ service.names
  · have split : [stage] = [] ++ stage :: [] := rfl
    rw [registerStage, register, push_of_mem indexed taken]
    exact .taken split (fun _ member => by cases member) taken (.log (.refl service) _)
  · rw [registerStage, register, push_of_free (indexed.free taken)]
    refine .all (by simpa using taken) ?_
    rw [List.map_singleton, List.flatMap_singleton, Stage.booted, Stage.bootCalls, deferred]
    exact (service.adding_grows stage).log _

theorem execStages_boots {stages : List Stage} (intact : service.manager.Intact)
    (immediate : ∀ stage ∈ stages, stage.isImmediate = true)
    (distinct : (stages.map Stage.name).Nodup) :
    service.Boots stages (service.execStages stages) := by
  induction stages generalizing service with
  | nil => exact .nil service
  | cons stage rest induction =>
      rcases List.forall_mem_cons.mp immediate with ⟨own, others⟩
      have first := execStage_boots intact.indexed own
      have course : Course True service _ _ := exec_course service stage.name (.stage stage)
      rcases ran : service.execStage stage with ⟨⟨fault | _⟩ | message, next⟩ <;>
        rw [execStages, ran] <;> rw [ran] at first
      · exact first.stop (by simp) rest
      · have after : next.manager.Intact := by
          rw [← show (service.exec stage.name (.stage stage)).2 = next from congrArg Prod.snd ran]
          exact course.intact intact
        exact first.trans rfl (induction after others (List.nodup_cons.mp distinct).2) distinct
      · exact first.stop (by simp) rest

theorem registerStages_boots {stages : List Stage} (intact : service.manager.Intact)
    (deferred : ∀ stage ∈ stages, stage.isImmediate = false)
    (distinct : (stages.map Stage.name).Nodup) :
    service.Boots stages
      (.returned (service.registerStages stages).1, (service.registerStages stages).2) := by
  induction stages generalizing service with
  | nil => exact .nil service
  | cons stage rest induction =>
      rcases List.forall_mem_cons.mp deferred with ⟨own, others⟩
      have first := registerStage_boots intact.indexed own
      have course : Course True service _ _ := registerStage_course service stage
      rcases registered : service.registerStage stage with ⟨fault | _, next⟩ <;>
        rw [registerStages, registered] <;> rw [registered] at first course
      · exact first.stop (by simp) rest
      · have after := course.intact intact
        exact first.trans rfl (induction after others (List.nodup_cons.mp distinct).2) distinct

theorem bootstrap_boots (intact : service.manager.Intact) (path : String) (testMode : Bool) :
    service.Boots (Stage.plan path testMode) (service.bootstrap path testMode) := by
  have distinct := Stage.nodup_plan path testMode
  have each := distinct
  rw [Stage.plan, List.map_append] at each
  have first : service.Boots _ _ := execStages_boots intact
    (by simp [Stage.immediate, Stage.isImmediate]) (List.nodup_append.mp each).1
  have course : Course True service _ _ := execStages_course service (Stage.immediate path)
  rcases ran : service.execStages (Stage.immediate path) with ⟨⟨fault | _⟩ | message, next⟩ <;>
    rw [bootstrap, ran] <;> rw [ran] at first course
  · exact first.stop (by simp) _
  · exact first.trans rfl (registerStages_boots (course.intact intact)
      (by simp [Stage.deferred, Stage.isImmediate]) (List.nodup_append.mp each).2.1) distinct
  · exact first.stop (by simp) _

/-! ## What is left -/

def taken? (service : Service) (stages : List Stage) : Option Stage :=
  stages.find? fun stage => stage.name ∈ service.names

/-- What startup leaves when it goes over a plan: the stages that it has appended, their steps
and their calls, and how it has come to its end. -/
structure Appends (service : Service) (plan appended : List Stage) (added : List Step)
    (calls : List Call) (finish : Finish (Except InitError Unit)) (last : Service) : Prop where
  grows : service.Grows added calls last
  isPrefix : appended <+: plan
  entries : added.map (fun step => (step.name, step.action)) =
    appended.map fun stage => (stage.name, .stage stage)
  called : calls.map Call.step = (appended.filter Stage.isImmediate).map Stage.name
  returns : service.world.foreign = none → ∀ message, finish ≠ .panicked message
  /-- It succeeds if everything has been appended, and what runs at once is completed then. -/
  succeeds : finish = .returned (.ok ()) ↔ appended = plan
  completed : finish = .returned (.ok ()) →
    added.map Step.status = plan.map fun stage => ⟨stage.name, stage.isImmediate⟩
  /-- It is refused a name if that is the first one taken and all stages before it have been
  appended without failure, and no other stages have been appended then. -/
  refused : ∀ name, finish = .returned (.error (.duplicate ⟨name⟩)) ↔
    (service.taken? plan).map Stage.name = some name ∧ Stage.before name plan <+: appended ∧
      ∀ call ∈ calls, call.outcome = .succeeded
  stopped : ∀ name, finish = .returned (.error (.duplicate ⟨name⟩)) →
    appended = Stage.before name plan
  /-- It fails with the first call that has failed, whose step is the last one and pending. -/
  fails : ∀ name cause, finish = .returned (.error (.step name cause)) ↔
    ∃ call, calls.find? (·.outcome.isFailure) = some call ∧ call.step = name ∧
      call.outcome = .failed cause
  pending : ∀ name cause, finish = .returned (.error (.step name cause)) →
    added.getLast?.map Step.status = some ⟨name, false⟩
  /-- A panic of the last call comes out of it, whose step is the last one and pending. -/
  panics : ∀ message, finish = .panicked message ↔
    ∃ call, calls.getLast? = some call ∧ call.outcome = .panicked message ∧
      added.getLast?.map Step.status = some ⟨call.step, false⟩

theorem taken?_eq_none {stages : List Stage}
    (unused : ∀ stage ∈ stages, stage.name ∉ service.names) : service.taken? stages = none := by
  simpa [taken?] using unused

theorem taken?_of_split {before rest : List Stage} {stage : Stage}
    (unused : ∀ earlier ∈ before, earlier.name ∉ service.names)
    (taken : stage.name ∈ service.names) :
    service.taken? (before ++ stage :: rest) = some stage := by
  have none := taken?_eq_none unused
  rw [taken?] at none ⊢
  rw [List.find?_append, none, Option.none_or, List.find?_cons_of_pos (by simpa using taken)]

theorem Grows.appends_all {stages : List Stage}
    (unused : ∀ stage ∈ stages, stage.name ∉ service.names)
    (grows : service.Grows (stages.map Stage.booted) (stages.flatMap Stage.bootCalls) last) :
    service.Appends stages stages (stages.map Stage.booted) (stages.flatMap Stage.bootCalls)
      (.returned (.ok ())) last where
  grows
  isPrefix := List.prefix_rfl
  entries := Stage.booted_entries stages
  called := Stage.bootCalls_steps stages
  returns := by simp
  succeeds := by simp
  completed _ := Stage.booted_status stages
  refused := by simp [taken?_eq_none unused]
  stopped := by simp
  fails name cause := by
    rw [Stage.find?_bootCalls]
    simp
  pending := by simp
  panics message :=
    ⟨by simp, fun ⟨_, own, panicked, _⟩ => absurd panicked (Stage.bootCalls_ne_panicked own)⟩

theorem Grows.appends_before {stages before rest : List Stage} {stage : Stage}
    (split : stages = before ++ stage :: rest) (distinct : (stages.map Stage.name).Nodup)
    (unused : ∀ earlier ∈ before, earlier.name ∉ service.names)
    (taken : stage.name ∈ service.names)
    (grows : service.Grows (before.map Stage.booted) (before.flatMap Stage.bootCalls) last) :
    service.Appends stages before (before.map Stage.booted) (before.flatMap Stage.bootCalls)
      (.returned (.error (.duplicate ⟨stage.name⟩))) last := by
  have first : service.taken? stages = some stage := by
    rw [split]
    exact taken?_of_split unused taken
  have ahead : Stage.before stage.name stages = before := by
    rw [split] at distinct ⊢
    exact Stage.before_of_split distinct
  refine {
    grows
    isPrefix := ⟨_, split.symm⟩
    entries := Stage.booted_entries before
    called := Stage.bootCalls_steps before
    returns := by simp
    succeeds := by simp [split]
    completed := by simp
    refused := fun name => ?_
    stopped := by simp [ahead]
    fails := fun name cause => ?_
    pending := by simp
    panics := fun message => ⟨by simp, fun ⟨call, own, panicked, _⟩ => ?_⟩ }
  · rw [first]
    constructor
    · intro same
      cases same
      rw [ahead]
      exact ⟨rfl, List.prefix_rfl, Stage.bootCalls_succeeded before⟩
    · rintro ⟨same, _, _⟩
      cases same
      rfl
  · rw [Stage.find?_bootCalls]
    simp
  · exact absurd panicked (Stage.bootCalls_ne_panicked own)

theorem Grows.appends_through {stages before rest : List Stage} {stage : Stage}
    {outcome : Outcome} (split : stages = before ++ stage :: rest)
    (waits : ∀ before stage, stages = before ++ [stage] → stage.isImmediate = false)
    (immediate : stage.isImmediate = true) (unsuccessful : outcome.isSuccess = false)
    (foreign : ∀ message, outcome = .panicked message → service.world.foreign ≠ none)
    (grows : service.Grows (before.map Stage.booted ++ [stage.waiting.called])
      (before.flatMap Stage.bootCalls ++ [stage.firstCall outcome]) last) :
    service.Appends stages (before ++ [stage]) (before.map Stage.booted ++ [stage.waiting.called])
      (before.flatMap Stage.bootCalls ++ [stage.firstCall outcome]) (outcome.finish stage.name)
      last := by
  have called : stage.firstCall outcome ∈
      before.flatMap Stage.bootCalls ++ [stage.firstCall outcome] := by simp
  have unfinished : outcome ≠ .succeeded := by
    rintro rfl
    cases unsuccessful
  have finished : outcome.finish stage.name ≠ .returned (.ok ()) :=
    fun succeeded => unfinished (Outcome.of_finish_ok succeeded)
  have found : (before.flatMap Stage.bootCalls ++ [stage.firstCall outcome]).find?
      (·.outcome.isFailure) = [stage.firstCall outcome].find? (·.outcome.isFailure) := by
    rw [List.find?_append, Stage.find?_bootCalls, Option.none_or]
  refine {
    grows
    isPrefix := ⟨rest, by rw [split, List.append_assoc, List.singleton_append]⟩
    entries := ?_
    called := ?_
    returns := fun text message panicked =>
      foreign message (Outcome.of_finish_panicked panicked) text
    succeeds := ⟨fun succeeded => absurd succeeded finished, fun whole => ?_⟩
    completed := fun succeeded => absurd succeeded finished
    refused := fun name => ⟨fun refused => ?_, fun ⟨_, _, succeeded⟩ => ?_⟩
    stopped := fun name refused => ?_
    fails := fun name other => ?_
    pending := fun name other failed => ?_
    panics := fun message => ?_ }
  · rw [List.map_append, Stage.booted_entries, List.map_append]
    rfl
  · rw [List.map_append, Stage.bootCalls_steps, List.filter_append, List.map_append,
      List.filter_cons_of_pos immediate]
    rfl
  · rw [waits before stage whole.symm] at immediate
    cases immediate
  · rcases Outcome.of_finish_error refused with ⟨_, _, same⟩
    cases same
  · exact absurd (succeeded _ called) unfinished
  · rcases Outcome.of_finish_error refused with ⟨_, _, same⟩
    cases same
  · rw [found]
    exact stage.fails_iff_firstCall outcome
  · rcases Outcome.of_finish_error failed with ⟨_, rfl, same⟩
    cases same
    rw [List.getLast?_append]
    rfl
  · rw [List.getLast?_append, List.getLast?_append]
    constructor
    · intro panicked
      exact ⟨_, rfl, Outcome.of_finish_panicked panicked, rfl⟩
    · rintro ⟨call, same, panicked, _⟩
      cases same
      cases (panicked : outcome = _)
      rfl

/-- How startup ends determines what it leaves. The last stage of its plan is to wait, as else
that stage might fail once everything has been appended. -/
theorem Boots.appends {stages : List Stage} {result : Finish (Except InitError Unit) × Service}
    (boots : service.Boots stages result) (distinct : (stages.map Stage.name).Nodup)
    (waits : ∀ before stage, stages = before ++ [stage] → stage.isImmediate = false) :
    ∃ appended added calls, service.Appends stages appended added calls result.1 result.2 := by
  cases boots with
  | all unused grows => exact ⟨_, _, _, grows.appends_all unused⟩
  | taken split unused taken grows =>
      exact ⟨_, _, _, grows.appends_before split distinct unused taken⟩
  | ends split unused immediate unsuccessful foreign grows =>
      exact ⟨_, _, _, grows.appends_through split waits immediate unsuccessful foreign⟩

end Service

/-! ## Servers out of reach -/

namespace World

def facing (world : World) (database : Option (SocketAddress × DatabaseServer))
    (cache : Option (SocketAddress × CacheServer)) : World :=
  { world with network := { world.network with database, cache } }

variable (world : World) (database : Option (SocketAddress × DatabaseServer))
  (cache : Option (SocketAddress × CacheServer))

@[simp] theorem facing_files : (world.facing database cache).files = world.files := rfl

@[simp] theorem facing_environment :
    (world.facing database cache).environment = world.environment := rfl

@[simp] theorem facing_context :
    (world.facing database cache).context = world.context := rfl

@[simp] theorem facing_journal :
    (world.facing database cache).journal = world.journal := rfl

@[simp] theorem facing_valueOf? (name : String) :
    (world.facing database cache).valueOf? name = world.valueOf? name := rfl

@[simp] theorem facing_record (entry : Entry) :
    (world.facing database cache).record entry = (world.record entry).facing database cache := rfl

@[simp] theorem facing_recordAll (entries : List Entry) :
    (world.facing database cache).recordAll entries =
      (world.recordAll entries).facing database cache := rfl

theorem loadConfig_facing (path : String) :
    (world.facing database cache).loadConfig path =
      (world.loadConfig path).map id (World.facing · database cache) := by
  have told : (world.facing database cache).logOverrides path world.environment =
    (world.logOverrides path world.environment).facing database cache := rfl
  have files : (world.logOverrides path world.environment).files = world.files := rfl
  have environment : (world.logOverrides path world.environment).environment =
    world.environment := rfl
  cases loaded : Config.loadFile world.files path world.environment <;>
    simp [loadConfig, told, files, environment, loaded, log]

theorem installLogger_facing (config : ObservabilityConfig) :
    (world.facing database cache).installLogger config =
      (world.installLogger config).map id (World.facing · database cache) := by
  by_cases installed : world.journal.hasLogger = true <;> simp [installLogger, installed]

theorem installExporter_facing (address : SocketAddress) :
    (world.facing database cache).installExporter address =
      (world.installExporter address).map id (World.facing · database cache) := by
  have binds : (world.facing database cache).bind .exporter address =
    world.bind .exporter address := rfl
  cases bound : world.bind .exporter address with
  | error fault => simp [installExporter, binds, bound]
  | ok chosen =>
      by_cases exported : world.journal.exported?.isSome = true <;>
        simp [installExporter, binds, bound, exported]

theorem publish_facing (result : Except ContextError Context) :
    (world.facing database cache).publish result =
      (world.publish result).map id (World.facing · database cache) := by
  cases result <;> rfl

/-- A stage that runs as it is registered does not look at the servers. -/
theorem perform_facing {stage : Stage} (immediate : stage.isImmediate = true) :
    (world.facing database cache).perform stage =
      (world.perform stage).map id (World.facing · database cache) := by
  cases stage with
  | database | cache => cases immediate
  | configuration path =>
      rw [perform, perform, loadConfig_facing]
      rcases world.loadConfig path with ⟨fault | config, loaded⟩
      · rfl
      · exact loaded.publish_facing _ _ _
  | logging =>
      rw [perform, perform, facing_context]
      cases world.context.getConfig with
      | error fault => rfl
      | ok config =>
          dsimp only
          rw [installLogger_facing]
          rcases world.installLogger config.observability with ⟨cause | _, installed⟩ <;> rfl
  | metrics =>
      rw [perform, perform, facing_context]
      cases world.context.getConfig with
      | error fault => rfl
      | ok config =>
          dsimp only
          split
          · rfl
          · cases SocketAddress.read? config.observability.metricsAddress with
            | none => rfl
            | some address =>
                dsimp only
                rw [installExporter_facing]
                rcases world.installExporter address with ⟨fault | _, installed⟩ <;> rfl

theorem attempt_facing {stage : Stage} (immediate : stage.isImmediate = true) :
    (world.facing database cache).attempt stage =
      (world.attempt stage).map id (World.facing · database cache) := by
  have panics : (world.facing database cache).panic? stage = world.panic? stage := by
    cases stage with
    | database | cache => cases immediate
    | configuration | logging | metrics => rfl
  unfold attempt
  rw [panics, world.perform_facing database cache immediate]
  cases world.panic? stage with
  | none => rfl
  | some message =>
      cases stage with
      | database | cache => cases immediate
      | configuration | logging | metrics => rfl

end World

namespace Service

def facing (service : Service) (database : Option (SocketAddress × DatabaseServer))
    (cache : Option (SocketAddress × CacheServer)) : Service :=
  { service with world := service.world.facing database cache }

variable (service : Service) (database : Option (SocketAddress × DatabaseServer))
  (cache : Option (SocketAddress × CacheServer))

theorem push_facing (name : String) (action : Action) :
    (service.facing database cache).push name action =
      (service.push name action).map (Service.facing · database cache) := by
  cases pushed : service.manager.push name action <;> simp [push, facing, pushed, Except.map]

theorem runStep_facing {stage : Stage} (immediate : stage.isImmediate = true) (position : Nat) :
    (service.facing database cache).runStep position stage.waiting =
      (service.runStep position stage.waiting).map id (Service.facing · database cache) := by
  rcases attempted : (service.beginCall position stage.waiting).world.attempt stage with
    ⟨outcome, world⟩
  have again : ((service.facing database cache).beginCall position stage.waiting).world.attempt
      stage = (outcome, world.facing database cache) := by
    have faced := World.attempt_facing (service.beginCall position stage.waiting).world database
      cache immediate
    rwa [attempted] at faced
  rw [runStep_waiting attempted, runStep_waiting again]
  cases outcome <;> rfl

theorem execStage_facing {stage : Stage} (immediate : stage.isImmediate = true) :
    (service.facing database cache).execStage stage =
      (service.execStage stage).map id (Service.facing · database cache) := by
  rw [execStage, execStage, exec, exec, push_facing]
  cases service.push stage.name (.stage stage) with
  | error fault => rfl
  | ok next => exact next.runStep_facing database cache immediate _

theorem execStages_facing {stages : List Stage}
    (immediate : ∀ stage ∈ stages, stage.isImmediate = true) :
    (service.facing database cache).execStages stages =
      (service.execStages stages).map id (Service.facing · database cache) := by
  induction stages generalizing service with
  | nil => rfl
  | cons stage rest induction =>
      rcases List.forall_mem_cons.mp immediate with ⟨own, others⟩
      rw [execStages, execStages, service.execStage_facing database cache own]
      rcases service.execStage stage with ⟨⟨fault | _⟩ | message, next⟩
      · rfl
      · exact induction next others
      · rfl

theorem registerStage_facing (stage : Stage) :
    (service.facing database cache).registerStage stage =
      (service.registerStage stage).map id (Service.facing · database cache) := by
  rw [registerStage, registerStage, register, register, push_facing]
  cases service.push stage.name (.stage stage) <;> rfl

theorem registerStages_facing (stages : List Stage) :
    (service.facing database cache).registerStages stages =
      (service.registerStages stages).map id (Service.facing · database cache) := by
  induction stages generalizing service with
  | nil => rfl
  | cons stage rest induction =>
      rw [registerStages, registerStages, registerStage_facing]
      rcases service.registerStage stage with ⟨fault | _, next⟩
      · rfl
      · exact induction next

theorem bootstrap_facing (path : String) (testMode : Bool) :
    (service.facing database cache).bootstrap path testMode =
      (service.bootstrap path testMode).map id (Service.facing · database cache) := by
  have immediate : ∀ stage ∈ Stage.immediate path, stage.isImmediate = true := by
    simp [Stage.immediate, Stage.isImmediate]
  rw [bootstrap, bootstrap, service.execStages_facing database cache immediate]
  rcases service.execStages (Stage.immediate path) with ⟨⟨fault | _⟩ | message, next⟩
  · rfl
  · dsimp only [Prod.map, id]
    rw [registerConnectors, registerStages_facing]
    rfl
  · rfl

/-- Startup appends the first stages of its plan to whatever steps there are. Where it stops, and
why, follows from the names that were taken and from the calls that failed. It leaves the earlier
steps alone and has nothing to do with the servers. -/
theorem bootstrap_appends (reachable : service.manager.Reachable) (path : String)
    (testMode : Bool) :
    (∃ appended added calls, service.Appends (Stage.plan path testMode) appended added calls
      (service.bootstrap path testMode).1 (service.bootstrap path testMode).2) ∧
    ∀ database cache, (service.facing database cache).bootstrap path testMode =
      (service.bootstrap path testMode).map id (Service.facing · database cache) := by
  refine ⟨?_, fun database cache => service.bootstrap_facing database cache path testMode⟩
  refine (bootstrap_boots reachable.intact path testMode).appends (Stage.nodup_plan _ _) ?_
  intro before stage whole
  have last := congrArg List.getLast? whole
  rw [List.getLast?_concat] at last
  cases last
  rfl

/-- Somebody else has registered a step by the name of the third stage. -/
theorem bootstrap_appends_two : ∃ service : Service, service.manager.Reachable ∧
    service.manager.status = [⟨"metrics", false⟩] ∧
    (service.bootstrap "config.toml" false).1 = .returned (.error (.duplicate ⟨"metrics"⟩)) ∧
    ∃ added calls, service.Appends (Stage.plan "config.toml" false)
      [.configuration "config.toml", .logging] added calls
      (service.bootstrap "config.toml" false).1 (service.bootstrap "config.toml" false).2 := by
  let operations : List (Operation Unit) := [.register "metrics" []]
  let world : World := { files := Files.write [] "config.toml" (.contents []) }
  let service := (Service.session { world } operations).2
  have reachable : service.manager.Reachable := .operations .fresh _
  have refused : (service.bootstrap "config.toml" false).1 =
      .returned (.error (.duplicate ⟨"metrics"⟩)) := by rfl
  rcases (service.bootstrap_appends reachable "config.toml" false).1 with
    ⟨appended, added, calls, appends⟩
  cases (appends.stopped _ refused : appended = [.configuration "config.toml", .logging])
  exact ⟨service, reachable, rfl, refused, added, calls, appends⟩

end Service

end Bringup
