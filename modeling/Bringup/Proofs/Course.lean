import Bringup.Proofs.Entries
import Bringup.Proofs.Meanwhile
import Mathlib.Logic.Relation

namespace Bringup

/-! The course of a process.

Whatever operations a process performs one after the other, what becomes of it is a
sequence of a few kinds of moves: steps are registered, pending steps are run, walks come to
their end, an exporter is installed, or something is noted that has nothing to do with the
steps (`Service.Course`). That this is so is shown once, for every operation
(`Operation.perform_course`). What each move keeps then holds at all times. -/

namespace Event

def isAboutSteps : Event → Bool
  | stepRunning _ | stepCompleted _ | stepFailed _ _ | bootstrapComplete _ => true
  | _ => false

end Event

namespace Entry

/-- Tells neither about steps that run nor about the gauge. -/
def isAside : Entry → Bool
  | gauge _ | sample _ _ | call _ | exporterInstalled _ => false
  | .event logged => !logged.isAboutSteps
  | serverEvent _ | loggerInstalled _ | bound _ _ | sought _ | login _ | command _ => true

end Entry

theorem Stage.isAside_of_writes {stage : Stage} (other : stage ≠ .metrics) {entry : Entry}
    (writes : stage.writes entry = true) : entry.isAside = true := by
  unfold Stage.writes at writes
  split at writes <;> first | rfl | exact absurd rfl other | cases writes

namespace World

theorem installExporter_notes {world : World} {address : SocketAddress} {fault : ExporterError}
    (failed : (world.installExporter address).1 = .error fault) :
    Journal.Adds Entry.isAside world.journal (world.installExporter address).2.journal := by
  rcases world.installExporter_cases address with ⟨_, succeeded, _⟩ | ⟨_, left⟩
  · rw [failed] at succeeded
    cases succeeded
  · refine left.mono fun entry bound => ?_
    split at bound
    · rfl
    · cases bound

/-- Work of a stage is noted aside, but for the installation of the exporter. -/
theorem attempt_notes (world : World) (stage : Stage) :
    Journal.Adds Entry.isAside world.journal (world.attempt stage).2.journal ∨
      world.journal.exported? = none ∧ ∃ address chosen, Journal.Adds Entry.isAside
        (world.journal ++ installationEntries address chosen)
        (world.attempt stage).2.journal := by
  by_cases metrics : stage = .metrics
  · subst metrics
    have ended : world.attempt .metrics = (world.perform .metrics).map .of id := rfl
    rw [ended]
    simp only [perform, Prod.map, id]
    split
    · exact .inl (.refl _ _)
    · split
      · exact .inl (.refl _ _)
      · split
        · exact .inl (.refl _ _)
        · rename_i address _
          split <;> rename_i installed
          · have notes := installExporter_notes (congrArg Prod.fst installed)
            rw [installed] at notes
            exact .inl notes
          · rcases world.installExporter_cases address with
              ⟨chosen, _, _, first, grown⟩ | ⟨⟨fault, failed⟩, _⟩
            · rw [installed] at grown
              refine .inr ⟨first, address, chosen, ?_⟩
              rw [← grown]
              exact .one _ rfl
            · rw [installed] at failed
              cases failed
  · exact .inl ((world.attempt_adds stage).mono fun _ => Stage.isAside_of_writes metrics)

end World

namespace Manager

theorem enlistAll_append (manager : Manager) (first second : List (String × Action)) :
    manager.enlistAll (first ++ second) = (manager.enlistAll first).enlistAll second := by
  induction first generalizing manager with
  | nil => rfl
  | cons registration rest induction => exact induction _

theorem DoneBelow.enlistAll {manager : Manager} {position : Nat}
    (below : manager.DoneBelow position) (meanwhile : List (String × Action)) :
    (manager.enlistAll meanwhile).DoneBelow position := by
  intro earlier less
  rcases Option.map_eq_some_iff.mp (below earlier less) with ⟨step, stands, completed⟩
  rw [completed?_of_stands (enlistAll_stands stands meanwhile), completed]

theorem DoneBelow.mark {manager : Manager} {position : Nat} (below : manager.DoneBelow position)
    (outcome : Outcome) (marked : Nat) : (outcome.mark manager marked).DoneBelow position := by
  intro earlier less
  have completed := below earlier less
  cases outcome with
  | succeeded => simp [Outcome.mark, completed]
  | failed | panicked => exact completed

theorem DoneBelow.eq_length {manager : Manager} {position : Nat}
    (below : manager.DoneBelow position) (past : manager.steps[position]? = none) :
    position = manager.steps.length := by
  refine Nat.le_antisymm (Nat.not_lt.mp fun beyond => ?_) (List.getElem?_eq_none_iff.mp past)
  have completed := below manager.steps.length beyond
  simp [completed?] at completed

end Manager

namespace Service

/-! ## Running a step -/

/-- What an action does while it is called. -/
inductive Deed : Service → Service → Prop
  | registers (service : Service) (name : String) (action : Action) :
      Deed service (service.register name action).2
  | attempts (service : Service) (stage : Stage) :
      Deed service { service with world := (service.world.attempt stage).2 }

abbrev Deeds : Service → Service → Prop := Relation.ReflTransGen Deed

theorem reply_deeds (service : Service) (request : Request) :
    Deeds service (service.reply request).2 := by
  cases request with
  | register name runs isRequired =>
      have registered := Deed.registers service name (.scripted runs)
      unfold reply
      simp only
      split <;> rename_i found <;> rw [found] at registered <;> exact .single registered
  | isInitialized | isReady | status => exact .refl

theorem answer_deeds (service : Service) (requests : List Request) :
    Deeds service (service.answer requests).2 := by
  fun_induction answer service requests with
  | case1 => exact .refl
  | case2 service request rest reply fault next replied =>
      have first := service.reply_deeds request
      rwa [replied] at first
  | case3 service request rest reply next replied replies rejected last answered induction =>
      have first := service.reply_deeds request
      rw [replied] at first
      rw [answered] at induction
      exact first.trans induction

theorem callAction_deeds (service : Service) (action : Action) (call : Nat) :
    Deeds service (service.callAction action call).2 := by
  cases action with
  | scripted runs => exact service.answer_deeds _
  | plain endings => exact service.answer_deeds []
  | stage stage =>
      exact .single (.attempts service stage)

theorem runStep_cases (service : Service) (position : Nat) (step : Step) :
    ∃ ended replies outcome, Deeds (service.beginCall position step) ended ∧
      service.runStep position step =
        (ended.endCall step replies outcome).book position step.name outcome := by
  have deeds := (service.beginCall position step).callAction_deeds step.action step.calls
  rcases called : (service.beginCall position step).callAction step.action step.calls with
    ⟨⟨replies, outcome⟩, ended⟩
  rw [called] at deeds
  exact ⟨ended, replies, outcome, deeds, by simp only [runStep, called]⟩

/-- Deeds only register steps. -/
theorem Deeds.manager {service next : Service} (deeds : Deeds service next) :
    ∃ meanwhile, next.manager = service.manager.enlistAll meanwhile := by
  induction deeds with
  | refl => exact ⟨[], rfl⟩
  | tail _ deed induction =>
      rcases induction with ⟨meanwhile, same⟩
      cases deed with
      | registers name action =>
          refine ⟨meanwhile ++ [(name, action)], ?_⟩
          rw [register_manager, same, Manager.enlistAll_append]
          rfl
      | attempts => exact ⟨meanwhile, same⟩

theorem runStep_manager (service : Service) (position : Nat) (step : Step) :
    ∃ meanwhile, ∃ outcome : Outcome, (service.runStep position step).2.manager =
        outcome.mark ((service.manager.noteCall position).enlistAll meanwhile) position ∧
      ((service.runStep position step).1 = .returned (.ok ()) → outcome = .succeeded) := by
  rcases service.runStep_cases position step with ⟨ended, replies, outcome, deeds, ran⟩
  rcases deeds.manager with ⟨meanwhile, same⟩
  refine ⟨meanwhile, outcome, ?_, fun succeeded => ?_⟩
  · rw [ran, book_manager, endCall_manager, same, beginCall_manager]
  · rw [ran] at succeeded
    cases outcome <;> first | rfl | cases succeeded

theorem runStep_doneBelow {service : Service} {position : Nat} {step : Step}
    (stands : service.manager.steps[position]? = some step)
    (below : service.manager.DoneBelow position)
    (succeeded : (service.runStep position step).1 = .returned (.ok ())) :
    (service.runStep position step).2.manager.DoneBelow (position + 1) := by
  rcases service.runStep_manager position step with ⟨meanwhile, outcome, same, succeeds⟩
  cases succeeds succeeded
  have noted : (service.manager.noteCall position).steps[position]? = some step.called := by
    simp [Manager.noteCall, stands]
  have found := Manager.enlistAll_stands noted meanwhile
  rw [same]
  refine Manager.DoneBelow.succ (((below.noteCall position).enlistAll meanwhile).mark _ _) ?_
  simp [Outcome.mark, Manager.completed?_of_stands found]

/-! ## Moves -/

/-- A move of a process. An exporter is installed otherwise than by a stage only if that is
allowed. -/
inductive Move (direct : Prop) : Service → Service → Prop
  | registers (service : Service) (name : String) (action : Action) :
      Move direct service (service.register name action).2
  | pushes {service next : Service} {name : String} {action : Action}
      (pushed : service.push name action = .ok next) : Move direct service next
  | runs {service : Service} {position : Nat} {step : Step}
      (stands : service.manager.steps[position]? = some step)
      (pending : step.completed = false) :
      Move direct service (service.runStep position step).2
  | exports (service : Service) (address : SocketAddress) (allowed : direct) :
      Move direct service
        { service with world := (service.world.installExporter address).2 }
  | notes {service : Service} {world : World}
      (noted : Journal.Adds Entry.isAside service.world.journal world.journal) :
      Move direct service { service with world }

abbrev Walked := Finish (Except InitError Unit) × Service

inductive Ends : Service → Walked → Prop
  | arrives {service : Service} {position : Nat}
      (past : service.manager.steps[position]? = none)
      (below : service.manager.DoneBelow position) :
      Ends service
        (.returned (.ok ()), (service.setReady true).log (.bootstrapComplete position))
  | stops (service : Service) (fault : InitError) :
      Ends service (.returned (.error fault), service.setReady false)
  | panics (service : Service) (message : String) : Ends service (.panicked message, service)

/-- Any number of moves, and the walks that ended among them. -/
inductive Course (direct : Prop) (first : Service) : List Walked → Service → Prop
  | nil : Course direct first [] first
  | move {walks : List Walked} {middle last : Service}
      (course : Course direct first walks middle) (move : Move direct middle last) :
      Course direct first walks last
  | ends {walks : List Walked} {middle : Service} {walked : Walked}
      (course : Course direct first walks middle) (ended : Ends middle walked) :
      Course direct first (walks ++ [walked]) walked.2

variable {direct : Prop}

theorem Course.trans {first middle last : Service} {earlier later : List Walked}
    (course : Course direct first earlier middle) (further : Course direct middle later last) :
    Course direct first (earlier ++ later) last := by
  induction further with
  | nil => rwa [List.append_nil]
  | move _ move induction => exact induction.move move
  | ends _ ended induction =>
      rw [← List.append_assoc]
      exact induction.ends ended

theorem Course.notes {first middle : Service} {walks : List Walked}
    (course : Course direct first walks middle) {world : World}
    (noted : Journal.Adds Entry.isAside middle.world.journal world.journal) :
    Course direct first walks { middle with world } :=
  course.move (.notes noted)

/-! ## Walks -/

theorem walk_course {service : Service} {position : Nat}
    (below : service.manager.DoneBelow position) :
    Course direct service [service.walk position] (service.walk position).2 := by
  fun_induction walk service position with
  | case1 service position past => exact Course.nil.ends (.arrives past below)
  | case2 service position step stands done induction =>
      exact induction (below.succ (by rw [Manager.completed?_of_stands stands, done]))
  | case3 service position step stands pending message next ran =>
      have runs : Move direct service _ := .runs stands (by simpa using pending)
      rw [ran] at runs
      exact (Course.nil.move runs).ends (.panics next message)
  | case4 service position step stands pending fault next ran =>
      have runs : Move direct service _ := .runs stands (by simpa using pending)
      rw [ran] at runs
      exact (Course.nil.move runs).ends (.stops next fault)
  | case5 service position step stands pending next ran induction =>
      have runs : Move direct service _ := .runs stands (by simpa using pending)
      -- What its action registered stands after all steps, so the walk has yet to come there.
      have past := runStep_doneBelow stands below (by rw [ran])
      rw [ran] at runs past
      exact (Course.nil.move runs).trans (induction past)

theorem initializeAll_course (service : Service) :
    Course direct service [service.initializeAll] service.initializeAll.2 :=
  walk_course fun _ less => by cases less

def prepareWalks (service : Service) : List Walked :=
  if service.manager.ready then [] else [service.initializeAll]

theorem prepare_course (service : Service) :
    Course direct service service.prepareWalks service.prepare.2 := by
  have walked : Course direct service _ _ := initializeAll_course service
  unfold prepare prepareWalks
  split
  · exact .nil
  · split
    · rename_i failed
      rw [failed] at walked ⊢
      exact walked.notes (.one _ rfl)
    · exact walked

def initializeWalks (service : Service) : Nat → List Walked
  | 0 => []
  | times + 1 => service.initializeAll :: service.initializeAll.2.initializeWalks times

theorem initializeTimes_course (service : Service) (times : Nat) :
    Course direct service (service.initializeWalks times)
      (service.initializeTimes (α := α) times).2 := by
  induction times generalizing service with
  | zero => exact .nil
  | succ times induction => exact (initializeAll_course service).trans (induction _)

/-! ## Startup -/

theorem exec_course (service : Service) (name : String) (action : Action) :
    Course direct service [] (service.exec name action).2 := by
  unfold exec
  split
  · exact .nil
  · rename_i next pushed
    exact (Course.nil.move (.pushes pushed)).move (.runs (push_stands pushed) rfl)

theorem execStages_course (service : Service) (stages : List Stage) :
    Course direct service [] (service.execStages stages).2 := by
  induction stages generalizing service with
  | nil => exact .nil
  | cons stage rest induction =>
      have executed : Course direct service _ _ := exec_course service stage.name (.stage stage)
      unfold execStages execStage
      split
      · rename_i next succeeded
        rw [succeeded] at executed
        exact executed.trans (induction next)
      · exact executed

theorem registerStage_course (service : Service) (stage : Stage) :
    Course direct service [] (service.registerStage stage).2 := by
  have registered : Move direct service _ := .registers service stage.name (.stage stage)
  unfold registerStage
  split <;> rename_i found <;> rw [found] at registered <;> exact Course.nil.move registered

theorem registerStages_course (service : Service) (stages : List Stage) :
    Course direct service [] (service.registerStages stages).2 := by
  induction stages generalizing service with
  | nil => exact .nil
  | cons stage rest induction =>
      have registered : Course direct service _ _ := registerStage_course service stage
      unfold registerStages
      split <;> rename_i found <;> rw [found] at registered
      · exact registered
      · exact registered.trans (induction _)

theorem bootstrap_course (service : Service) (path : String) (testMode : Bool) :
    Course direct service [] (service.bootstrap path testMode).2 := by
  have executed : Course direct service _ _ := execStages_course service (Stage.immediate path)
  unfold bootstrap
  split
  · rename_i next succeeded
    rw [succeeded] at executed
    exact executed.trans (next.registerStages_course _)
  · exact executed

end Service

/-! ## Operations -/

namespace Operation

open Service

mutual

def walks (service : Service) : Operation α → List Walked
  | initializeAll => [service.initializeAll]
  | run _ inner =>
      service.prepareWalks ++
        match service.prepare with
        | (.returned (.ok ()), next) => walksAll next inner
        | _ => []
  | initializeAtOnce threads => service.initializeWalks threads
  | _ => []

def walksAll (service : Service) : List (Operation α) → List Walked
  | [] => []
  | operation :: rest =>
      walks service operation ++
        match operation.perform service with
        | (.returned _, next) => walksAll next rest
        | (.panicked _, _) => []

end

mutual

def exportsDirectly : Operation α → Bool
  | installExporter _ => true
  | run _ inner => anyExportsDirectly inner
  | _ => false

def anyExportsDirectly : List (Operation α) → Bool
  | [] => false
  | operation :: rest => operation.exportsDirectly || anyExportsDirectly rest

end

end Operation

namespace Service

variable {direct : Prop}

theorem startServer_adds (world : World) :
    Journal.Adds Entry.isAside world.journal world.startServer.journal := by
  unfold World.startServer
  split
  · exact .refl _ _
  · exact .one _ rfl

theorem request_course (service : Service) (sent : HttpRequest) :
    Course direct service [] (service.request sent).2 := by
  have started : Course direct service _ _ := Course.nil.notes (startServer_adds service.world)
  unfold request
  simp only
  split <;> exact started

theorem signal_course (service : Service) : Course direct service [] service.signal := by
  refine Course.nil.notes ?_
  refine .trans (.one _ rfl : Journal.Adds _ _ (service.world.log .shutdownReceived).journal) ?_
  unfold World.stopServer
  split
  · exact .one _ rfl
  · exact .refl _ _

end Service

namespace Operation

open Service

variable {direct : Prop}

mutual

theorem perform_course (service : Service) (operation : Operation α)
    (allowed : operation.exportsDirectly = true → direct) :
    Course direct service (operation.walks service) (operation.perform service).2 := by
  cases operation with
  | register name runs =>
      have registered : Move direct service _ := .registers service name (.scripted runs)
      unfold perform walks
      split <;> rename_i found <;> rw [found] at registered <;> exact Course.nil.move registered
  | exec name runs => exact exec_course service name (.scripted runs)
  | initializeAll => exact initializeAll_course service
  | run value inner =>
      have prepared : Course direct service _ _ := prepare_course service
      rcases found : service.prepare with ⟨finish, next⟩
      rw [found] at prepared
      cases finish with
      | panicked message => simpa only [perform, walks, found, List.append_nil] using prepared
      | returned result =>
          cases result with
          | error fault => simpa only [perform, walks, found, List.append_nil] using prepared
          | ok done =>
              have further := performAll_course next inner allowed
              simpa only [perform, walks, found] using prepared.trans further
  | isInitialized | isReady | status | statusText | components | scrape => exact .nil
  | initializeAtOnce threads => exact initializeTimes_course service threads
  | setConfig config =>
      exact Course.nil.notes (by simpa using Journal.Adds.refl _ _)
  | getConfig | getDatabase =>
      unfold perform walks
      split <;> exact .nil
  | getCache =>
      unfold perform walks
      split
      · exact Course.nil.notes (.one _ rfl)
      · exact .nil
  | setDatabase config testMode =>
      have noted := (service.world.connectDatabase_adds config testMode).mono fun _ =>
        Stage.isAside_of_writes (by simp)
      unfold perform walks
      split
      · exact .nil
      · split <;> rename_i found <;> rw [found] at noted
        · exact Course.nil.notes noted
        · exact Course.nil.notes (by simpa using noted)
  | setCache config =>
      have noted := (service.world.connectCache_adds config).mono fun _ =>
        Stage.isAside_of_writes (by simp)
      unfold perform walks
      split <;> rename_i found <;> rw [found] at noted
      · exact Course.nil.notes noted
      · exact Course.nil.notes (by simpa using noted)
  | registerConnectors testMode =>
      exact registerStages_course service (Stage.deferred testMode)
  | request sent => exact request_course service sent
  | bootstrap path testMode => exact bootstrap_course service path testMode
  | writeFile | elapse => exact Course.nil.notes (.refl _ _)
  | installLogger config =>
      exact Course.nil.notes ((service.world.installLogger_adds config).mono fun _ =>
        Stage.isAside_of_writes (by simp))
  | installExporter address =>
      exact Course.nil.move (.exports service address (allowed rfl))
  | signal => exact signal_course service

theorem performAll_course (service : Service) (operations : List (Operation α))
    (allowed : anyExportsDirectly operations = true → direct) :
    Course direct service (walksAll service operations) (performAll service operations).2 := by
  cases operations with
  | nil => exact .nil
  | cons operation rest =>
      have first := perform_course service operation fun exports =>
        allowed (by simp [anyExportsDirectly, exports])
      rcases found : operation.perform service with ⟨finish, next⟩
      rw [found] at first
      cases finish with
      | panicked message => simpa only [performAll, walksAll, found, List.append_nil] using first
      | returned answer =>
          have further := performAll_course next rest fun exports =>
            allowed (by simp [anyExportsDirectly, exports])
          simpa only [performAll, walksAll, found] using first.trans further

end

end Operation

namespace Service

variable {direct : Prop}

def walks (service : Service) : List (Operation α) → List Walked
  | [] => []
  | operation :: rest => operation.walks service ++ (operation.perform service).2.walks rest

theorem session_course (service : Service) (operations : List (Operation α)) :
    Course (Operation.anyExportsDirectly operations = true) service (service.walks operations)
      (service.session operations).2 := by
  suffices course : ∀ {direct : Prop} (service : Service),
      (Operation.anyExportsDirectly operations = true → direct) →
      Course direct service (service.walks operations) (service.session operations).2 from
    course service id
  intro direct service allowed
  induction operations generalizing service with
  | nil => exact .nil
  | cons operation rest induction =>
      have first := operation.perform_course service fun exports =>
        allowed (by simp [Operation.anyExportsDirectly, exports])
      exact first.trans (induction _ fun exports =>
        allowed (by simp [Operation.anyExportsDirectly, exports]))

end Service

end Bringup
