import Bringup.Lifecycle.Threads

namespace Bringup

/-! What threads come back with.

A thread comes back from each task that it began, in the same order
(`System.Run.begun`). -/

namespace Place

def task? : Place α → Option (Task α)
  | idle => none
  | beginning task | waiting task _ | holding task _ | answering task _ => some task
  | applying application => some (.run application)

@[simp] theorem task?_start (task : Task α) : task.start.task? = some task := by
  cases task <;> rfl

@[simp] theorem task?_after (task : Task α) (finish : Finish (Except InitError Unit)) :
    (task.after finish).task? = some task := by
  unfold Task.after
  split <;> rfl

end Place

structure Served (α : Type) where
  thread : Nat
  task : Task α
  answer : Answer α

namespace Served

def ofThread (thread : Nat) (served : List (Served α)) : List (Served α) :=
  served.filter fun one => one.thread == thread

@[simp] theorem ofThread_nil (thread : Nat) : ofThread thread ([] : List (Served α)) = [] := rfl

@[simp] theorem ofThread_append (thread : Nat) (first second : List (Served α)) :
    ofThread thread (first ++ second) = ofThread thread first ++ ofThread thread second :=
  List.filter_append _ _

theorem ofThread_of_all {thread : Nat} {served : List (Served α)}
    (mine : ∀ one ∈ served, one.thread = thread) : ofThread thread served = served := by
  apply List.filter_eq_self.mpr
  intro one member
  simp [mine one member]

theorem ofThread_of_other {thread other : Nat} {served : List (Served α)}
    (mine : ∀ one ∈ served, one.thread = thread) (different : other ≠ thread) :
    ofThread other served = [] := by
  apply List.filter_eq_nil_iff.mpr
  intro one member
  simp [mine one member, Ne.symm different]

/-- Lists with the same of every thread are the same but for the order. -/
theorem perm_of_ofThread {first second : List (Served α)}
    (same : ∀ thread, ofThread thread first = ofThread thread second) :
    first.Perm second := by
  classical
  apply List.perm_iff_count.mpr
  intro one
  have mine : ∀ served : List (Served α), (ofThread one.thread served).count one =
      served.count one := fun served => List.count_filter (by simp)
  rw [← mine first, ← mine second, same]

end Served

namespace Happening

def served (thread : Nat) : Happening α → List (Served α)
  | returned task answer => [⟨thread, task, answer⟩]
  | _ => []

theorem served_thread {thread : Nat} {happening : Happening α} :
    ∀ one ∈ happening.served thread, one.thread = thread := by
  intro one member
  cases happening with
  | returned task answer => rw [List.mem_singleton.mp member]
  | began | registered | rejected | called | ended | completed | walked | stopped | silent =>
      cases member

def begun : Happening α → List (Task α)
  | began task => [task]
  | _ => []

theorem outside_ofRegistration (name : String) (result : Except DuplicateName Unit)
    (thread : Nat) : (ofRegistration name result : Happening α).begun = [] ∧
      (ofRegistration name result : Happening α).served thread = [] := by
  cases result <;> exact ⟨rfl, rfl⟩

theorem outside_ofReply (request : Request) (reply : Reply) (thread : Nat) :
    (ofReply request reply : Happening α).begun = [] ∧
      (ofReply request reply : Happening α).served thread = [] := by
  unfold ofReply
  split
  · exact outside_ofRegistration _ _ thread
  · exact ⟨rfl, rfl⟩

end Happening

namespace Trace

def served (trace : Trace α) : List (Served α) :=
  trace.flatMap fun entry => entry.2.served entry.1

def begun (trace : Trace α) (thread : Nat) : List (Task α) :=
  (trace.filter fun entry => entry.1 == thread).flatMap fun entry => entry.2.begun

theorem served_snoc (trace : Trace α) (thread : Nat) (happening : Happening α) :
    served (trace ++ [(thread, happening)]) = trace.served ++ happening.served thread := by
  simp [served]

theorem begun_snoc (trace : Trace α) (thread other : Nat) (happening : Happening α) :
    begun (trace ++ [(thread, happening)]) other =
      trace.begun other ++ if thread = other then happening.begun else [] := by
  by_cases same : thread = other <;> simp [begun, same]

end Trace

namespace Service

theorem attendAll_append (service : Service) (first second : List (Task α)) :
    service.attendAll (first ++ second) =
      ((service.attendAll first).1 ++ ((service.attendAll first).2.attendAll second).1,
        ((service.attendAll first).2.attendAll second).2) := by
  induction first generalizing service with
  | nil => rfl
  | cons task rest induction => simp [attendAll, induction]

theorem attendAll_snoc (service : Service) (tasks : List (Task α)) (task : Task α) :
    service.attendAll (tasks ++ [task]) =
      ((service.attendAll tasks).1 ++ [((service.attendAll tasks).2.attend task).1],
        ((service.attendAll tasks).2.attend task).2) :=
  service.attendAll_append tasks [task]

theorem attendAll_initializeAll (service : Service) (times : Nat) :
    service.attendAll (List.replicate times (.initializeAll : Task α)) =
      service.initializeTimes times := by
  induction times generalizing service with
  | zero => rfl
  | succ times induction =>
      simp only [List.replicate_succ, attendAll, initializeTimes, induction]
      rfl

end Service

/-! ## Beginning and coming back -/

namespace Phase.Step

theorem outside_eq_nil {plays : Action → Nat → Script → Prop} {task : Task α}
    {service next : Service} {phase later : Phase} {happening : Happening α}
    (step : Phase.Step plays task service phase happening next later) (thread : Nat) :
    happening.begun = [] ∧ happening.served thread = [] := by
  cases step with
  | asks left replied => exact Happening.outside_ofReply _ _ _
  | @books _ _ _ outcome => cases outcome <;> exact ⟨rfl, rfl⟩
  | accepts | refuses | passes | finds | arrives | skips | calls | ends | stops =>
      exact ⟨rfl, rfl⟩

end Phase.Step

namespace System

variable {plays : Action → Nat → Script → Prop} {start last system next : System α}
  {trace : Trace α} {thread : Nat} {happening : Happening α}

theorem Step.place_other (step : Step plays system thread happening next) {other : Nat}
    (different : other ≠ thread) : next.place other = system.place other := by
  cases step <;> exact put_other _ _ different

theorem Step.begun (step : Step plays system thread happening next) :
    (system.place thread).task?.toList ++ happening.begun =
      (happening.served thread).map Served.task ++ (next.place thread).task?.toList := by
  have stays : ∀ {task : Task α} {place : Place α}, (system.place thread).task? = some task →
      place.task? = some task → happening.begun = [] → happening.served thread = [] →
      (system.place thread).task?.toList ++ happening.begun =
        (happening.served thread).map Served.task ++ place.task?.toList := by
    intro task place before after begun served
    rw [before, after, begun, served]
    rfl
  cases step with
  | begins task idle => rw [put_same, idle, Place.task?_start]; rfl
  | registers beginning registered =>
      rw [put_same]
      exact stays (by rw [beginning]; rfl) rfl (Happening.outside_ofRegistration _ _ thread).1
        (Happening.outside_ofRegistration _ _ thread).2
  | looks beginning => rw [put_same]; exact stays (by rw [beginning]; rfl) rfl rfl rfl
  | findsReady beginning => rw [put_same]; exact stays (by rw [beginning]; rfl) rfl rfl rfl
  | findsUnready beginning => rw [put_same]; exact stays (by rw [beginning]; rfl) rfl rfl rfl
  | enters waiting => rw [put_same]; exact stays (by rw [waiting]; rfl) rfl rfl rfl
  | works holding worked =>
      rw [put_same]
      exact stays (by rw [holding]; rfl) rfl (worked.outside_eq_nil thread).1
        (worked.outside_eq_nil thread).2
  | leaves holding =>
      rw [put_same]
      exact stays (by rw [holding]; rfl) (Place.task?_after _ _) rfl rfl
  | applies applying => rw [put_same]; exact stays (by rw [applying]; rfl) rfl rfl rfl
  | returns answering => rw [put_same, answering]; rfl

theorem Run.begun (run : Run plays start trace last) (quiet : start.IsQuiet) (thread : Nat) :
    trace.begun thread = (Served.ofThread thread trace.served).map Served.task ++
      (last.place thread).task?.toList := by
  induction run with
  | nil => simp [quiet thread, Trace.begun, Trace.served, Place.task?]
  | snoc run actor step induction =>
      rw [Trace.begun_snoc, Trace.served_snoc, Served.ofThread_append, induction]
      by_cases same : actor = thread
      · subst actor
        rw [if_pos rfl, Served.ofThread_of_all Happening.served_thread, List.append_assoc,
          step.begun, List.map_append, List.append_assoc]
      · rw [if_neg same, step.place_other (Ne.symm same),
          Served.ofThread_of_other Happening.served_thread (Ne.symm same)]
        simp

end System

end Bringup
