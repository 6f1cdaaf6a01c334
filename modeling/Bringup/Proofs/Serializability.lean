import Bringup.Proofs.Prospect

namespace Bringup

/-! Threads that take turns.

However the accesses of threads are interleaved, their tasks could have been done one
after the other. The order is found while the threads are at work: a registration
takes its place when it is made, an execution when its step is appended or rejected, a
walk when it ends, and a run that finds the service ready when it does. A task has then
been served, though its thread may still owe the answer (`Owes`). -/

/-! ## What a thread owes -/

namespace Phase

def IsWalking (task : Task α) : Phase → Prop
  | registering _ _ | leaving _ => False
  | _ => task.isWalk = true

/-- Whether the task has taken its place in the order already. -/
def IsPast (task : Task α) : Phase → Prop
  | registering _ _ | visiting _ | stopping _ => False
  | starting _ | acting _ | booking _ _ _ => task.isWalk = false
  | leaving _ => True

end Phase

/-- What a thread has been served and not come back with, given what the threads share
and what they would share had the tasks been done in order. -/
inductive Owes (manner : Manner) (service serial : Service) (thread : Nat) :
    Place α → List (Served α) → Prop
  | idle : Owes manner service serial thread .idle []
  | beginning {task} : Owes manner service serial thread (.beginning task) []
  | waiting {task phase} : Owes manner service serial thread (.waiting task phase) []
  | registering {task name action} (same : serial.ledger = service.ledger) :
      Owes manner service serial thread (.holding task (.registering name action)) []
  | walking {task phase} (walking : phase.IsWalking task)
      (comes : phase.ComesTo manner task service fun meanwhile result =>
        result = (serial.registerAll meanwhile).walk 0) :
      Owes manner service serial thread (.holding task phase) []
  | past {task phase finish} (past : phase.IsPast task)
      (comes : phase.ComesTo manner task service fun meanwhile result =>
        result.1 = finish ∧ result.2.ledger = (serial.registerAll meanwhile).ledger) :
      Owes manner service serial thread (.holding task phase)
        [⟨thread, task, task.answer finish⟩]
  | applying {application} :
      Owes manner service serial thread (.applying application)
        [⟨thread, .run application, Task.answer (.run application) (.returned (.ok ()))⟩]
  | answering {task answer} :
      Owes manner service serial thread (.answering task answer) [⟨thread, task, answer⟩]

namespace Owes

variable {manner : Manner} {service serial next later : Service} {thread : Nat}
  {place : Place α} {owed : List (Served α)}

/-- What a thread without the lock owes does not depend on what is shared. -/
theorem outside (owes : Owes manner service serial thread place owed)
    (outside : place.isHolding = false) : Owes manner next later thread place owed := by
  cases owes with
  | idle => exact .idle
  | beginning => exact .beginning
  | waiting => exact .waiting
  | registering | walking | past => cases outside
  | applying => exact .applying
  | answering => exact .answering

theorem register (owes : Owes .independent service serial thread place owed) (name : String)
    (action : Action) :
    Owes .independent (service.register name action).2 (serial.register name action).2
      thread place owed := by
  cases owes with
  | idle => exact .idle
  | beginning => exact .beginning
  | waiting => exact .waiting
  | registering same => exact .registering (Service.registerAll_congr same [(name, action)])
  | walking walking comes => exact .walking walking (comes.register name action)
  | past past comes => exact .past past (comes.register name action)
  | applying => exact .applying
  | answering => exact .answering

theorem after (task : Task α) (finish : Finish (Except InitError Unit)) :
    Owes manner service serial thread (task.after finish)
      [⟨thread, task, task.answer finish⟩] := by
  unfold Task.after
  split
  · exact .applying
  · exact .answering

end Owes

/-! ## What the holder of the lock does -/

namespace Phase.Step

variable {plays : Action → Nat → Script → Prop} {task : Task α} {service next : Service}
  {phase later : Phase} {happening : Happening α}

theorem walking (step : Phase.Step plays task service phase happening next later)
    (walk : task.isWalk = true) : later.IsWalking task ∨ ∃ finish, later = .leaving finish := by
  have proceeds : ∀ position finish, (task.proceed position finish).IsWalking task ∨
      ∃ other, task.proceed position finish = .leaving other := by
    intro position finish
    unfold Task.proceed
    split
    · exact .inl walk
    · exact .inl walk
    · exact .inr ⟨_, rfl⟩
  cases step with
  | accepts | passes | finds | calls | asks | ends => exact .inl walk
  | refuses | arrives | stops => exact .inr ⟨_, rfl⟩
  | skips | books => exact proceeds _ _

theorem past (step : Phase.Step plays task service phase happening next later)
    (past : phase.IsPast task) : later.IsPast task := by
  have proceeds : task.isWalk = false → ∀ position finish,
      (task.proceed position finish).IsPast task := by
    intro walk position finish
    unfold Task.proceed
    rw [walk]
    trivial
  cases step with
  | accepts | refuses | passes | finds | arrives | stops => cases past
  | calls | asks | ends => exact past
  | skips | books => exact proceeds past _ _

/-- A walk comes to the end of the list only when it ends. -/
theorem ne_walked (step : Phase.Step plays task service phase happening next later)
    (unsettled : (∀ finish, later ≠ .leaving finish) ∨ phase.IsPast task) :
    happening ≠ .walked := by
  intro walked
  cases step with
  | arrives =>
      rcases unsettled with unsettled | past
      · exact unsettled _ rfl
      · cases past
  | asks left replied =>
      have common : (Happening.walked : Happening α).isCommon = true := by simp [← walked]
      cases common
  | @books _ _ _ outcome => cases outcome <;> cases walked
  | accepts | refuses | passes | finds | skips | calls | ends | stops => cases walked

/-- In between, the holder touches no more than how far the steps have come. -/
theorem isTurn_eq_false (step : Phase.Step plays task service phase happening next later)
    (unsettled : (∀ finish, later ≠ .leaving finish) ∨ phase.IsPast task)
    (registered : ∀ name action, phase ≠ .registering name action)
    (quiet : phase.AsksNothing) : happening.isTurn = false := by
  cases step with
  | accepts | refuses => exact absurd rfl (registered _ _)
  | arrives | stops =>
      rcases unsettled with unsettled | past
      · exact absurd rfl (unsettled _)
      · cases past
  | asks left replied =>
      rw [show _ = [] from quiet] at left
      cases left
  | @books _ _ _ outcome => cases outcome <;> rfl
  | passes | finds | skips | calls | ends => rfl

end Phase.Step

/-! ## The order -/

/-- The tasks that have been served could have been done in this order, which leads to
what is told as `serial`. -/
structure Serialized (manner : Manner) (start : Service) (trace : Trace α)
    (system : System α) (order : List (Served α)) (serial : Service) : Prop where
  replay : start.attendAll (order.map Served.task) = (order.map Served.answer, serial)
  gate : serial.manager.Gate
  alike : manner = .independent → serial.manager.outline = system.service.manager.outline
  free : system.holder = none → serial.ledger = system.service.ledger
  owes : ∀ thread, ∃ owed,
    Owes manner system.service serial thread (system.place thread) owed ∧
      Served.ofThread thread order = Served.ofThread thread trace.served ++ owed

namespace Serialized

variable {manner : Manner} {start serial next later : Service} {trace : Trace α}
  {system : System α} {order owed more rest : List (Served α)} {thread : Nat}
  {happening : Happening α} {place : Place α} {holder : Option Nat}

theorem attend (serialized : Serialized manner start trace system order serial)
    {one : Served α} (attended : serial.attend one.task = (one.answer, later)) :
    start.attendAll ((order ++ [one]).map Served.task) =
      ((order ++ [one]).map Served.answer, later) := by
  simp [Service.attendAll_snoc, serialized.replay, attended]

/-- A step after which one thread is at another place and some tasks of it have been
served. -/
theorem put (serialized : Serialized manner start trace system order serial)
    (split : Served.ofThread thread order = Served.ofThread thread trace.served ++ owed)
    (owes : Owes manner next later thread place rest)
    (balance : owed ++ more = happening.served thread ++ rest)
    (mine : ∀ one ∈ more, one.thread = thread)
    (replay : start.attendAll ((order ++ more).map Served.task) =
      ((order ++ more).map Served.answer, later))
    (gate : later.manager.Gate)
    (alike : manner = .independent → later.manager.outline = next.manager.outline)
    (free : holder = none → later.ledger = next.ledger)
    (elsewhere : ∀ other owed, other ≠ thread →
      Owes manner system.service serial other (system.place other) owed →
        Owes manner next later other (system.place other) owed) :
    Serialized manner start (trace ++ [(thread, happening)])
      ({ system with service := next, holder }.put thread place) (order ++ more) later where
  replay := replay
  gate := gate
  alike := alike
  free := free
  owes other := by
    rw [Trace.served_snoc, Served.ofThread_append, Served.ofThread_append]
    by_cases same : other = thread
    · subst other
      rw [System.put_same, Served.ofThread_of_all mine,
        Served.ofThread_of_all Happening.served_thread, split, List.append_assoc, balance,
        ← List.append_assoc]
      exact ⟨rest, owes, rfl⟩
    · rcases serialized.owes other with ⟨others, owesOthers, splitOthers⟩
      rw [System.put_other _ _ same, Served.ofThread_of_other mine same,
        Served.ofThread_of_other Happening.served_thread same, splitOthers]
      exact ⟨others, elsewhere other others same owesOthers, by simp⟩

/-- A step that serves no task. -/
theorem keep (serialized : Serialized manner start trace system order serial)
    (split : Served.ofThread thread order = Served.ofThread thread trace.served ++ owed)
    (owes : Owes manner next serial thread place rest)
    (balance : owed = happening.served thread ++ rest)
    (alike : manner = .independent → next.manager.outline = system.service.manager.outline)
    (free : holder = none → serial.ledger = next.ledger)
    (elsewhere : ∀ other owed, other ≠ thread →
      Owes manner system.service serial other (system.place other) owed →
        Owes manner next serial other (system.place other) owed) :
    Serialized manner start (trace ++ [(thread, happening)])
      ({ system with service := next, holder }.put thread place) order serial := by
  have kept : Serialized manner start (trace ++ [(thread, happening)])
      ({ system with service := next, holder }.put thread place) (order ++ []) serial :=
    serialized.put split owes (by rw [List.append_nil, balance])
      (by intro one member; cases member) (by simpa using serialized.replay)
      serialized.gate (fun manner => (serialized.alike manner).trans (alike manner).symm) free
      elsewhere
  rw [List.append_nil] at kept
  exact kept

/-- A step that has nothing to do with what is shared. -/
theorem aside (serialized : Serialized manner start trace system order serial)
    (split : Served.ofThread thread order = Served.ofThread thread trace.served ++ owed)
    (owes : Owes manner system.service serial thread place rest)
    (balance : owed = happening.served thread ++ rest) :
    Serialized manner start (trace ++ [(thread, happening)]) (system.put thread place) order
      serial :=
  serialized.keep split owes balance (fun _ => rfl) serialized.free fun _ _ _ owes => owes

/-- Others than the holder do not depend on what it does. -/
theorem others (sound : system.Sound) {task : Task α} {phase : Phase}
    (holding : system.place thread = .holding task phase) (other : Nat)
    (owed : List (Served α)) (different : other ≠ thread)
    (owes : Owes manner system.service serial other (system.place other) owed) :
    Owes manner next later other (system.place other) owed := by
  apply owes.outside
  cases place : system.place other with
  | holding otherTask otherPhase => exact absurd (sound.alone holding place) different
  | idle | beginning | waiting | applying | answering => rfl

theorem settle (serialized : Serialized manner start trace system order serial)
    (sound : system.Sound) {task : Task α} {phase settled : Phase}
    {finish : Finish (Except InitError Unit)}
    (holding : system.place thread = .holding task phase)
    (split : Served.ofThread thread order = Served.ofThread thread trace.served ++ [])
    (quiet : happening.served thread = [])
    (attended : (serial.attend task).1 = task.answer finish)
    (past : settled.IsPast task)
    (comes : settled.ComesTo manner task next fun meanwhile result =>
      result.1 = finish ∧
        result.2.ledger = ((serial.attend task).2.registerAll meanwhile).ledger)
    (gate : next.manager.Gate)
    (ready : (serial.attend task).2.manager.ready = true →
      (serial.attend task).2.manager = next.manager)
    (alike : manner = .independent →
      (serial.attend task).2.manager.outline = next.manager.outline) :
    Serialized manner start (trace ++ [(thread, happening)])
      ({ system with service := next }.put thread (.holding task settled))
      (order ++ [⟨thread, task, task.answer finish⟩]) (serial.attend task).2 := by
  have held := (sound.held thread).mpr (by rw [holding]; rfl)
  refine serialized.put split (.past past comes) (by rw [quiet]) ?_ ?_ ?_ alike ?_
    (others sound holding)
  · intro one member
    rw [List.mem_singleton.mp member]
  · exact serialized.attend (by rw [← attended])
  · intro isReady
    have same := ready isReady
    rw [same] at isReady ⊢
    exact gate isReady
  · intro none
    rw [held] at none
    cases none

theorem work (serialized : Serialized manner start trace system order serial)
    (sound : system.Sound) (governs : manner.Governs system) {task : Task α}
    {phase settled : Phase} (holding : system.place thread = .holding task phase)
    (worked : Phase.Step Action.Plays task system.service phase happening next settled)
    (gate : next.manager.Gate) :
    ∃ order serial, Serialized manner start (trace ++ [(thread, happening)])
      ({ system with service := next }.put thread (.holding task settled)) order serial := by
  have held := (sound.held thread).mpr (by rw [holding]; rfl)
  have busy : system.holder = none → serial.ledger = next.ledger := by
    intro none
    rw [held] at none
    cases none
  have fits := sound.fits holding
  have quiet := governs.quiet holding
  have served := (worked.outside_eq_nil thread).2
  rcases serialized.owes thread with ⟨owed, owes, split⟩
  rw [holding] at owes
  cases owes with
  | @registering _ name action same =>
      cases fits
      have allowed : manner.Allows (.exec name action) :=
        governs.allows (by rw [holding]; rfl)
      cases manner with
      | initializing => cases allowed
      | independent =>
          rcases Service.exec_foretold .independent allowed same worked with
            ⟨comes, alike, ready⟩
          have past : settled.IsPast (.exec name action : Task α) := by
            cases worked <;> trivial
          refine ⟨_, _, serialized.settle sound holding split served rfl past comes gate ?_
            fun _ => alike⟩
          intro isReady
          exact ready ((Manager.outline_ready alike).symm.trans isReady)
  | walking walking comes =>
      have walk : task.isWalk = true := by
        cases phase <;> first | exact walking | cases walking
      have registered : ∀ name action, phase ≠ .registering name action := by
        intro name action equal
        rw [equal] at walking
        cases walking
      rcases worked.walking walk with goesOn | ⟨finish, ended⟩
      · have unsettled : ∀ finish, settled ≠ .leaving finish := by
          intro finish equal
          rw [equal] at goesOn
          cases goesOn
        refine ⟨order, serial, serialized.keep split (.walking goesOn ?_) (by rw [served]; rfl)
          ?_ busy (others sound holding)⟩
        · exact fun meanwhile admitted => comes.follow worked fits quiet registered admitted
            (.inr (worked.ne_walked (.inl unsettled)))
        · exact fun manner => worked.effect.keeps_outline
            (worked.isTurn_eq_false (.inl unsettled) registered (quiet manner))
      · subst settled
        rcases comes.follow worked fits quiet registered manner.admits_nil (.inl rfl) with
          ⟨mid, same, walked⟩
        rcases Service.attend_of_walk walk serialized.gate walked.symm with
          ⟨attended, after⟩
        have level : (serial.attend task).2.ledger = next.ledger := after.trans same
        have manager := Service.ledger_manager level
        refine ⟨_, _, serialized.settle sound holding split served attended trivial ?_ gate
          (fun _ => manager) (fun _ => by rw [manager])⟩
        exact fun meanwhile _ => ⟨next.registerAll meanwhile, rfl, rfl,
          Service.registerAll_congr level.symm meanwhile⟩
  | past past comes =>
      have registered : ∀ name action, phase ≠ .registering name action := by
        intro name action equal
        rw [equal] at past
        cases past
      refine ⟨order, serial, serialized.keep split (.past (worked.past past) ?_)
        (by rw [served]; rfl) ?_ busy (others sound holding)⟩
      · exact fun meanwhile admitted => comes.follow worked fits quiet registered admitted
          (.inr (worked.ne_walked (.inr past)))
      · exact fun manner => worked.effect.keeps_outline
          (worked.isTurn_eq_false (.inr past) registered (quiet manner))

theorem register (serialized : Serialized .independent start trace system order serial)
    {name : String} {action : Action}
    (beginning : system.place thread = .beginning (.register name action)) :
    Serialized .independent start
      (trace ++ [(thread, .ofRegistration name (system.service.register name action).1)])
      ({ system with service := (system.service.register name action).2 }.put thread
        (.answering (.register name action)
          (.ofRegistration (system.service.register name action).1)))
      (order ++ [⟨thread, .register name action,
        .ofRegistration (system.service.register name action).1⟩])
      (serial.register name action).2 := by
  rcases serialized.owes thread with ⟨owed, owes, split⟩
  rw [beginning] at owes
  cases owes
  have alike := serialized.alike rfl
  have result := Service.register_fst (Manager.outline_positions alike) name action
  refine serialized.put split .answering ?_ ?_ ?_ ?_ ?_ ?_ ?_
  · cases (system.service.register name action).1 <;> rfl
  · intro one member
    rw [List.mem_singleton.mp member]
  · exact serialized.attend (by rw [← result]; rfl)
  · rw [Service.register_manager]
    exact serialized.gate.enlist name action
  · intro _
    rw [Service.register_manager, Service.register_manager]
    exact Manager.enlist_outline alike name action
  · exact fun none => Service.registerAll_congr (serialized.free none) [(name, action)]
  · exact fun _ _ _ owes => owes.register name action

theorem findReady (serialized : Serialized manner start trace system order serial)
    {application : Finish α} (beginning : system.place thread = .beginning (.run application))
    (ready : serial.manager.ready = true) :
    Serialized manner start (trace ++ [(thread, .silent)])
      (system.put thread (.applying application))
      (order ++ [⟨thread, .run application,
        Task.answer (.run application) (.returned (.ok ()))⟩]) serial := by
  rcases serialized.owes thread with ⟨owed, owes, split⟩
  rw [beginning] at owes
  cases owes
  refine serialized.put split .applying rfl ?_ ?_ serialized.gate serialized.alike
    serialized.free (fun _ _ _ owes => owes)
  · intro one member
    rw [List.mem_singleton.mp member]
  · exact serialized.attend (by simp [Service.attend, Service.prepare, ready])

theorem enter (serialized : Serialized manner start trace system order serial)
    (sound : system.Sound) {task : Task α} {phase : Phase}
    (waiting : system.place thread = .waiting task phase) (free : system.holder = none) :
    Serialized manner start (trace ++ [(thread, .silent)])
      ({ system with holder := some thread }.put thread (.holding task phase)) order serial := by
  have level := serialized.free free
  have opens := sound.opens waiting
  rcases serialized.owes thread with ⟨owed, owes, split⟩
  rw [waiting] at owes
  cases owes
  have holds : Owes manner system.service serial thread (.holding task phase) [] := by
    cases phase with
    | registering name action => exact .registering level
    | visiting position =>
        rcases opens with ⟨walk, rfl⟩
        exact .walking walk fun meanwhile _ =>
          ⟨serial.registerAll meanwhile, Service.registerAll_congr level meanwhile, rfl⟩
    | starting | acting | booking | stopping | leaving => cases opens
  exact serialized.keep split holds rfl (fun _ => rfl) (by intro none; cases none)
    fun _ _ _ owes => owes

theorem leave (serialized : Serialized manner start trace system order serial)
    (sound : system.Sound) {task : Task α} {finish : Finish (Except InitError Unit)}
    (holding : system.place thread = .holding task (.leaving finish)) :
    Serialized manner start (trace ++ [(thread, .silent)])
      ({ system with service := system.service.report task finish, holder := none }.put
        thread (task.after finish)) order serial := by
  rcases serialized.owes thread with ⟨owed, owes, split⟩
  rw [holding] at owes
  cases owes with
  | walking walking => cases walking
  | past past comes =>
      rcases comes.now with ⟨mid, same, rfl, level⟩
      have reported : (system.service.report task finish).ledger = system.service.ledger :=
        Service.ledger_ext (by simp) (by simp)
      refine serialized.keep split (.after task finish) rfl (fun _ => by simp) (fun _ => ?_)
        (others sound holding)
      exact level.symm.trans (same.trans reported.symm)

theorem step (serialized : Serialized manner start trace system order serial)
    {next : System α} (sound : system.Sound) (governs : manner.Governs system)
    (step : System.Step Action.Plays system thread happening next) :
    ∃ order serial, Serialized manner start (trace ++ [(thread, happening)]) next order
      serial := by
  have gate := (sound.step step).gate
  have allowed : ∀ {task}, system.place thread = .beginning task → manner.Allows task :=
    fun beginning => governs.allows (by rw [beginning]; rfl)
  rcases serialized.owes thread with ⟨owed, owes, split⟩
  cases step with
  | begins task idle =>
      rw [idle] at owes
      cases owes
      have starts : Owes manner system.service serial thread task.start [] := by
        cases task with
        | exec | initializeAll => exact .waiting
        | register | run | look => exact .beginning
      exact ⟨order, serial, serialized.aside split starts rfl⟩
  | registers beginning registered =>
      cases manner with
      | initializing => cases allowed beginning
      | independent =>
          have registers := serialized.register beginning
          rw [registered] at registers
          exact ⟨_, _, registers⟩
  | looks beginning => cases manner <;> cases allowed beginning
  | findsReady beginning ready =>
      cases manner with
      | initializing => cases allowed beginning
      | independent =>
          have alike := Manager.outline_ready (serialized.alike rfl)
          exact ⟨_, _, serialized.findReady beginning (alike.trans ready)⟩
  | findsUnready beginning unready =>
      rw [beginning] at owes
      cases owes
      exact ⟨order, serial, serialized.aside split .waiting rfl⟩
  | enters waiting free => exact ⟨order, serial, serialized.enter sound waiting free⟩
  | works holding worked => exact serialized.work sound governs holding worked gate
  | leaves holding => exact ⟨order, serial, serialized.leave sound holding⟩
  | applies applying =>
      rw [applying] at owes
      cases owes
      exact ⟨order, serial, serialized.aside split .answering rfl⟩
  | returns answering =>
      rw [answering] at owes
      cases owes
      exact ⟨order, serial, serialized.aside split .idle rfl⟩

end Serialized

/-! ## Whole runs -/

namespace System

variable {plays : Action → Nat → Script → Prop} {start last : System α} {trace : Trace α}

theorem Run.serialized {manner : Manner} (run : Run Action.Plays start trace last)
    (sound : start.Sound) (quiet : start.IsQuiet)
    (suits : manner.SuitsAll start.service.manager)
    (allows : ∀ thread task, (thread, .began task) ∈ trace → manner.Allows task) :
    manner.Governs last ∧
      ∃ order serial, Serialized manner start.service trace last order serial := by
  induction run with
  | nil =>
      refine ⟨⟨suits, ?_, ?_⟩, [], start.service, ⟨rfl, sound.gate, fun _ => rfl, fun _ => rfl,
        fun thread => ⟨[], ?_, rfl⟩⟩⟩
      · intro thread task at_
        rw [quiet thread] at at_
        cases at_
      · intro thread task phase holding
        rw [quiet thread] at holding
        cases holding
      · rw [quiet thread]
        exact .idle
  | snoc run _ step induction =>
      rcases induction (fun thread task member => allows thread task
        (List.mem_append_left _ member)) with ⟨governs, order, serial, serialized⟩
      have before := run.sound sound
      refine ⟨governs.step before step ?_, serialized.step before governs step⟩
      intro task began
      subst began
      exact allows _ task (List.mem_append_right _ (List.mem_singleton_self _))

/-- However threads take turns that keep to a manner, their tasks could have been done one
after the other: in an order that agrees with that of each thread, with the same answers,
the same calls of actions and the same bookkeeping in the end. Threads that only
initialize get, in some order, what initializing as often in a row would give. -/
theorem Run.serializable {world : World} {earlier : Trace α} (manner : Manner)
    (reached : Run plays (fresh world) earlier start) (quiet : start.IsQuiet)
    (suits : manner.SuitsAll start.service.manager)
    (run : Run Action.Plays start trace last)
    (allows : ∀ thread task, (thread, .began task) ∈ trace → manner.Allows task)
    (complete : last.IsQuiet) :
    ∃ order final,
      (∀ thread, Served.ofThread thread order = Served.ofThread thread trace.served ∧
        (Served.ofThread thread order).map Served.task = trace.begun thread) ∧
      start.service.attendAll (order.map Served.task) = (order.map Served.answer, final) ∧
      final.manager = last.service.manager ∧
      final.world.journal.calls = last.service.world.journal.calls ∧
      (manner = .initializing → (trace.served.map Served.answer).Perm
        (start.service.initializeTimes trace.served.length).1) := by
  have sound := reached.sound (.fresh world)
  rcases (run.serialized sound quiet suits allows).2 with ⟨order, serial, serialized⟩
  have split : ∀ thread,
      Served.ofThread thread order = Served.ofThread thread trace.served := by
    intro thread
    rcases serialized.owes thread with ⟨owed, owes, split⟩
    rw [complete thread] at owes
    cases owes
    simpa using split
  have tasks : ∀ thread,
      (Served.ofThread thread order).map Served.task = trace.begun thread := by
    intro thread
    rw [run.begun quiet thread, complete thread, split]
    simp [Place.task?]
  have free : last.holder = none := by
    cases held : last.holder with
    | none => rfl
    | some thread =>
        have holding := ((run.sound sound).held thread).mp held
        rw [complete thread] at holding
        cases holding
  have level := serialized.free free
  refine ⟨order, serial, fun thread => ⟨split thread, tasks thread⟩, serialized.replay,
    Service.ledger_manager level, Service.ledger_calls level, ?_⟩
  intro initializing
  subst initializing
  have same := Served.perm_of_ofThread split
  have all : order.map Served.task = List.replicate order.length .initializeAll := by
    apply List.eq_replicate_iff.mpr
    refine ⟨by simp, ?_⟩
    intro task member
    rcases List.mem_map.mp member with ⟨one, served, rfl⟩
    have mine : one ∈ Served.ofThread one.thread order :=
      List.mem_filter.mpr ⟨served, by simp⟩
    have begun : one.task ∈ trace.begun one.thread := by
      rw [← tasks]
      exact List.mem_map_of_mem mine
    rcases List.mem_flatMap.mp begun with ⟨⟨thread, happening⟩, entry, began⟩
    cases happening with
    | began task =>
        rw [List.mem_singleton.mp began]
        exact allows thread task (List.mem_filter.mp entry).1
    | registered | rejected | called | ended | completed | walked | stopped | returned
      | silent => cases began
  have replay := serialized.replay
  rw [all, Service.attendAll_initializeAll, same.length_eq] at replay
  rw [replay]
  exact (same.map Served.answer).symm

theorem interleaved_serializable : ∃ system : System Unit,
    Run Action.Plays (fresh {}) interleaved system ∧
      ∃ (order : List (Served Unit)) (final : Service),
        (∀ thread, (Served.ofThread thread order).map Served.task =
          interleaved.begun thread) ∧
        Service.attendAll {} (order.map Served.task) = (order.map Served.answer, final) ∧
        final.manager = system.service.manager := by
  rcases exists_interleaved with ⟨system, run, quiet, _⟩
  have allows : ∀ thread task, (thread, .began task) ∈ interleaved →
      Manner.independent.Allows task := by
    intro thread task member
    simp only [interleaved, List.mem_cons, Prod.mk.injEq, Happening.began.injEq, reduceCtorEq,
      and_false, false_or, or_false, List.not_mem_nil] at member
    rcases member with ⟨_, rfl⟩ | ⟨_, rfl⟩ | ⟨_, rfl⟩
    · exact Action.isIndependent_plain _
    · exact Action.isIndependent_plain _
    · trivial
  have suits : Manner.independent.SuitsAll (fresh {} : System Unit).service.manager := by
    intro step member
    cases member
  have reached : Run Action.Plays (fresh {} : System Unit) [] (fresh {}) := .nil _
  rcases Run.serializable .independent reached (fun _ => rfl) suits run allows quiet with
    ⟨order, final, sameOrder, replay, manager, _⟩
  exact ⟨system, run, order, final, fun thread => (sameOrder thread).2, replay, manager⟩

end System

end Bringup
