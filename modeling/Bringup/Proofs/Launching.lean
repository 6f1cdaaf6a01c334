import Bringup.Proofs.Staging

namespace Bringup

/-! A run of the service from its arguments to its end.

A run goes on until a milestone comes to a setback, which its exit code and its messages tell of,
or until it has served. The server answers requests in a run of the second kind only, and then
says that everything is in place; the exporter answers from its own stage on, at its own address
(`Serving.launch_in_turn`). -/

/-- A request that an endpoint answers: it is well formed and has the path of the endpoint. -/
structure HttpRequest.Asks (request : HttpRequest) (endpoint : Endpoint) : Prop where
  method : request.method = "GET"
  carried : request.target.toList.all Http.Target.isCarried = true
  short : request.target.utf8ByteSize ≤ Http.Target.lengthLimit
  path : Http.Target.path? request.target = some endpoint.path

theorem Http.respond_of_asks {request : HttpRequest} {endpoint : Endpoint}
    (asks : request.Asks endpoint) (manager : Manager) (context : Context) :
    respond manager context request = respondTo manager context endpoint := by
  have named : Endpoint.named? endpoint.path = some endpoint := by
    cases endpoint <;> decide
  have method : Target.isMethod "GET" = true := by decide
  have short : ¬ Target.lengthLimit < request.target.utf8ByteSize := Nat.not_lt.mpr asks.short
  simp only [respond, asks.method, method, asks.carried, short, asks.path, respondAt, named,
    Bool.not_true, Bool.or_self, Bool.false_eq_true, if_false, if_true]

def Readiness.complete : Readiness where
  isReady := true
  steps := ["config", "logging", "metrics", "database", "cache"].map (⟨·, true⟩)
  components := [.config, .database, .cache]

/-- What is told about readiness once all stages are done. -/
def HttpResponse.complete : HttpResponse where
  status := 200
  contentType := some "application/json"
  body := "\x7b\"ready\":true,\"steps\":[" ++
    "\x7b\"name\":\"config\",\"completed\":true\x7d," ++
    "\x7b\"name\":\"logging\",\"completed\":true\x7d," ++
    "\x7b\"name\":\"metrics\",\"completed\":true\x7d," ++
    "\x7b\"name\":\"database\",\"completed\":true\x7d," ++
    "\x7b\"name\":\"cache\",\"completed\":true\x7d]," ++
    "\"components\":[\"config\",\"database\",\"cache\"]\x7d"

theorem Http.readinessResponse_complete : readinessResponse .complete = .complete := by
  decide +kernel

def Milestone.notice : Milestone → Setback → String
  | _, .panicked message => "thread 'main' panicked:\n" ++ message ++ "\n"
  | step name, .failed reason =>
      if name ∈ ["config", "logging", "metrics"] then
        "account-service: bootstrap failed: initialization step '" ++ name ++ "' failed: " ++
          reason ++ "\n"
      else ""
  | listening, .failed _ | serving, .failed _ => ""

def Setback.code : Setback → Nat
  | failed _ => 1
  | panicked _ => 101

/-! ## Who is reached -/

theorem Journal.mem_sockets {journal : Journal} {listener : Listener} {chosen : SocketAddress} :
    (listener, chosen) ∈ journal.sockets ↔ .bound listener chosen ∈ journal := by
  refine List.mem_filterMap.trans ⟨?_, fun member => ⟨_, member, rfl⟩⟩
  rintro ⟨entry, member, same⟩
  cases entry with
  | bound => cases same; exact member
  | _ => cases same

namespace World

variable {world : World} {target : SocketAddress} {listener : Listener}

theorem socket_of_listenerAt? (reached : world.listenerAt? target = some listener) :
    ∃ chosen, .bound listener chosen ∈ world.journal ∧ chosen.covers target = true := by
  unfold listenerAt? at reached
  split at reached
  · rcases Option.map_eq_some_iff.mp reached with ⟨⟨_, chosen⟩, found, rfl⟩
    exact ⟨chosen, Journal.mem_sockets.mp (List.mem_of_find?_eq_some found),
      by simpa using List.find?_some found⟩
  · cases reached

/-- Where one listener can be reached and no other, it is. -/
theorem listenerAt?_of_alone (up : world.network.isUp = true) {chosen : SocketAddress}
    (listens : .bound listener chosen ∈ world.journal) (covers : chosen.covers target = true)
    (alone : ∀ other address, .bound other address ∈ world.journal →
      address.covers target = true → other = listener) :
    world.listenerAt? target = some listener := by
  unfold listenerAt?
  rw [if_pos up]
  cases found : world.journal.sockets.find? fun socket => socket.2.covers target with
  | none => exact absurd covers (List.find?_eq_none.mp found _ (Journal.mem_sockets.mpr listens))
  | some socket =>
      have member := Journal.mem_sockets.mp (List.mem_of_find?_eq_some found)
      exact congrArg some (alone _ _ member (by simpa using List.find?_some found))

end World

def Serving.Reception.listener : Serving.Reception → Listener
  | byServer _ => .server
  | byExporter => .exporter

namespace Service

variable {service : Service} {requests : List HttpRequest}

theorem receive_listens {reception : Serving.Reception}
    (heard : some reception ∈ service.receive requests) :
    ∃ chosen target, .bound reception.listener chosen ∈ service.world.journal ∧
      SocketAddress.read? service.world.network.http = some target ∧
      chosen.covers target = true := by
  rcases List.mem_map.mp heard with ⟨request, _, same⟩
  rcases Option.map_eq_some_iff.mp same with ⟨listener, found, answered⟩
  rcases Option.bind_eq_some_iff.mp found with ⟨target, read, reached⟩
  rcases World.socket_of_listenerAt? reached with ⟨chosen, listens, covers⟩
  have own : reception.listener = listener := by
    rw [← answered]
    cases listener <;> rfl
  exact ⟨chosen, target, own ▸ listens, read, covers⟩

theorem receive_of_server {target : SocketAddress}
    (read : SocketAddress.read? service.world.network.http = some target)
    (reached : service.world.listenerAt? target = some .server) :
    service.receive requests = requests.map fun request =>
      some (.byServer (Http.respond service.manager service.world.context request)) := by
  simp [receive, read, reached]

theorem receive_answers {position : Nat} {request : HttpRequest} {response : HttpResponse}
    (asked : requests[position]? = some request)
    (answered : (service.receive requests)[position]? = some (some (.byServer response))) :
    response = Http.respond service.manager service.world.context request := by
  simp only [receive, List.getElem?_map, asked, Option.map_some, Option.some.injEq] at answered
  rcases Option.map_eq_some_iff.mp answered with ⟨listener, _, same⟩
  cases listener <;> cases same
  rfl

end Service

/-! ## How a run ends -/

namespace Serving

/-- A run that has come to its end on the way to a milestone. -/
structure Run.Stopped (run : Run) (start : World) (options : Options) (milestone : Milestone)
    (setback : Setback) : Prop where
  attempted : run.world.Attempted start options (milestone.stopped setback)
  code : run.exit.code = setback.code
  errorOutput : run.exit.errorOutput = milestone.notice setback
  unserved : ∀ response, some (.byServer response) ∉ run.receptions

/-- A run that has reached every milestone. -/
structure Run.Served (run : Run) (start : World) (options : Options)
    (requests : List HttpRequest) : Prop where
  attempted : run.world.Attempted start options (Milestone.plan.map Milestone.reached)
  exit : run.exit = { code := 0 }
  connected : start.IsLetIn options run.world.journal ∧ start.IsGreeted options run.world.journal
  readiness : ∀ (position : Nat) (request : HttpRequest) (response : HttpResponse),
    requests[position]? = some request →
      run.receptions[position]? = some (some (.byServer response)) →
        request.Asks .readiness → response = .complete
  /-- Requests that are sent to where the server listens, and only the server, are answered. -/
  served : ∀ chosen target, start.network.isUp = true → start.Opens options .server chosen →
    SocketAddress.read? start.network.http = some target → chosen.covers target = true →
      (∀ other, start.Opens options .exporter other → other.covers target = false) →
        ∀ reception ∈ run.receptions, ∃ response, reception = some (.byServer response)

/-- A run that goes on until it is stopped or has served, and does everything in turn. -/
structure Run.Orderly (run : Run) (start : World) (options : Options)
    (requests : List HttpRequest) : Prop where
  ends : (∃ milestone ∈ Milestone.plan, milestone ≠ .serving ∧ ∃ setback,
      run.Stopped start options milestone setback) ∨ run.Served start options requests
  /-- Nothing is done for the cache before the database has let the service in. -/
  patient : ∀ before entry after, run.world.journal = before ++ entry :: after →
    entry.milestone? = some (.step "cache") → start.IsLetIn options before
  /-- The exporter answers only once the metrics have been started, where the configuration has
  enabled them at an address that the requests are sent to. -/
  exported : some .byExporter ∈ run.receptions →
    (Milestone.step "metrics").reached ∈ run.world.journal.attempts ∧
      ∃ chosen target, start.Opens options .exporter chosen ∧
        SocketAddress.read? start.network.http = some target ∧ chosen.covers target = true

theorem bootstrapMessage_step (name : String) (cause : Cause) :
    bootstrapMessage (.step name cause) =
      "account-service: bootstrap failed: initialization step '" ++ name ++ "' failed: " ++
        cause.message ++ "\n" := by
  have told : bootstrapMessage (.step name cause) =
      "account-service: bootstrap failed: " ++
        ("initialization step '" ++ name ++ "' failed: " ++ cause.message) ++ "\n" := rfl
  generalize cause.message = reason at told ⊢
  rw [told]
  simp only [← String.append_assoc, String.reduceAppend]

end Serving

namespace World

variable {start world : World} {options : Serving.Options} {attempts : List Attempt}

theorem Opens.unique {listener : Listener} {first second : SocketAddress}
    (opens : start.Opens options listener first) (again : start.Opens options listener second) :
    first = second := by
  rcases opens with ⟨config, address, loads, asks, rfl⟩
  rcases again with ⟨other, _, loads', asks', rfl⟩
  cases (Except.ok.inj (loads.symm.trans loads') : config = other)
  rw [Option.some.inj (asks.symm.trans asks')]

theorem Attempted.patient (attempted : world.Attempted start options attempts) {before : Journal}
    {entry : Entry} {after : Journal} (split : world.journal = before ++ entry :: after)
    (aims : entry.milestone? = some (.step "cache")) : start.IsLetIn options before := by
  have turn := (attempted.inTurn before entry after split).turn _ aims
  refine (attempted.inTurn.before ⟨_, split.symm⟩).letIn ?_
  rw [turn]
  decide

theorem Attempted.exported {service : Service} {requests : List HttpRequest}
    (attempted : service.world.Attempted start options attempts)
    (heard : some .byExporter ∈ service.receive requests) :
    (Milestone.step "metrics").reached ∈ attempts ∧
      ∃ chosen target, start.Opens options .exporter chosen ∧
        SocketAddress.read? start.network.http = some target ∧ chosen.covers target = true := by
  rcases Service.receive_listens heard with ⟨chosen, target, listens, read, covers⟩
  rcases attempted.listens listens with ⟨reached, opens⟩
  exact ⟨reached, chosen, target, opens, attempted.underway.network ▸ read, covers⟩

end World

namespace Service

variable {start : World} {options : Serving.Options} {service : Service}

def listening (service : Service) (chosen : SocketAddress) : Service :=
  ((service.record (.bound .server chosen)).log (.listening chosen.write)).record
    (.serverEvent (.serverStarting chosen.write))

theorem answerAll_eq (chosen : SocketAddress) (requests : List HttpRequest) :
    service.answerAll chosen requests = ((service.listening chosen).receive requests,
      ((service.listening chosen).log .shutdownReceived).record (.serverEvent .serverStopped)) :=
  rfl

theorem bound_of_listening (chosen : SocketAddress) :
    .bound .server chosen ∈ (service.listening chosen).world.journal := by
  simp [listening, record, log, World.record, World.log]

theorem serve_failed (attempted : service.world.Attempted start options
      Milestone.listening.earlier) (requests : List HttpRequest) (reason : String) :
    Serving.Run.Orderly {
      exit := .failure
      receptions := service.receive requests
      world := (service.log (.serverFailed reason)).world } start options requests := by
  have stopped := attempted.toward (.event (.serverFailed reason)) rfl trivial (by simp) rfl
    fun config? => by cases config? <;> rfl
  refine ⟨.inl ⟨.listening, by decide, by decide, .failed reason, stopped, rfl, rfl, ?_⟩,
    fun before entry after => stopped.patient, fun heard => ?_⟩
  · intro response heard
    rcases receive_listens heard with ⟨chosen, _, listens, _⟩
    have early : Milestone.listening.reached ∈ Milestone.listening.earlier :=
      (attempted.listens listens).1
    exact absurd early (by decide)
  · refine ⟨?_, (attempted.exported heard).2⟩
    change _ ∈ (service.world.record (.event (.serverFailed reason))).journal.attempts
    rw [stopped.attempts]
    exact List.mem_append_left _ (by decide)

theorem answerAll_orderly {config : Config} {address chosen : SocketAddress}
    (attempted : service.world.Attempted start options Milestone.listening.earlier)
    (complete : Readiness.of service.manager service.world.context = .complete)
    (configured : service.world.context.config = some config)
    (read : SocketAddress.read? config.server.bindAddress = some address)
    (bound : service.world.bind .server address = .ok chosen) (requests : List HttpRequest) :
    Serving.Run.Orderly {
      exit := .success
      receptions := (service.answerAll chosen requests).1
      world := ((service.answerAll chosen requests).2.log .shutdownComplete).world }
      start options requests := by
  have serving : (service.listening chosen).world.Attempted start options
      Milestone.serving.earlier :=
    (attempted.listen configured read bound).proceed (.serverEvent (.serverStarting chosen.write))
      rfl trivial rfl rfl
  have signalled : ((service.listening chosen).log .shutdownReceived).world.Attempted start
      options Milestone.serving.earlier := serving.aside rfl
  have stopped := signalled.toward (.serverEvent .serverStopped) rfl trivial (by simp) rfl
    fun config? => by cases config? <;> rfl
  have ended : ((service.answerAll chosen requests).2.log .shutdownComplete).world.Attempted start
      options (Milestone.plan.map Milestone.reached) := stopped.aside rfl
  refine ⟨.inr ⟨ended, rfl, ⟨ended.inTurn.letIn ?_, ended.inTurn.greeted ?_⟩, ?_, ?_⟩,
    fun before entry after => ended.patient, fun heard => ?_⟩
  · rw [ended.attempts]
    decide
  · rw [ended.attempts]
    decide
  · intro position request response asked answered asks
    rw [receive_answers asked answered, Http.respond_of_asks asks, Http.respondTo]
    exact (congrArg Http.readinessResponse complete).trans Http.readinessResponse_complete
  · intro place target up opens sent covers alone reception heard
    have listens := (service.bound_of_listening chosen)
    cases (serving.listens listens).2.unique opens
    have reached : (service.listening chosen).world.listenerAt? target = some .server := by
      refine World.listenerAt?_of_alone (serving.underway.network ▸ up) listens covers ?_
      intro other address open' covers'
      cases other with
      | server => rfl
      | exporter =>
          rw [alone address (serving.listens open').2] at covers'
          cases covers'
    rw [answerAll_eq, receive_of_server (serving.underway.network ▸ sent) reached] at heard
    rcases List.mem_map.mp heard with ⟨request, _, rfl⟩
    exact ⟨_, rfl⟩
  · refine ⟨?_, (serving.exported heard).2⟩
    rw [ended.attempts]
    decide

theorem serve_orderly
    (attempted : service.world.Attempted start options Milestone.listening.earlier)
    (complete : Readiness.of service.manager service.world.context = .complete)
    (requests : List HttpRequest) : (service.serve requests).Orderly start options requests := by
  unfold serve
  cases configured : service.world.context.config with
  | none =>
      simp only [Context.getConfig, configured]
      exact serve_failed attempted requests _
  | some config =>
      simp only [Context.getConfig, configured]
      split
      · exact serve_failed attempted requests _
      · rename_i address read
        split
        · exact serve_failed attempted requests _
        · rename_i chosen bound
          exact answerAll_orderly attempted complete configured read bound requests

theorem Staged.complete (staged : service.Staged start options options.stages [])
    {ready : Manager} (steps : ready.steps = service.manager.steps) (flag : ready.ready = true) :
    Readiness.of ready service.world.context = .complete := by
  have components : service.world.context.components = [.config, .database, .cache] := by
    refine List.filter_eq_self.mpr fun slot _ => (staged.filled slot).mpr ?_
    cases slot <;>
      simp [Serving.Options.stages, Stage.immediate, Stage.deferred, Stage.slot?]
  have status : ready.status = Readiness.complete.steps := by
    rw [Manager.status, steps, staged.steps]
    rfl
  rw [Readiness.of, Readiness.gathered, flag, status, components]
  rfl

theorem Arrived.serve {last : Service} (arrived : Arrived start options options.stages last)
    (requests : List HttpRequest) : (last.serve requests).Orderly start options requests := by
  rcases arrived with ⟨walked, staged, rfl⟩
  have flagged : World.Attempted (walked.setReady true).world start options _ :=
    staged.attempted.aside rfl
  have told : World.Attempted
      ((walked.setReady true).log (.bootstrapComplete options.stages.length)).world start options
      _ := flagged.aside rfl
  exact serve_orderly told (staged.complete rfl rfl) requests

end Service

namespace Stage

theorem milestone_mem_plan (stage : Stage) : stage.milestone ∈ Milestone.plan := by
  cases stage <;> simp [milestone, name, Milestone.plan]

theorem listening_not_mem_stopped (stage : Stage) (setback : Setback) :
    Milestone.listening.reached ∉ stage.milestone.stopped setback := by
  cases stage <;> simp [milestone, name, Milestone.stopped, Milestone.earlier, Milestone.plan,
    Milestone.reached]

theorem notice_of_immediate {stage : Stage} {path : String} (member : stage ∈ immediate path)
    (cause : Cause) :
    Serving.bootstrapMessage (.step stage.name cause) =
      stage.milestone.notice (.failed cause.message) := by
  have early : stage.name ∈ ["config", "logging", "metrics"] := by
    simp only [immediate, List.mem_cons, List.not_mem_nil, or_false] at member
    rcases member with rfl | rfl | rfl <;> simp [name]
  exact (Serving.bootstrapMessage_step ..).trans (if_pos early).symm

theorem notice_of_deferred {stage : Stage} {testMode : Bool} (member : stage ∈ deferred testMode)
    (reason : String) : stage.milestone.notice (.failed reason) = "" := by
  simp only [deferred, List.mem_cons, List.not_mem_nil, or_false] at member
  rcases member with rfl | rfl <;> rfl

end Stage

namespace Serving

variable {start : World} {options : Options}

theorem ended_orderly {service : Service} {stage : Stage} {setback : Setback} {exit : Exit}
    (attempted : service.world.Attempted start options (stage.milestone.stopped setback))
    (code : exit.code = setback.code)
    (errorOutput : exit.errorOutput = stage.milestone.notice setback)
    (requests : List HttpRequest) :
    Run.Orderly { exit, receptions := service.receive requests, world := service.world } start
      options requests := by
  refine ⟨.inl ⟨stage.milestone, stage.milestone_mem_plan, by simp [Stage.milestone], setback,
    attempted, code, errorOutput, fun response heard => ?_⟩,
    fun before entry after => attempted.patient, fun heard => ?_⟩
  · rcases Service.receive_listens heard with ⟨chosen, _, listens, _⟩
    exact stage.listening_not_mem_stopped setback (attempted.listens listens).1
  · exact attempted.attempts ▸ attempted.exported heard

theorem run_orderly (unused : start.journal = []) (empty : start.context = {})
    (options : Options) (requests : List HttpRequest) :
    (run start options requests).Orderly start options requests := by
  have booted : Service.Ran start options (Stage.immediate options.configPath) _
      (Service.bootstrap { world := start } options.configPath options.testMode) :=
    (Service.Staged.fresh unused empty).bootstrap
  unfold run
  rcases started : Service.bootstrap { world := start } options.configPath options.testMode with
    ⟨⟨fault | _⟩ | message, next⟩ <;> rw [started] at booted
  · rcases booted with ⟨stage, member, cause, rfl, stopped⟩
    exact ended_orderly stopped rfl (Stage.notice_of_immediate member cause) requests
  · have prepared : Service.Ran start options (Stage.deferred options.testMode)
        (Service.Arrived start options options.stages) next.prepare :=
      Service.Staged.prepare booted rfl
    dsimp only
    rcases walked : next.prepare with ⟨⟨fault | _⟩ | message, last⟩ <;> rw [walked] at prepared
    · rcases prepared with ⟨stage, member, cause, rfl, stopped⟩
      exact ended_orderly stopped rfl (Stage.notice_of_deferred member _).symm requests
    · exact Service.Arrived.serve prepared requests
    · rcases prepared with ⟨stage, _, stopped⟩
      exact ended_orderly stopped rfl rfl requests
  · rcases booted with ⟨stage, _, stopped⟩
    exact ended_orderly stopped rfl rfl requests

end Serving

end Bringup
