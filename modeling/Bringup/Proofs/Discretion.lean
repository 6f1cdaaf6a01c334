import Bringup.Proofs.Launching
import Bringup.Proofs.Parallel

namespace Bringup

/-! The mode decides which database is reached.

Two runs of the service whose configurations differ in the URL that the mode does not use
cannot be told apart. The only database that they seek is the one at the other URL, and the mode
of tests seeks nobody if there is no such URL (`Serving.launch_discreet`). -/

/-! ## The start -/

/-- A process that has not done anything yet, with the configuration that it is to load. Where
the environment is not all text none is loaded. -/
structure World.Starts (world : World) (path : String) (config : Config) : Prop where
  unused : world.journal = []
  empty : world.context = {}
  textual : world.foreign = none
  loaded : Config.loadFile world.files path world.environment = .ok config

structure Twins.Start (twins : Twins) (path : String) (first second : World) : Prop where
  starts : first.Starts path twins.config
  otherStarts : second.Starts twins.otherPath twins.otherConfig
  network : first.network = twins.network ∧ second.network = twins.network
  environment : first.environment = twins.environment ∧
    second.environment = twins.otherEnvironment
  clocks : first.Reckons twins.config ↔ second.Reckons twins.otherConfig

namespace World

variable {world : World} {config : Config}

def loadingEntries (path : String) (overrides : List String) : List Entry :=
  (overrides.map fun name => .event (.overrideApplied name)) ++
    [.event (.configurationLoaded path)]

theorem attempt_configuration_of_loaded {path : String} (empty : world.context = {})
    (textual : world.foreign = none)
    (loaded : Config.loadFile world.files path world.environment = .ok config) :
    ∃ overrides, world.attempt (.configuration path) = (.succeeded, { world with
      context := { config := some config }
      journal := world.journal ++ loadingEntries path overrides }) := by
  cases opened : world.files.readText path with
  | error fault => simp [Config.loadFile, opened] at loaded
  | ok text =>
      refine ⟨Config.appliedOverrides text world.environment, ?_⟩
      simp [attempt, panic?, textual, perform, loadConfig, logOverrides, loaded, opened, publish,
        Context.setConfig, Context.isFilled, empty, recordAll, log, record, loadingEntries,
        Outcome.of]

def logger (world : World) (config : Config) : Logger where
  filter := Filter.choose (world.valueOf? "RUST_LOG") config.observability.logLevel
  isStructured := config.observability.json

theorem attempt_logging_of_first (configured : world.context.config = some config)
    (first : world.journal.hasLogger = false) :
    world.attempt .logging = (.succeeded, { world with
      journal := world.journal ++
        [.loggerInstalled (world.logger config), .event .serviceStarting] }) := by
  simp [attempt, panic?, perform, installLogger, Context.getConfig, configured, first, logger, log,
    record, Outcome.of]

end World

namespace Service

def beforeStage (stage : Stage) : List Entry := [.gauge false, .event (.stepRunning stage.name)]

def afterStage (stage : Stage) : List Entry :=
  [.call ⟨stage.name, 1, [], .succeeded⟩, .sample stage.name true,
    .event (.stepCompleted stage.name)]

/-- The service once a stage has been registered and run with success, given what its work
wrote and the context that it left. -/
def through (service : Service) (stage : Stage) (written : List Entry) (context : Context) :
    Service where
  manager := { (service.adding stage).manager with
    steps := service.manager.steps ++ [stage.finished] }
  world := { service.world with
    context
    journal := service.world.journal ++ beforeStage stage ++ written ++ afterStage stage }

theorem execStage_succeeds {service : Service} {stage : Stage} {written : List Entry}
    {context : Context} (free : service.manager.position? stage.name = none)
    (attempted : (service.world.recordAll (beforeStage stage)).attempt stage = (.succeeded,
      { service.world with
        context
        journal := service.world.journal ++ beforeStage stage ++ written })) :
    service.execStage stage = (.returned (.ok ()), service.through stage written context) := by
  have begun : ((service.adding stage).beginCall service.manager.steps.length
      stage.waiting).world = service.world.recordAll (beforeStage stage) := by
    simp [adding, Service.beginCall, Service.log, World.record, World.log, World.recordAll,
      Stage.waiting, beforeStage]
  rw [← begun] at attempted
  have marked := Manager.modify_length_append service.manager.steps stage.waiting []
  have again := Manager.modify_length_append service.manager.steps stage.waiting.called []
  have finished : stage.waiting.called.complete = stage.finished := rfl
  have waited : stage.waiting.name = stage.name ∧ stage.waiting.calls = 0 := ⟨rfl, rfl⟩
  rw [Service.execStage, Service.exec, push_of_free free]
  apply (runStep_waiting attempted).trans
  simp [adding, through, afterStage, Service.endCall, Service.book, Manager.noteCall,
    Manager.markCompleted, Service.record, Service.log, World.record, World.log, marked, again,
    finished, waited]

theorem execStages_of_succeeds {service next : Service} {stage : Stage}
    (succeeded : service.execStage stage = (.returned (.ok ()), next)) (rest : List Stage) :
    service.execStages (stage :: rest) = next.execStages rest := by
  rw [Service.execStages, succeeded]

def started (world : World) (path : String) (config : Config) (overrides : List String) :
    Service :=
  let loaded := Service.through { world } (.configuration path)
    (World.loadingEntries path overrides) { config := some config }
  loaded.through .logging [.loggerInstalled (world.logger config), .event .serviceStarting]
    { config := some config }

def unlogged (path : String) (overrides : List String) : Journal :=
  beforeStage (.configuration path) ++ World.loadingEntries path overrides

theorem hasLogger_unlogged (path : String) (overrides : List String) :
    (unlogged path overrides).hasLogger = false := by
  simp [unlogged, beforeStage, World.loadingEntries, Journal.hasLogger]

theorem withoutLoading_unlogged (path : String) (overrides : List String) :
    (unlogged path overrides).withoutLoading = beforeStage (.configuration path) := by
  have nothing : Journal.withoutLoading (World.loadingEntries path overrides) = [] := by
    simp [World.loadingEntries, Journal.withoutLoading, Entry.isLoading]
  rw [unlogged, Journal.withoutLoading_append, nothing, List.append_nil]
  rfl

def logged (logger : Logger) : Journal :=
  (afterStage (.configuration "") ++ beforeStage .logging) ++
    [.loggerInstalled logger, .event .serviceStarting] ++ afterStage .logging

theorem attempts_logged (logger : Logger) :
    (logged logger).attempts =
      ["config", "logging"].map fun name => Milestone.reached (.step name) := rfl

theorem started_journal {world : World} (unused : world.journal = []) (path : String)
    (config : Config) (overrides : List String) :
    (started world path config overrides).world.journal =
      unlogged path overrides ++ logged (world.logger config) := by
  simp [started, through, unlogged, logged, afterStage, Stage.name, unused]

theorem execStages_of_starts {world : World} {path : String} {config : Config}
    (starts : world.Starts path config) (rest : List Stage) :
    ∃ overrides, Service.execStages { world } (.configuration path :: .logging :: rest) =
      (started world path config overrides).execStages rest := by
  have begins : (world.recordAll (beforeStage (.configuration path))).context = {} :=
    starts.empty
  have textual : (world.recordAll (beforeStage (.configuration path))).foreign = none :=
    starts.textual
  rcases World.attempt_configuration_of_loaded begins textual starts.loaded with
    ⟨overrides, attempted⟩
  refine ⟨overrides, ?_⟩
  rw [execStages_of_succeeds (execStage_succeeds rfl attempted)]
  refine execStages_of_succeeds (execStage_succeeds rfl ?_) rest
  refine World.attempt_logging_of_first rfl ?_
  simp [through, World.recordAll, starts.unused, Journal.hasLogger, beforeStage, afterStage,
    World.loadingEntries]

end Service

/-! ## Runs -/

namespace Twins.Start

variable {twins : Twins} {path : String} {world other : World}

theorem started (start : twins.Start path world other) (overrides otherOverrides : List String) :
    Service.Alike twins (Service.started world path twins.config overrides)
      (Service.started other twins.otherPath twins.otherConfig otherOverrides) := by
  have logger : other.logger twins.otherConfig = world.logger twins.config := by
    rw [World.logger, World.logger, World.valueOf?, World.valueOf?, start.environment.1,
      start.environment.2, twins.agree "RUST_LOG" (by decide), twins.reads.observability]
  have journal := Service.started_journal start.starts.unused path twins.config overrides
  have otherJournal := Service.started_journal start.otherStarts.unused twins.otherPath
    twins.otherConfig otherOverrides
  rw [logger] at otherJournal
  refine {
    manager := rfl
    awaits := fun step member pending => ?_
    world := {
      network := start.network
      environment := start.environment
      clocks := start.clocks
      configured := ⟨rfl, rfl⟩
      database := rfl
      cache := rfl
      journal := ⟨_, _, _, journal, otherJournal, Service.hasLogger_unlogged ..,
        Service.hasLogger_unlogged .., ?_⟩
      began := fun name member => ?_ } }
  · simp only [Service.started, Service.through, Service.adding, List.nil_append,
      List.mem_append, List.mem_singleton] at member
    rcases member with rfl | rfl <;> cases pending
  · rw [journal, Journal.attempts_append, Service.attempts_logged]
    exact List.mem_append_right _ (List.mem_map_of_mem member)
  · rw [Service.withoutLoading_unlogged, Service.withoutLoading_unlogged]
    rfl

theorem bootstrap (start : twins.Start path world other) :
    Together (Service.Alike twins) (Service.bootstrap { world } path twins.testMode)
      (Service.bootstrap { world := other } twins.otherPath twins.testMode) := by
  rcases Service.execStages_of_starts start.starts [.metrics] with ⟨overrides, began⟩
  rcases Service.execStages_of_starts start.otherStarts [.metrics] with
    ⟨otherOverrides, otherBegan⟩
  unfold Service.bootstrap Stage.immediate
  rw [began, otherBegan]
  have measured := (start.started overrides otherOverrides).execStages [.metrics]
    (by simp [Stage.later])
  rcases measured.split with ⟨result, next, otherNext, found, otherFound, on⟩
  rw [found, otherFound]
  rcases result with ⟨fault | done⟩ | message
  · exact ⟨rfl, on⟩
  · have registered := on.registerStages (Stage.deferred twins.testMode)
      (by simp [Stage.deferred, Stage.later])
    exact ⟨congrArg Finish.returned registered.1, registered.2⟩
  · exact ⟨rfl, on⟩

theorem run (start : twins.Start path world other) (requests : List HttpRequest) :
    Serving.Run.Alike twins (Serving.run world ⟨path, twins.testMode⟩ requests)
      (Serving.run other ⟨twins.otherPath, twins.testMode⟩ requests) := by
  rcases start.bootstrap.split with ⟨result, next, otherNext, found, otherFound, booted⟩
  unfold Serving.run
  rw [found, otherFound]
  rcases result with ⟨fault | done⟩ | message
  · exact booted.ended _ requests
  · rcases booted.prepare.split with ⟨result, last, otherLast, found, otherFound, prepared⟩
    dsimp only
    rw [found, otherFound]
    rcases result with ⟨fault | done⟩ | message
    · exact prepared.ended _ requests
    · exact prepared.serve requests
    · exact prepared.ended _ requests
  · exact booted.ended _ requests

end Twins.Start

/-! ## What a run seeks -/

theorem Milestone.reached_mem_stopped {milestone other : Milestone} {setback : Setback} :
    other.reached ∈ milestone.stopped setback ↔ other.reached ∈ milestone.earlier := by
  simp [stopped, reached]

namespace Journal

variable {journal : Journal} {start : World} {options : Serving.Options}

theorem mem_of_mem_logins {login : DatabaseLogin} (member : login ∈ journal.logins) :
    .login login ∈ journal := by
  rcases List.mem_filterMap.mp (List.mem_eraseDups.mp member) with ⟨entry, found, shown⟩
  cases entry <;> cases shown
  exact found

theorem mem_of_mem_commands {command : Cache.Command} (member : command ∈ journal.commands) :
    .command command ∈ journal := by
  rcases List.mem_filterMap.mp member with ⟨entry, found, shown⟩
  cases entry <;> cases shown
  exact found

theorem mem_of_mem_calls {call : Call} (member : call ∈ journal.calls) : .call call ∈ journal := by
  rcases List.mem_filterMap.mp member with ⟨entry, found, shown⟩
  cases entry <;> cases shown
  exact found

theorem mem_contacts {contact : Contact} :
    contact ∈ journal.contacts ↔ .sought contact ∈ journal := by
  refine List.mem_filterMap.trans ⟨?_, fun member => ⟨_, member, rfl⟩⟩
  rintro ⟨entry, member, shown⟩
  cases entry <;> cases shown
  exact member

theorem InTurn.fits (inTurn : journal.InTurn start options) {entry : Entry}
    (member : entry ∈ journal) : entry.Fits start options := by
  rcases List.append_of_mem member with ⟨before, after, split⟩
  exact (inTurn before entry after split).fits

theorem InTurn.exists_call (inTurn : journal.InTurn start options) {name : String}
    {setback : Option Setback} (made : ⟨.step name, setback⟩ ∈ journal.attempts) :
    ∃ call : Call, call.step = name ∧ call.outcome.setback? = setback ∧
      call.Fits start options := by
  rcases inTurn.concluded made with ⟨before, entry, after, rfl, concludes, due⟩
  rcases Entry.exists_call concludes with ⟨call, rfl, named, ended⟩
  exact ⟨call, named, ended, due.fits⟩

end Journal

namespace Serving

/-- Nothing outside of two runs tells one from the other. -/
structure Run.LooksLike (first second : Run) : Prop where
  exit : second.exit = first.exit
  receptions : second.receptions = first.receptions
  lines : second.world.journal.lines = first.world.journal.lines
  contacts : second.world.journal.contacts = first.world.journal.contacts
  logins : second.world.journal.logins = first.world.journal.logins
  commands : second.world.journal.commands = first.world.journal.commands
  others : second.world.journal.withoutLoading = first.world.journal.withoutLoading

/-- The database that a run seeks is the one at a URL. It logs in there only, and whenever it
attempts the step of the database it does seek that one, unless it panics before. -/
structure Run.KeepsTo (run : Run) (start : World) (url : String) : Prop where
  contacts : ∀ address, .database address ∈ run.world.journal.contacts →
    Database.Address.read start.environment url = .ok address
  logins : ∀ login ∈ run.world.journal.logins, ∃ address place server,
    Database.Address.read start.environment url = .ok address ∧ login = address.login ∧
      start.network.database = some (place, server) ∧
      Network.leadsTo address.host address.port place = true
  seeks : ∀ setback, ⟨.step "database", setback⟩ ∈ run.world.journal.attempts →
    (∀ message, setback ≠ some (.panicked message)) →
      ∀ address, Database.Address.read start.environment url = .ok address →
        .database address ∈ run.world.journal.contacts

/-- A run that finds no URL for its database contacts nobody. -/
structure Run.Withdrawn (run : Run) (start : World) (options : Options) : Prop where
  stopped : (∃ reason, run.Stopped start options (.step "metrics") (.failed reason)) ∨
    run.Stopped start options (.step "database") (.failed DatabaseError.missingTestUrl.message)
  calls : ∀ call ∈ run.world.journal.calls, call.step = "database" →
    call.outcome = .failed (.database .missingTestUrl)
  contacts : run.world.journal.contacts = []
  logins : run.world.journal.logins = []
  commands : run.world.journal.commands = []

theorem Run.Alike.looksLike {twins : Twins} {first second : Run}
    (alike : Run.Alike twins first second) : first.LooksLike second := by
  have journal := alike.world.journal
  refine ⟨alike.exit, alike.receptions, journal.lines, ?_, congrArg List.eraseDups ?_, ?_,
    journal.withoutLoading⟩ <;>
    exact journal.filterMap fun entry loading => by cases entry <;> first | rfl | cases loading

section

variable {run : Run} {start : World} {options : Options} {config : Config}

theorem Run.Orderly.attempted {requests : List HttpRequest}
    (orderly : run.Orderly start options requests) :
    ∃ attempts, run.world.Attempted start options attempts := by
  rcases orderly.ends with ⟨_, _, _, _, stopped⟩ | served
  · exact ⟨_, stopped.attempted⟩
  · exact ⟨_, served.attempted⟩

theorem Run.keepsTo {attempts : List Attempt}
    (attempted : run.world.Attempted start options attempts)
    (configured : run.world.context.config = some config) {url : String}
    (named : config.database.urlIn options.testMode = some url) : run.KeepsTo start url := by
  have loads := attempted.underway.loaded config configured
  have read : ∀ address, start.Seeks options (.database address) →
      Database.Address.read start.environment url = .ok address := by
    rintro address ⟨other, otherUrl, otherLoads, otherNamed, found⟩
    cases (Except.ok.inj (loads.symm.trans otherLoads) : config = other)
    rwa [Option.some.inj (named.symm.trans otherNamed)]
  refine ⟨fun address sought => ?_, fun login seen => ?_,
    fun setback made whole address found => ?_⟩
  · exact read address (attempted.inTurn.fits (Journal.mem_contacts.mp sought))
  · rcases attempted.inTurn.fits (Journal.mem_of_mem_logins seen) with
      ⟨address, place, server, seeks, same, stands, leads⟩
    exact ⟨address, place, server, read address seeks, same, stands, leads⟩
  · have contact : (Milestone.step "database").contact? start options config =
        some (.database address) := by
      simp [Milestone.contact?, named, found, Except.toOption]
    have opens : .sought (.database address) ∈ run.world.journal.openings := by
      rw [attempted.opened, configured]
      refine List.mem_flatMap.mpr ⟨_, made, ?_⟩
      rw [Attempt.openings_of_contact rfl whole, contact]
      exact List.mem_singleton_self _
    exact Journal.mem_contacts.mpr (List.mem_filter.mp opens).1

variable (unnamed : config.database.urlIn options.testMode = none)
  (loads : start.Loads options config)

include unnamed loads

theorem not_seeks (address : Database.Address) : ¬ start.Seeks options (.database address) := by
  rintro ⟨other, url, otherLoads, named, _⟩
  cases (Except.ok.inj (loads.symm.trans otherLoads) : config = other)
  rw [unnamed] at named
  cases named

theorem setback_of_unnamed {attempts : List Attempt}
    (attempted : run.world.Attempted start options attempts) {setback : Option Setback}
    (made : ⟨.step "database", setback⟩ ∈ attempts) :
    setback = some (.failed DatabaseError.missingTestUrl.message) := by
  rw [← attempted.attempts] at made
  rcases attempted.inTurn.exists_call made with ⟨call, named, rfl, fits⟩
  rw [fits.unnamed named config loads unnamed]
  rfl

variable {requests : List HttpRequest} (orderly : run.Orderly start options requests)
  (began : ∀ name ∈ ["config", "logging"],
    (Milestone.step name).reached ∈ run.world.journal.attempts)

include orderly began

theorem stopped_of_unnamed :
    (∃ reason, run.Stopped start options (.step "metrics") (.failed reason)) ∨
      run.Stopped start options (.step "database")
        (.failed DatabaseError.missingTestUrl.message) := by
  have unreached : ∀ {attempts : List Attempt}, run.world.Attempted start options attempts →
      (Milestone.step "database").reached ∉ attempts := fun attempted reached =>
    nomatch setback_of_unnamed unnamed loads attempted reached
  rcases orderly.ends with ⟨milestone, planned, _, setback, stopped⟩ | served
  · have attempts := stopped.attempted.attempts
    have config := began "config" (by simp)
    have logging := began "logging" (by simp)
    have database := unreached stopped.attempted
    rw [attempts, Milestone.reached_mem_stopped] at config logging
    rw [Milestone.reached_mem_stopped] at database
    simp only [Milestone.plan, List.map_cons, List.map_nil, List.cons_append, List.nil_append,
      List.mem_cons, List.not_mem_nil, or_false] at planned
    have made : ⟨milestone, some setback⟩ ∈ milestone.stopped setback :=
      List.mem_append_right _ (List.mem_singleton_self _)
    -- The milestone comes after logging, and the database has not been reached before it.
    rcases planned with rfl | rfl | rfl | rfl | rfl | rfl | rfl
    · exact absurd config (by decide)
    · exact absurd logging (by decide)
    · cases setback with
      | failed reason => exact .inl ⟨reason, stopped⟩
      | panicked message =>
          rw [← attempts] at made
          rcases stopped.attempted.inTurn.exists_call made with ⟨call, named, ended, fits⟩
          cases outcome : call.outcome with
          | panicked told =>
              have panics := fits.panics told outcome
              rw [named] at panics
              exact absurd panics (by simp [World.Panics])
          | succeeded | failed => rw [outcome] at ended; cases ended
    · cases setback_of_unnamed unnamed loads stopped.attempted made
      exact .inr stopped
    · exact absurd (by decide) database
    · exact absurd (by decide) database
    · exact absurd (by decide) database
  · exact absurd (by decide) (unreached served.attempted)

theorem withdrawn_of_unnamed : run.Withdrawn start options := by
  rcases orderly.attempted with ⟨attempts, attempted⟩
  have inTurn := attempted.inTurn
  have nowhere := not_seeks unnamed loads
  -- The cache is sought only after a login at the database.
  have alone : ∀ entry ∈ run.world.journal, entry.milestone? ≠ some (.step "cache") := by
    intro entry member aims
    rcases List.append_of_mem member with ⟨before, after, split⟩
    rcases orderly.patient before entry after split aims with ⟨address, seeks, _⟩
    exact nowhere address seeks
  refine ⟨stopped_of_unnamed unnamed loads orderly began, fun call member database => ?_, ?_, ?_,
    ?_⟩
  · have fits : call.Fits start options := inTurn.fits (Journal.mem_of_mem_calls member)
    exact fits.unnamed database config loads unnamed
  · refine List.eq_nil_iff_forall_not_mem.mpr fun contact member => ?_
    have sought := Journal.mem_contacts.mp member
    cases contact with
    | database address => exact nowhere address (inTurn.fits sought)
    | cache address => exact alone _ sought rfl
  · refine List.eq_nil_iff_forall_not_mem.mpr fun login member => ?_
    rcases inTurn.fits (Journal.mem_of_mem_logins member) with ⟨address, _, _, seeks, _⟩
    exact nowhere address seeks
  · exact List.eq_nil_iff_forall_not_mem.mpr fun command member =>
      alone _ (Journal.mem_of_mem_commands member) rfl

end

/-- Runs whose configurations agree in their mode cannot be told apart, and the only database
that they seek is the one that the configuration has a URL for in that mode. The mode of tests
contacts nobody if there is no URL for it. -/
theorem launch_discreet {arguments otherArguments : List String}
    {options otherOptions : Options} (read : Options.read arguments = .ok options)
    (otherRead : Options.read otherArguments = .ok otherOptions)
    (mode : otherOptions.testMode = options.testMode) {world other : World}
    (network : other.network = world.network) {config otherConfig : Config}
    (clocks : world.Reckons config ↔ other.Reckons otherConfig)
    (agree : Variable.AgreeApart world.environment other.environment)
    (starts : world.Starts options.configPath config)
    (otherStarts : other.Starts otherOptions.configPath otherConfig)
    (agrees : config.AgreesIn options.testMode otherConfig) (requests : List HttpRequest) :
    (launch world arguments requests).LooksLike (launch other otherArguments requests) ∧
      (options.testMode = true → ∀ url, config.database.testUrl = some url →
        (launch world arguments requests).KeepsTo world url) ∧
      (options.testMode = false →
        (launch world arguments requests).KeepsTo world config.database.url) ∧
      (options.testMode = true → config.database.testUrl = none →
        (launch world arguments requests).Withdrawn world options) := by
  let twins : Twins := {
    testMode := options.testMode
    otherPath := otherOptions.configPath
    network := world.network
    environment := world.environment
    otherEnvironment := other.environment
    config, otherConfig, agree
    reads := agrees.readsAs }
  have start : twins.Start options.configPath world other :=
    ⟨starts, otherStarts, ⟨rfl, network⟩, ⟨rfl, rfl⟩, clocks⟩
  have same : otherOptions = ⟨otherOptions.configPath, options.testMode⟩ := by rw [← mode]
  have alike : Run.Alike twins (launch world arguments requests)
      (launch other otherArguments requests) := by
    rw [launch, read, launch, otherRead, same]
    exact start.run requests
  have orderly : (launch world arguments requests).Orderly world options requests := by
    rw [launch, read]
    exact run_orderly starts.unused starts.empty options requests
  rcases orderly.attempted with ⟨attempts, attempted⟩
  have keepsTo (url : String) (named : config.database.urlIn options.testMode = some url) :
      (launch world arguments requests).KeepsTo world url :=
    Run.keepsTo attempted alike.world.configured.1 named
  refine ⟨alike.looksLike, fun testing url named => keepsTo url ?_, fun serving => keepsTo _ ?_,
    fun testing missing => ?_⟩
  · rw [DatabaseConfig.urlIn, if_pos testing, named]
  · rw [DatabaseConfig.urlIn, if_neg (by simp [serving])]
  · refine withdrawn_of_unnamed ?_ starts.loaded orderly alike.world.began
    rw [DatabaseConfig.urlIn, if_pos testing, missing]

theorem launch_beside_production : ∃ world other : World,
    other.environment = [⟨"APP__DATABASE__URL", "postgres://production/accounts"⟩] ∧
      (launch world ["--test-mode", "-c", "a.toml"] []).LooksLike
        (launch other ["-c", "b.toml", "--test-mode"] []) ∧
      (launch world ["--test-mode", "-c", "a.toml"] []).KeepsTo world "postgres://t@127.0.0.1/u" ∧
      (launch world ["--test-mode", "-c", "a.toml"] []).world.journal.logins =
        [⟨"t", some "u"⟩] := by
  let text := Bytes.encode "database.test_url = 'postgres://t@127.0.0.1/u'"
  let world : World := {
    files := Files.write [] "a.toml" (.contents text)
    network := {
      isUp := true
      database := some ({ ip := .loopback4, port := 5432 }, .accepting) } }
  let other : World := { world with
    files := Files.write [] "b.toml" (.contents text)
    environment := [⟨"APP__DATABASE__URL", "postgres://production/accounts"⟩] }
  let config : Config := { database := { testUrl := some "postgres://t@127.0.0.1/u" } }
  let otherConfig : Config := { config with
    database := { config.database with url := "postgres://production/accounts" } }
  have read : Options.read ["--test-mode", "-c", "a.toml"] = .ok ⟨"a.toml", true⟩ := rfl
  have otherRead : Options.read ["-c", "b.toml", "--test-mode"] = .ok ⟨"b.toml", true⟩ := rfl
  have starts : world.Starts "a.toml" config :=
    ⟨rfl, rfl, rfl, Config.eq_ok_of_toOption (by decide +kernel)⟩
  have otherStarts : other.Starts "b.toml" otherConfig :=
    ⟨rfl, rfl, rfl, Config.eq_ok_of_toOption (by decide +kernel)⟩
  have agree : Variable.AgreeApart world.environment other.environment := by
    intro name apart
    by_cases same : name = "APP__DATABASE__URL"
    · subst same
      exact absurd apart (by decide)
    · simp [world, other, Variable.valueIn?, Ne.symm same]
  have network : other.network = world.network := rfl
  have clocks : world.Reckons config ↔ other.Reckons otherConfig := .rfl
  have discreet := launch_discreet read otherRead rfl network clocks agree starts otherStarts rfl []
  exact ⟨world, other, rfl, discreet.1, discreet.2.1 rfl _ rfl, by decide +kernel⟩

end Serving

end Bringup
