import Bringup.Proofs.Fields
import Bringup.Proofs.Milestones

namespace Bringup

/-! What the stages of a run do outside the process.

The stage of a connection seeks the server that the configuration names, tells it what its URL
says, and succeeds only once the server has answered as it is to; the other stages seek nobody
(`World.Underway.attempt_fits`). What is around the process stays as it is. -/

namespace Database

theorem logIn_eq_ok {network : Network} {address : Address} {logins : List DatabaseLogin}
    (accepted : logIn network address = (.ok (), logins)) :
    network.LetsIn address ∧ logins = [address.login] := by
  unfold logIn at accepted
  split at accepted
  · cases accepted
  · rename_i remote
    split at accepted
    · cases accepted
    · rename_i up
      split at accepted
      · cases accepted
      · rename_i place server found
        split at accepted
        · cases accepted
        · rename_i leads
          split at accepted
          · cases accepted
          · rename_i plain
            cases server with
            | accepting =>
                cases accepted
                exact ⟨⟨by simpa using up, by simpa using remote, by simpa using plain,
                  place, found, by simpa using leads⟩, rfl⟩
            | refusingLogins | refusingQueries => cases accepted

/-- A server sees a login only at an address that leads to it. -/
theorem logIn_of_seen {network : Network} {address : Address} {login : DatabaseLogin}
    (seen : login ∈ (logIn network address).2) :
    ∃ place server, login = address.login ∧ network.database = some (place, server) ∧
      Network.leadsTo address.host address.port place = true := by
  unfold logIn at seen
  split at seen
  · cases seen
  · split at seen
    · cases seen
    · split at seen
      · cases seen
      · rename_i place server found
        split at seen
        · cases seen
        · rename_i leads
          split at seen
          · cases seen
          · refine ⟨place, server, ?_, found, by simpa using leads⟩
            cases server <;> exact List.mem_singleton.mp seen

end Database

namespace Cache

theorem answer_eq_ok {server : CacheServer} (answered : answer server = .ok ()) :
    server = .replying pong := by
  cases server with
  | replying reply =>
      simp only [answer] at answered
      split at answered
      · rename_i same
        rw [same]
      · cases answered
  | failing | silent => cases answered

theorem greet_eq_ok {network : Network} {seconds : Nat} {address : Address}
    {commands : List Command} (greeted : greet network seconds address = (.ok (), commands)) :
    network.Greets address ∧ commands = address.setup ++ [ping] := by
  unfold greet at greeted
  split at greeted
  · cases greeted
  · rename_i up
    split at greeted
    · cases greeted
    · rename_i place server found
      split at greeted
      · cases greeted
      · rename_i leads
        split at greeted
        · cases greeted
        · split at greeted
          · cases greeted
          · rcases Prod.mk.inj greeted with ⟨answered, rfl⟩
            rw [answer_eq_ok answered] at found
            exact ⟨⟨by simpa using up, place, found, by simpa using leads⟩, rfl⟩

/-- A server sees commands only at an address that leads to it. -/
theorem greet_of_seen {network : Network} {seconds : Nat} {address : Address}
    {command : Command} (seen : command ∈ (greet network seconds address).2) :
    ∃ place server, command ∈ address.setup ++ [ping] ∧ network.cache = some (place, server) ∧
      Network.leadsTo address.host address.port place = true := by
  unfold greet at seen
  split at seen
  · cases seen
  · split at seen
    · cases seen
    · rename_i place server found
      split at seen
      · cases seen
      · rename_i leads
        split at seen
        · cases seen
        · refine ⟨place, server, ?_, found, by simpa using leads⟩
          split at seen
          · exact List.mem_append_left _ seen
          · exact seen

end Cache

namespace World

/-! ## What the stages leave as it is -/

theorem installExporter_around (world : World) (address : SocketAddress) :
    (world.installExporter address).2.around = world.around := by
  unfold installExporter
  split
  · rfl
  · split <;> rfl

theorem installLogger_around (world : World) (config : ObservabilityConfig) :
    (world.installLogger config).2.around = world.around := by
  unfold installLogger
  split <;> rfl

theorem loadConfig_around (world : World) (path : String) :
    (world.loadConfig path).2.around = world.around := by
  unfold loadConfig
  simp only
  split <;> rfl

theorem connectDatabase_around (world : World) (config : DatabaseConfig) (testMode : Bool) :
    (world.connectDatabase config testMode).2.around = world.around := by
  unfold connectDatabase
  split
  · rfl
  · simp only
    split <;> rfl

theorem connectCache_around (world : World) (config : CacheConfig) :
    (world.connectCache config).2.around = world.around := by
  unfold connectCache
  split
  · rfl
  · simp only
    split <;> rfl

theorem publish_around (world : World) (result : Except ContextError Context) :
    (world.publish result).2.around = world.around := by
  cases result <;> rfl

theorem perform_around (world : World) (stage : Stage) :
    (world.perform stage).2.around = world.around := by
  cases stage with
  | configuration path =>
      have kept := loadConfig_around world path
      simp only [perform]
      split <;> rename_i loaded <;> rw [loaded] at kept
      · exact kept
      · exact (publish_around _ _).trans kept
  | logging =>
      simp only [perform]
      split
      · rfl
      · rename_i config _
        have kept := installLogger_around world config.observability
        split <;> rename_i installed <;> rw [installed] at kept <;> exact kept
  | metrics =>
      simp only [perform]
      split
      · rfl
      · split
        · rfl
        · split
          · rfl
          · rename_i address _
            have kept := installExporter_around world address
            split <;> rename_i installed <;> rw [installed] at kept <;> exact kept
  | database testMode =>
      simp only [perform]
      split
      · rfl
      · rename_i config _
        have kept := connectDatabase_around world config.database testMode
        split <;> rename_i connected <;> rw [connected] at kept
        · exact kept
        · exact (publish_around _ _).trans kept
  | cache =>
      simp only [perform]
      split
      · rfl
      · rename_i config _
        have kept := connectCache_around world config.cache
        split <;> rename_i connected <;> rw [connected] at kept
        · exact kept
        · exact (publish_around _ _).trans kept

theorem attempt_around (world : World) (stage : Stage) :
    (world.attempt stage).2.around = world.around := by
  unfold attempt
  split
  · cases stage <;> rfl
  · exact world.perform_around stage

theorem attempt_config (world : World) {stage : Stage}
    (other : ∀ path, stage ≠ .configuration path) :
    (world.attempt stage).2.context.config = world.context.config := by
  have gains := world.attempt_gains stage
  rcases attempted : world.attempt stage with ⟨outcome, next⟩
  rw [attempted] at gains
  have kept : next.context = world.context → next.context.config = world.context.config :=
    congrArg Context.config
  cases outcome with
  | failed | panicked => exact kept gains
  | succeeded =>
      cases stage with
      | configuration path => exact absurd rfl (other path)
      | logging | metrics => exact kept gains
      | database | cache => exact Context.Gains.others gains .config (by simp)

/-! ## What connecting writes -/

theorem connectDatabase_cases (world : World) (config : DatabaseConfig) (testMode : Bool) :
    (∃ fault, Database.target world.environment config testMode = .error fault ∧
        world.connectDatabase config testMode = (.error fault, world)) ∨
      ∃ address events, Database.target world.environment config testMode = .ok address ∧
        (world.connectDatabase config testMode).1 =
          (Database.logIn world.network address).1.map
            (fun _ => ⟨testMode, config.maxConnections⟩) ∧
        (world.connectDatabase config testMode).2.journal = world.journal ++
          .sought (.database address) ::
            ((Database.logIn world.network address).2.map .login ++ events) ∧
        ∀ entry ∈ events, entry = .event (.databaseReady config.maxConnections testMode) := by
  unfold connectDatabase
  split
  · rename_i fault found
    exact .inl ⟨fault, found, rfl⟩
  · rename_i address found
    refine .inr ⟨address, ?_⟩
    simp only
    split <;> rename_i logged
    · exact ⟨[], found, by simp [logged, Except.map], by simp [record, recordAll], by simp⟩
    · exact ⟨[.event (.databaseReady config.maxConnections testMode)], found,
        by simp [logged, Except.map], by simp [record, recordAll, log], by simp⟩

theorem connectCache_cases (world : World) (config : CacheConfig) :
    (Cache.Address.read? config.url = none ∧
        world.connectCache config = (.error .unusableUrl, world)) ∨
      ∃ address events, Cache.Address.read? config.url = some address ∧
        (world.connectCache config).1 =
          (Cache.greet world.network config.connectTimeoutSecs address).1.map
            (fun _ => ⟨address.index⟩) ∧
        (world.connectCache config).2.journal = world.journal ++
          .sought (.cache address) ::
            ((Cache.greet world.network config.connectTimeoutSecs address).2.map .command ++
              events) ∧
        ∀ entry ∈ events, entry = .event .cacheReady := by
  unfold connectCache
  split
  · rename_i found
    exact .inl ⟨found, rfl⟩
  · rename_i address found
    refine .inr ⟨address, ?_⟩
    simp only
    split <;> rename_i greeted
    · exact ⟨[], found, by simp [greeted, Except.map], by simp [record, recordAll], by simp⟩
    · exact ⟨[.event .cacheReady], found, by simp [greeted, Except.map],
        by simp [record, recordAll, log], by simp⟩

/-- The stage of the database connects if there is a configuration, and else writes nothing. -/
theorem attempt_database_journal (world : World) (testMode : Bool) :
    (world.attempt (.database testMode)).2.journal = world.journal ∧
        (world.context.config = none ∨
          ∃ message, (world.attempt (.database testMode)).1 = .panicked message) ∨
      ∃ config, world.context.config = some config ∧
        (∀ message, (world.attempt (.database testMode)).1 ≠ .panicked message) ∧
        (∀ fault, (world.connectDatabase config.database testMode).1 = .error fault →
          (world.attempt (.database testMode)).1 = .failed (.database fault)) ∧
        (world.attempt (.database testMode)).2.journal =
          (world.connectDatabase config.database testMode).2.journal := by
  rcases world.attempt_cases (.database testMode) with ⟨message, _, ended⟩ | ⟨_, ended⟩
  · rw [ended]
    exact .inl ⟨rfl, .inr ⟨message, rfl⟩⟩
  · rw [ended]
    cases configured : world.context.config with
    | none => exact .inl ⟨by simp [perform, Context.getConfig, configured], .inl rfl⟩
    | some config =>
        refine .inr ⟨config, rfl, fun message => Outcome.of_ne_panicked, ?_⟩
        simp only [perform, Context.getConfig, configured, Prod.map, id]
        split <;> rename_i connected <;> simp [connected, Outcome.of]

theorem attempt_cache_journal (world : World) :
    (world.attempt .cache).2.journal = world.journal ∧ world.context.config = none ∨
      ∃ config, world.context.config = some config ∧
        (∀ fault, (world.connectCache config.cache).1 = .error fault →
          (world.attempt .cache).1 = .failed (.cache fault)) ∧
        (world.attempt .cache).2.journal = (world.connectCache config.cache).2.journal := by
  have ended : world.attempt .cache = (world.perform .cache).map .of id := rfl
  rw [ended]
  cases configured : world.context.config with
  | none => exact .inl ⟨by simp [perform, Context.getConfig, configured], rfl⟩
  | some config =>
      refine .inr ⟨config, rfl, ?_⟩
      simp only [perform, Context.getConfig, configured, Prod.map, id]
      split <;> rename_i connected <;> simp [connected, Outcome.of]

end World

/-! ## What a run writes that is underway -/

theorem Stage.fits_of_writes {start : World} {options : Serving.Options} {stage : Stage}
    {entry : Entry} (writes : stage.writes entry = true)
    (alone : stage.name ≠ "database" ∧ stage.name ≠ "cache") : entry.Fits start options := by
  unfold Stage.writes at writes
  split at writes <;> first | trivial | exact absurd rfl alone.1

namespace Serving.Options

variable {options : Options}

theorem path_of_stages {path : String} (planned : .configuration path ∈ options.stages) :
    path = options.configPath := by
  simpa [stages, Stage.immediate, Stage.deferred] using planned

theorem testMode_of_stages {testMode : Bool} (planned : .database testMode ∈ options.stages) :
    testMode = options.testMode := by
  simpa [stages, Stage.immediate, Stage.deferred] using planned

end Serving.Options

namespace World.Underway

variable {start world next : World} {options : Serving.Options} {stage : Stage}
  {outcome : Outcome}

theorem record (underway : world.Underway start options) (entry : Entry) :
    (world.record entry).Underway start options :=
  ⟨underway.around, underway.loaded⟩

theorem attempt (underway : world.Underway start options) (planned : stage ∈ options.stages)
    (attempted : world.attempt stage = (outcome, next)) : next.Underway start options := by
  refine ⟨?_, fun config found => ?_⟩
  · have kept := world.attempt_around stage
    rw [attempted] at kept
    exact kept.trans underway.around
  · have gains := world.attempt_gains stage
    have same : (∀ path, stage ≠ .configuration path) →
        next.context.config = world.context.config := fun other => by
      have kept := world.attempt_config other
      rwa [attempted] at kept
    rw [attempted] at gains
    by_cases loading : ∃ path, stage = .configuration path
    · rcases loading with ⟨path, rfl⟩
      cases outcome with
      | succeeded =>
          rcases perform_configuration (perform_of_attempt (.ok ()) attempted) with
            ⟨given, loaded, held⟩
          rw [held] at found
          cases found
          rw [Serving.Options.path_of_stages planned, underway.files, underway.environment]
            at loaded
          exact loaded
      | failed | panicked =>
          refine underway.loaded config ?_
          rw [← found]
          exact congrArg Context.config (Eq.symm gains)
    · exact underway.loaded config
        ((same fun path loading' => loading ⟨path, loading'⟩).symm.trans found)

theorem database_fits (underway : world.Underway start options) {config : Config}
    (configured : world.context.config = some config) {address : Database.Address}
    (found : Database.target world.environment config.database options.testMode = .ok address) :
    start.Seeks options (.database address) ∧
      ∀ login ∈ (Database.logIn world.network address).2,
        Entry.Fits start options (.login login) := by
  have located := Database.locate_of_target found
  rw [Database.locate_eq, underway.environment] at located
  have seeks : start.Seeks options (.database address) := by
    split at located
    · rename_i url named
      exact ⟨config, url, underway.loaded config configured, named, located⟩
    · cases located
  refine ⟨seeks, fun login seen => ?_⟩
  rw [underway.network] at seen
  rcases Database.logIn_of_seen seen with ⟨place, server, same, stands, leads⟩
  exact ⟨address, place, server, seeks, same, stands, leads⟩

theorem cache_fits (underway : world.Underway start options) {config : Config}
    (configured : world.context.config = some config) {address : Cache.Address}
    (found : Cache.Address.read? config.cache.url = some address) (seconds : Nat) :
    start.Seeks options (.cache address) ∧
      ∀ command ∈ (Cache.greet world.network seconds address).2,
        Entry.Fits start options (.command command) := by
  have seeks : start.Seeks options (.cache address) :=
    ⟨config, underway.loaded config configured, found⟩
  refine ⟨seeks, fun command seen => ?_⟩
  rw [underway.network] at seen
  rcases Cache.greet_of_seen seen with ⟨place, server, told, stands, leads⟩
  exact ⟨address, place, server, seeks, told, stands, leads⟩

theorem attempt_fits (underway : world.Underway start options)
    (planned : stage ∈ options.stages) :
    ∃ entries, (world.attempt stage).2.journal = world.journal ++ entries ∧
      ∀ entry ∈ entries, stage.writes entry = true ∧ entry.Fits start options := by
  have nothing : ∀ {journal : Journal}, journal = world.journal →
      ∃ entries, journal = world.journal ++ entries ∧
        ∀ entry ∈ entries, stage.writes entry = true ∧ entry.Fits start options :=
    fun same => ⟨[], by simp [same], by simp⟩
  cases stage with
  | configuration | logging | metrics =>
      rcases world.attempt_adds _ with ⟨entries, grown, writes⟩
      refine ⟨entries, grown, fun entry member => ⟨writes entry member, ?_⟩⟩
      exact Stage.fits_of_writes (writes entry member) (by simp [Stage.name])
  | database testMode =>
      cases Serving.Options.testMode_of_stages planned
      rcases world.attempt_database_journal options.testMode with
        ⟨same, _⟩ | ⟨config, configured, _, _, grown⟩
      · exact nothing same
      · rcases world.connectDatabase_cases config.database options.testMode with
          ⟨fault, _, connected⟩ | ⟨address, events, found, _, written, told⟩
        · exact nothing (grown.trans (by rw [connected]))
        · rcases underway.database_fits configured found with ⟨seeks, logins⟩
          refine ⟨_, grown.trans written, fun entry member => ?_⟩
          rcases List.mem_cons.mp member with rfl | member
          · exact ⟨rfl, seeks⟩
          · rcases List.mem_append.mp member with login | event
            · rcases List.mem_map.mp login with ⟨seen, heard, rfl⟩
              exact ⟨rfl, logins seen heard⟩
            · rw [told entry event]
              exact ⟨rfl, trivial⟩
  | cache =>
      rcases world.attempt_cache_journal with ⟨same, _⟩ | ⟨config, configured, _, grown⟩
      · exact nothing same
      · rcases world.connectCache_cases config.cache with
          ⟨_, connected⟩ | ⟨address, events, found, _, written, told⟩
        · exact nothing (grown.trans (by rw [connected]))
        · rcases underway.cache_fits configured found config.cache.connectTimeoutSecs with
            ⟨seeks, commands⟩
          refine ⟨_, grown.trans written, fun entry member => ?_⟩
          rcases List.mem_cons.mp member with rfl | member
          · exact ⟨rfl, seeks⟩
          · rcases List.mem_append.mp member with command | event
            · rcases List.mem_map.mp command with ⟨words, heard, rfl⟩
              exact ⟨rfl, commands words heard⟩
            · rw [told entry event]
              exact ⟨rfl, trivial⟩

/-- The stage of the database succeeds only once the database has let the service in. -/
theorem letIn (underway : world.Underway start options) {testMode : Bool}
    (planned : .database testMode ∈ options.stages)
    (attempted : world.attempt (.database testMode) = (.succeeded, next)) :
    start.IsLetIn options next.journal := by
  cases Serving.Options.testMode_of_stages planned
  rcases world.attempt_database_journal options.testMode with
    ⟨_, none | ⟨message, panicked⟩⟩ | ⟨config, configured, _, fails, grown⟩
  · have performed := perform_of_attempt (.ok ()) attempted
    simp [perform, Context.getConfig, none] at performed
  · rw [attempted] at panicked
    cases panicked
  · rw [attempted] at fails grown
    rcases world.connectDatabase_cases config.database options.testMode with
      ⟨fault, _, connected⟩ | ⟨address, events, found, result, written, _⟩
    · cases fails fault (congrArg Prod.fst connected)
    · rcases logged : Database.logIn world.network address with ⟨fault | done, logins⟩ <;>
        rw [logged] at result written
      · cases fails fault result
      · rcases Database.logIn_eq_ok logged with ⟨lets, rfl⟩
        rw [underway.network] at lets
        refine ⟨address, (underway.database_fits configured found).1, lets, ?_, ?_⟩ <;>
          rw [grown, written] <;> simp

/-- The stage of the cache succeeds only once the cache has answered. -/
theorem greeted (underway : world.Underway start options)
    (attempted : world.attempt .cache = (.succeeded, next)) :
    start.IsGreeted options next.journal := by
  rcases world.attempt_cache_journal with ⟨_, none⟩ | ⟨config, configured, fails, grown⟩
  · have performed := perform_of_attempt (.ok ()) attempted
    simp [perform, Context.getConfig, none] at performed
  · rw [attempted] at fails grown
    rcases world.connectCache_cases config.cache with
      ⟨_, connected⟩ | ⟨address, events, found, result, written, told⟩
    · cases fails _ (congrArg Prod.fst connected)
    · rcases answered : Cache.greet world.network config.cache.connectTimeoutSecs address with
        ⟨fault | done, commands⟩ <;> rw [answered] at result written
      · cases fails fault result
      · rcases Cache.greet_eq_ok answered with ⟨greets, rfl⟩
        rw [underway.network] at greets
        refine ⟨address, (underway.cache_fits configured found 0).1, greets, ?_, ?_⟩ <;>
          rw [grown, written]
        · simp
        · refine ⟨world.journal.commands, Journal.commands events, ?_⟩
          rw [Journal.commands_append, List.append_assoc]
          congr 1
          rw [← Journal.commands_map (address.setup ++ [Cache.ping]), ← Journal.commands_append,
            Journal.commands_map]
          rfl

theorem panics (underway : world.Underway start options) {message : String}
    (attempted : world.attempt stage = (.panicked message, next)) :
    start.Panics options stage.name message := by
  rcases world.attempt_cases stage with ⟨told, panics, ended⟩ | ⟨_, ended⟩ <;>
    rw [ended] at attempted
  · cases attempted
    cases stage with
    | configuration path =>
        rw [panic?, underway.foreign] at panics
        cases assigned : start.foreign with
        | none => simp [assigned] at panics
        | some foreign =>
            refine .inl ⟨rfl, foreign, assigned, ?_⟩
            simp only [assigned, Option.bind_eq_bind, Option.bind_eq_some_iff,
              Option.pure_def, Option.some.injEq] at panics
            rcases panics with ⟨_, rfl, _, _, _, _, _, _, told⟩
            exact told.symm
    | database testMode =>
        cases configured : world.context.config with
        | none => simp [panic?, configured] at panics
        | some config =>
            simp only [panic?, configured, Option.bind_eq_bind, Option.bind_some, Database.panic?,
              underway.clock] at panics
            split at panics
            · cases panics
            · split at panics
              · cases panics
              · rename_i late
                cases panics
                exact .inr ⟨rfl, rfl, config, underway.loaded config configured,
                  Nat.le_of_not_lt late⟩
    | logging | metrics | cache => cases panics
  · exact absurd (congrArg Prod.fst attempted) Outcome.of_ne_panicked

theorem call_fits (underway : world.Underway start options) (planned : stage ∈ options.stages)
    (configured : stage.name = "database" → ∃ config, world.context.config = some config)
    (attempted : world.attempt stage = (outcome, next)) :
    Call.Fits start options ⟨stage.name, 1, [], outcome⟩ where
  unnamed named config loaded unnamed := by
    cases stage with
    | database testMode =>
        cases Serving.Options.testMode_of_stages planned
        rcases configured named with ⟨held, found⟩
        have same : Except.ok held = Except.ok config :=
          (underway.loaded held found).symm.trans loaded
        cases same
        have missing := Database.locate_eq world.environment config.database options.testMode
        rw [unnamed] at missing
        have failed : (world.attempt (.database options.testMode)).1 =
            .failed (.database .missingTestUrl) := by
          simp [World.attempt, panic?, perform, Context.getConfig, connectDatabase, found,
            Database.panic?, Database.target, missing, Outcome.of]
        rw [attempted] at failed
        exact failed
    | configuration | logging | metrics | cache => simp [Stage.name] at named
  panics message ended := by
    subst ended
    exact underway.panics attempted

end World.Underway

end Bringup
