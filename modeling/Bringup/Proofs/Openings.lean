import Bringup.Proofs.Contacts

namespace Bringup

/-! What a run opens.

Sockets are opened and the exporter is installed for the milestones that have been reached, and
servers are sought for those that have been attempted, as the configuration says, and nothing
else is opened (`World.IsOpened`). -/

def Entry.opens : Entry → Bool
  | bound _ _ | exporterInstalled _ | sought _ => true
  | _ => false

theorem Entry.opens_of_aimless {entry : Entry} (aimless : entry.milestone? = none) :
    entry.opens = false := by
  cases entry with
  | bound listener => cases listener <;> cases aimless
  | sought contact => cases contact <;> cases aimless
  | exporterInstalled => cases aimless
  | gauge | sample | event | serverEvent | call | loggerInstalled | login | command => rfl

namespace Journal

def openings (journal : Journal) : List Entry := journal.filter Entry.opens

@[simp] theorem openings_append (first second : Journal) :
    openings (first ++ second) = first.openings ++ second.openings :=
  List.filter_append ..

theorem openings_of_closed {entries : Journal} (closed : ∀ entry ∈ entries, entry.opens = false) :
    entries.openings = [] :=
  List.filter_eq_nil_iff.mpr fun entry member opens => by simp [closed entry member] at opens

/-- Of an attempt to connect, only that it was made is an opening, and nothing that the server
heard or that is logged of it. -/
theorem openings_sought (journal : Journal) (contact : Contact) {heard events : Journal}
    (silent : ∀ entry ∈ heard, entry.opens = false)
    (logged : ∀ entry ∈ events, entry.opens = false) :
    openings (journal ++ .sought contact :: (heard ++ events)) =
      journal.openings ++ [.sought contact] := by
  have closed : openings (heard ++ events) = [] :=
    openings_of_closed (List.forall_mem_append.mpr ⟨silent, logged⟩)
  rw [openings_append]
  exact congrArg (_ ++ _ :: ·) closed

theorem exported?_of_openings {journal : Journal} (closed : journal.openings = []) :
    journal.exported? = none := by
  induction journal with
  | nil => rfl
  | cons entry rest induction =>
      have parts := List.filter_eq_nil_iff.mp closed
      have later : openings rest = [] :=
        List.filter_eq_nil_iff.mpr fun other member => parts other (.tail _ member)
      have first := parts entry (.head _)
      cases entry with
      | bound | exporterInstalled | sought => exact absurd rfl first
      | _ => exact induction later

end Journal

/-- The address that a configuration asks for. The metrics can be read only where they are
enabled. -/
def Config.addressFor? (config : Config) : Listener → Option SocketAddress
  | .exporter =>
      if config.observability.metricsEnabled then
        SocketAddress.read? config.observability.metricsAddress
      else none
  | .server => SocketAddress.read? config.server.bindAddress

def Listener.milestone : Listener → Milestone
  | exporter => .step "metrics"
  | server => .listening

def World.Opens (start : World) (options : Serving.Options) (listener : Listener)
    (chosen : SocketAddress) : Prop :=
  ∃ config address, start.Loads options config ∧ config.addressFor? listener = some address ∧
    chosen = start.network.given listener address

namespace Milestone

def contact? (start : World) (options : Serving.Options) (config : Config) :
    Milestone → Option Contact
  | step name =>
      if name = "database" then
        ((config.database.urlIn options.testMode).bind fun url =>
          (Database.Address.read start.environment url).toOption).map .database
      else if name = "cache" then (Cache.Address.read? config.cache.url).map .cache
      else none
  | listening | serving => none

def sockets (start : World) (config : Config) : Milestone → List Entry
  | step name =>
      if name = "metrics" then
        ((config.addressFor? .exporter).map (start.network.given .exporter)).toList.flatMap
          fun chosen => [.bound .exporter chosen, .exporterInstalled chosen]
      else []
  | listening =>
      ((config.addressFor? .server).map (start.network.given .server)).toList.map (.bound .server)
  | serving => []

theorem mem_sockets {start : World} {config : Config} {milestone : Milestone}
    {listener : Listener} {chosen : SocketAddress}
    (listens : .bound listener chosen ∈ milestone.sockets start config) :
    milestone = listener.milestone ∧ ∃ address, config.addressFor? listener = some address ∧
      chosen = start.network.given listener address := by
  unfold sockets at listens
  split at listens
  · split at listens
    · rename_i metrics
      rcases List.mem_flatMap.mp listens with ⟨given, member, same⟩
      rcases List.mem_cons.mp same with same | other
      · cases same
        rcases Option.map_eq_some_iff.mp (Option.mem_toList.mp member) with ⟨address, read, rfl⟩
        exact ⟨congrArg step metrics, address, read, rfl⟩
      · cases List.mem_singleton.mp other
    · cases listens
  · rcases List.mem_map.mp listens with ⟨given, member, same⟩
    cases same
    rcases Option.map_eq_some_iff.mp (Option.mem_toList.mp member) with ⟨address, read, rfl⟩
    exact ⟨rfl, address, read, rfl⟩
  · cases listens

end Milestone

/-- What an attempt opens: the connection that it is about, unless it panics, and once its
milestone has been reached what listens from then on. -/
def Attempt.openings (start : World) (options : Serving.Options) (config? : Option Config)
    (attempt : Attempt) : List Entry :=
  match config?, attempt.setback with
  | none, _ | some _, some (.panicked _) => []
  | some config, some (.failed _) =>
      (attempt.milestone.contact? start options config).toList.map .sought
  | some config, none =>
      (attempt.milestone.contact? start options config).toList.map .sought ++
        attempt.milestone.sockets start config

namespace Attempt

variable {start : World} {options : Serving.Options}

/-- A milestone for which nothing is opened. -/
theorem openings_of_closed {milestone : Milestone}
    (alone : ∀ config, milestone.contact? start options config = none)
    (closed : ∀ config, milestone.sockets start config = []) (config? : Option Config)
    (setback : Option Setback) : openings start options config? ⟨milestone, setback⟩ = [] := by
  unfold openings
  split <;> simp [alone, closed]

/-- A milestone for which a server is sought and nothing else opened. -/
theorem openings_of_contact {milestone : Milestone} {config : Config}
    (closed : milestone.sockets start config = []) {setback : Option Setback}
    (whole : ∀ message, setback ≠ some (.panicked message)) :
    openings start options (some config) ⟨milestone, setback⟩ =
      (milestone.contact? start options config).toList.map .sought := by
  rcases setback with _ | (reason | message)
  · exact (congrArg (_ ++ ·) closed).trans (List.append_nil _)
  · rfl
  · exact absurd rfl (whole message)

end Attempt

theorem Outcome.setback?_ne_panicked {outcome : Outcome}
    (whole : ∀ message, outcome ≠ .panicked message) (message : String) :
    outcome.setback? ≠ some (.panicked message) := by
  intro ended
  cases outcome with
  | panicked told => exact whole told rfl
  | succeeded | failed => cases ended

theorem Stage.eq_of_reached {stage : Stage} {name : String} {outcome : Outcome}
    (concluded : Entry.attempt? (.call ⟨stage.name, 1, [], outcome⟩) =
      some (Milestone.step name).reached) : stage.name = name ∧ outcome = .succeeded := by
  cases outcome with
  | succeeded =>
      cases concluded
      exact ⟨rfl, rfl⟩
  | failed | panicked => cases concluded

theorem Stage.opens_of_writes {stage : Stage} {entry : Entry} (writes : stage.writes entry = true)
    (closed : stage = .logging ∨ ∃ path, stage = .configuration path) : entry.opens = false := by
  unfold Stage.writes at writes
  split at writes <;> first | rfl | simp at closed | cases writes

namespace Database

variable {environment : List Variable} {config : Config} {testMode : Bool}

theorem target_of_valid (valid : config.violations = []) :
    target environment config.database testMode = locate environment config.database testMode := by
  have fine := (Config.violations_eq_nil_iff config).mp valid
  have room := fine .databaseMaxConnections
  have time := fine .databaseConnectTimeout
  simp only [Validation.complaint?, Validation.positiveComplaint?, ite_eq_right_iff, reduceCtorEq,
    imp_false] at room time
  unfold target
  cases locate environment config.database testMode <;> simp [room, time]

theorem contact?_of_valid {start : World} {options : Serving.Options}
    (valid : config.violations = []) :
    (Milestone.step "database").contact? start options config =
      (target start.environment config.database options.testMode).toOption.map .database := by
  rw [target_of_valid valid, locate_eq]
  unfold Milestone.contact?
  cases config.database.urlIn options.testMode <;> rfl

end Database

namespace World

variable {start world next : World} {options : Serving.Options} {stage : Stage}
  {outcome : Outcome}

/-! ## What the stages open -/

theorem given_of_bind {listener : Listener} {address chosen : SocketAddress}
    (bound : world.bind listener address = .ok chosen) :
    chosen = world.network.given listener address := by
  unfold bind at bound
  split at bound
  · cases bound
  · split at bound <;> cases bound
    rfl

theorem perform_metrics_openings (underway : world.Underway start options)
    (first : world.journal.exported? = none) :
    (world.perform .metrics).2.journal.openings = world.journal.openings ++
      Attempt.openings start options world.context.config
        ⟨Stage.metrics.milestone, (Outcome.of (world.perform .metrics).1).setback?⟩ := by
  cases configured : world.context.config with
  | none => simp [perform, Context.getConfig, configured, Attempt.openings]
  | some config =>
      have failing : ∀ reason, Attempt.openings start options (some config)
          ⟨Stage.metrics.milestone, some (.failed reason)⟩ = [] := fun _ => rfl
      by_cases enabled : config.observability.metricsEnabled
      · cases address? : SocketAddress.read? config.observability.metricsAddress with
        | none =>
            simp [perform, Context.getConfig, configured, enabled, address?, Outcome.of,
              Outcome.setback?, failing]
        | some address =>
            cases bound : world.bind .exporter address with
            | error fault =>
                simp [perform, Context.getConfig, configured, enabled, address?, installExporter,
                  bound, Outcome.of, Outcome.setback?, failing]
            | ok chosen =>
                have given : chosen = start.network.given .exporter address := by
                  rw [← underway.network]
                  exact given_of_bind bound
                have performed : world.perform .metrics = (.ok (),
                    (world.recordAll (installationEntries address chosen)).log
                      (.metricsStarted config.observability.metricsAddress)) := by
                  simp [perform, Context.getConfig, configured, enabled, address?,
                    installExporter, bound, first, installationEntries]
                have opened : Attempt.openings start options (some config)
                    ⟨Stage.metrics.milestone, none⟩ =
                      [.bound .exporter chosen, .exporterInstalled chosen] := by
                  simp [Attempt.openings, Milestone.sockets, Milestone.contact?, Stage.milestone,
                    Stage.name, Config.addressFor?, enabled, address?, given]
                rw [performed]
                change _ = _ ++ Attempt.openings start options (some config)
                  ⟨Stage.metrics.milestone, none⟩
                rw [opened, log_journal, recordAll_journal, Journal.openings_append,
                  Journal.openings_append, List.append_assoc]
                rfl
      · simp [perform, Context.getConfig, configured, enabled, Attempt.openings, Outcome.of,
          Outcome.setback?, Milestone.sockets, Milestone.contact?, Stage.milestone, Stage.name,
          Config.addressFor?]

theorem attempt_database_openings (underway : world.Underway start options)
    (attempted : world.attempt (.database options.testMode) = (outcome, next)) :
    next.journal.openings = world.journal.openings ++
      Attempt.openings start options world.context.config
        ⟨(Stage.database options.testMode).milestone, outcome.setback?⟩ := by
  rcases world.attempt_database_journal options.testMode with
    ⟨same, unset | ⟨message, panicked⟩⟩ | ⟨config, configured, whole, _, grown⟩ <;>
    rw [attempted] at *
  · rw [same, unset]
    exact (List.append_nil _).symm
  · cases panicked
    rw [same]
    cases world.context.config <;> exact (List.append_nil _).symm
  · have valid := Config.violations_of_loadFile (underway.loaded config configured)
    rw [configured, grown, Attempt.openings_of_contact rfl (Outcome.setback?_ne_panicked whole),
      Stage.milestone, Stage.name, Database.contact?_of_valid valid, ← underway.environment]
    rcases world.connectDatabase_cases config.database options.testMode with
      ⟨fault, missing, connected⟩ | ⟨address, events, found, _, written, told⟩
    · rw [missing, connected]
      exact (List.append_nil _).symm
    · rw [found, written]
      refine Journal.openings_sought _ _ (List.forall_mem_map.mpr fun _ _ => rfl) ?_
      intro entry event
      rw [told entry event]
      rfl

theorem attempt_cache_openings (attempted : world.attempt .cache = (outcome, next)) :
    next.journal.openings = world.journal.openings ++
      Attempt.openings start options world.context.config
        ⟨Stage.cache.milestone, outcome.setback?⟩ := by
  have whole : ∀ message, outcome ≠ .panicked message := by
    rintro message rfl
    exact Outcome.of_ne_panicked (congrArg Prod.fst attempted)
  rcases world.attempt_cache_journal with ⟨same, unset⟩ | ⟨config, configured, _, grown⟩ <;>
    rw [attempted] at *
  · rw [same, unset]
    exact (List.append_nil _).symm
  · rw [configured, grown, Attempt.openings_of_contact rfl (Outcome.setback?_ne_panicked whole)]
    have contact : Stage.cache.milestone.contact? start options config =
      (Cache.Address.read? config.cache.url).map .cache := rfl
    rw [contact]
    rcases world.connectCache_cases config.cache with
      ⟨missing, connected⟩ | ⟨address, events, found, _, written, told⟩
    · rw [missing, connected]
      exact (List.append_nil _).symm
    · rw [found, written]
      refine Journal.openings_sought _ _ (List.forall_mem_map.mpr fun _ _ => rfl) ?_
      intro entry event
      rw [told entry event]
      rfl

theorem attempt_openings (underway : world.Underway start options)
    (planned : stage ∈ options.stages)
    (first : stage = .metrics → world.journal.exported? = none)
    (attempted : world.attempt stage = (outcome, next)) :
    next.journal.openings = world.journal.openings ++
      Attempt.openings start options world.context.config
        ⟨stage.milestone, outcome.setback?⟩ := by
  have nothing (closed : stage = .logging ∨ ∃ path, stage = .configuration path) :
      next.journal.openings = world.journal.openings ++
        Attempt.openings start options world.context.config
          ⟨stage.milestone, outcome.setback?⟩ := by
    rcases world.attempt_adds stage with ⟨entries, grown, writes⟩
    rw [attempted] at grown
    have silent : Journal.openings entries = [] := Journal.openings_of_closed
      fun entry member => Stage.opens_of_writes (writes entry member) closed
    have alone : Attempt.openings start options world.context.config
        ⟨stage.milestone, outcome.setback?⟩ = [] := by
      rcases closed with rfl | ⟨path, rfl⟩ <;>
        exact Attempt.openings_of_closed (fun _ => rfl) (fun _ => rfl) _ _
    rw [grown, Journal.openings_append, silent, alone]
  cases stage with
  | configuration path => exact nothing (.inr ⟨path, rfl⟩)
  | logging => exact nothing (.inl rfl)
  | metrics =>
      have opened := perform_metrics_openings underway (first rfl)
      have ended : world.attempt .metrics = (world.perform .metrics).map .of id := rfl
      rw [ended] at attempted
      cases attempted
      exact opened
  | database testMode =>
      cases Serving.Options.testMode_of_stages planned
      exact attempt_database_openings underway attempted
  | cache => exact attempt_cache_openings attempted

/-! ## What is open -/

/-- Everything is open that is to be open after what has been attempted, and nothing else. -/
def IsOpened (world start : World) (options : Serving.Options) : Prop :=
  world.journal.openings =
    world.journal.attempts.flatMap (Attempt.openings start options world.context.config)

theorem IsOpened.record (opened : world.IsOpened start options) {entry : Entry}
    (closed : entry.opens = false)
    (leaves : entry.attempt?.toList.flatMap
      (Attempt.openings start options world.context.config) = []) :
    (world.record entry).IsOpened start options := by
  have nothing : Journal.openings [entry] = [] := by
    simp [Journal.openings, closed]
  unfold IsOpened at opened ⊢
  rw [record_journal, Journal.openings_append, nothing, List.append_nil, opened,
    Journal.attempts_append, Journal.attempts_singleton, List.flatMap_append]
  change _ = _ ++ List.flatMap (Attempt.openings start options world.context.config) _
  rw [leaves, List.append_nil]
  rfl

theorem IsOpened.aside (opened : world.IsOpened start options) {entry : Entry}
    (aimless : entry.milestone? = none) : (world.record entry).IsOpened start options :=
  opened.record (Entry.opens_of_aimless aimless)
    (by rw [Entry.attempt?_of_aimless aimless]; rfl)

theorem IsOpened.call (opened : world.IsOpened start options)
    (underway : world.Underway start options) (planned : stage ∈ options.stages)
    (turn : world.journal.attempts = stage.milestone.earlier)
    (attempted : world.attempt stage = (outcome, next)) :
    (next.record (.call ⟨stage.name, 1, [], outcome⟩)).IsOpened start options := by
  have first : stage = .metrics → world.journal.exported? = none := by
    rintro rfl
    apply Journal.exported?_of_openings
    rw [opened, turn]
    cases world.context.config <;> rfl
  have left := attempt_openings underway planned first attempted
  have same : next.journal.attempts = world.journal.attempts := by
    rcases world.attempt_adds stage with ⟨entries, grown, writes⟩
    rw [attempted] at grown
    rw [grown, Journal.attempts_append, Journal.attempts_of_silent fun entry member =>
      (Stage.milestone_of_writes (writes entry member)).1, List.append_nil]
  have concluded : Journal.attempts [.call ⟨stage.name, 1, [], outcome⟩] =
    [⟨stage.milestone, outcome.setback?⟩] := rfl
  have closed : Journal.openings [.call ⟨stage.name, 1, [], outcome⟩] = [] := rfl
  unfold IsOpened at opened ⊢
  rw [record_journal, Journal.openings_append, Journal.attempts_append, List.flatMap_append,
    left, same, opened, concluded, closed, List.append_nil, List.flatMap_singleton]
  change _ = List.flatMap (Attempt.openings start options next.context.config) _ ++
    Attempt.openings start options next.context.config _
  by_cases loading : ∃ path, stage = .configuration path
  · -- The configuration changes, but nothing is open so far.
    rcases loading with ⟨path, rfl⟩
    rw [turn, Attempt.openings_of_closed (fun _ => rfl) fun _ => rfl]
    exact (Attempt.openings_of_closed (fun _ => rfl) (fun _ => rfl) _ _).symm
  · have kept := world.attempt_config fun path same => loading ⟨path, same⟩
    rw [attempted] at kept
    rw [kept]

/-! ## What has been attempted -/

/-- These attempts have been made, each in its turn, and opened what they are to open. -/
structure Attempted (world start : World) (options : Serving.Options)
    (attempts : List Attempt) : Prop where
  attempts : world.journal.attempts = attempts
  inTurn : world.journal.InTurn start options
  opened : world.IsOpened start options
  underway : world.Underway start options

namespace Attempted

theorem aside {attempts : List Attempt} (attempted : world.Attempted start options attempts)
    {entry : Entry} (aimless : entry.milestone? = none) :
    (world.record entry).Attempted start options attempts := by
  rcases attempted.inTurn.aside aimless with ⟨inTurn, same⟩
  exact ⟨same.trans attempted.attempts, inTurn, attempted.opened.aside aimless,
    attempted.underway.record entry⟩

variable {milestone : Milestone}

/-- What opens nothing can be written on the way to the milestone whose turn it is. -/
theorem toward (attempted : world.Attempted start options milestone.earlier) (entry : Entry)
    (aims : entry.milestone? = some milestone) (fits : entry.Fits start options)
    (other : ∀ made, entry ≠ .call made) (closed : entry.opens = false)
    (leaves : ∀ config?, entry.attempt?.toList.flatMap
      (Attempt.openings start options config?) = []) :
    (world.record entry).Attempted start options
      (milestone.earlier ++ entry.attempt?.toList) := by
  rcases attempted.inTurn.toward attempted.attempts entry aims fits other with ⟨inTurn, reached⟩
  exact ⟨reached, inTurn, attempted.opened.record closed (leaves _),
    attempted.underway.record entry⟩

theorem proceed (attempted : world.Attempted start options milestone.earlier) (entry : Entry)
    (aims : entry.milestone? = some milestone) (fits : entry.Fits start options)
    (closed : entry.opens = false) (silent : entry.attempt? = none) :
    (world.record entry).Attempted start options milestone.earlier := by
  have other : ∀ made, entry ≠ .call made := by
    rintro made rfl
    cases silent
  have begun := attempted.toward entry aims fits other closed (by simp [silent])
  rwa [silent, Option.toList_none, List.append_nil] at begun

theorem call (attempted : world.Attempted start options stage.milestone.earlier)
    (planned : stage ∈ options.stages)
    (configured : stage.name = "database" → ∃ config, world.context.config = some config)
    (performed : world.attempt stage = (outcome, next)) :
    (next.record (.call ⟨stage.name, 1, [], outcome⟩)).Attempted start options
      (stage.milestone.earlier ++ [⟨stage.milestone, outcome.setback?⟩]) := by
  have underway := attempted.underway
  rcases underway.attempt_fits planned with ⟨entries, grown, fits⟩
  rw [performed] at grown
  have silent : ∀ entry ∈ entries, entry.attempt? = none := fun entry member =>
    (Stage.milestone_of_writes (fits entry member).1).1
  have turn : next.journal.attempts = stage.milestone.earlier := by
    rw [grown, Journal.attempts_append, Journal.attempts_of_silent silent, attempted.attempts,
      List.append_nil]
  have inTurn : next.journal.InTurn start options := by
    rw [grown]
    refine attempted.inTurn.append silent fun entry member written nothing => ?_
    have before : Journal.attempts (world.journal ++ written) = stage.milestone.earlier := by
      rw [Journal.attempts_append, attempted.attempts, nothing, List.append_nil]
    rcases (Stage.milestone_of_writes (fits entry member).1).2 with aimless | aims
    · exact .of_aimless aimless
    · refine .of_turn aims before (fits entry member).2 ?_
      rintro made rfl
      cases silent _ member
  have due : Entry.IsDue start options next.journal (.call ⟨stage.name, 1, [], outcome⟩) := by
    refine ⟨fun _ aims => ?_, underway.call_fits planned configured performed,
      fun concluded => ?_, fun concluded => ?_⟩
    · cases aims
      exact turn
    · rcases Stage.eq_of_reached concluded with ⟨named, rfl⟩
      cases stage with
      | database testMode => exact underway.letIn planned performed
      | configuration | logging | metrics | cache => simp [Stage.name] at named
    · rcases Stage.eq_of_reached concluded with ⟨named, rfl⟩
      cases stage with
      | cache => exact underway.greeted performed
      | configuration | logging | metrics | database => simp [Stage.name] at named
  refine ⟨?_, inTurn.snoc due, attempted.opened.call underway planned attempted.attempts performed,
    (underway.attempt planned performed).record _⟩
  rw [record_journal, Journal.attempts_append, turn]
  rfl

theorem listen {config : Config} {address chosen : SocketAddress}
    (attempted : world.Attempted start options Milestone.listening.earlier)
    (configured : world.context.config = some config)
    (read : SocketAddress.read? config.server.bindAddress = some address)
    (bound : world.bind .server address = .ok chosen) :
    ((world.record (.bound .server chosen)).log (.listening chosen.write)).Attempted start
      options Milestone.serving.earlier := by
  have first := attempted.inTurn.toward attempted.attempts (.bound .server chosen) rfl trivial
    (by simp)
  have second := first.1.toward (first.2.trans (List.append_nil _))
    (.event (.listening chosen.write)) rfl trivial (by simp)
  refine ⟨second.2, second.1, ?_, attempted.underway.record _ |>.record _⟩
  have given : chosen = start.network.given .server address :=
    attempted.underway.network ▸ given_of_bind bound
  have opened : Attempt.openings start options (some config) Milestone.listening.reached =
      [.bound .server chosen] := by
    simp [Attempt.openings, Milestone.reached, Milestone.contact?, Milestone.sockets,
      Config.addressFor?, read, given]
  have same : ((world.record (.bound .server chosen)).log
    (.listening chosen.write)).context.config = some config := configured
  have concluded : (Entry.event (.listening chosen.write)).attempt?.toList =
    [Milestone.listening.reached] := rfl
  have before := attempted.opened
  unfold IsOpened at before ⊢
  rw [attempted.attempts, configured] at before
  rw [log_journal, record_journal, second.2, same, concluded, List.flatMap_append,
    List.flatMap_singleton, opened, Journal.openings_append, Journal.openings_append, before]
  exact List.append_nil _

/-- A socket listens only once its milestone has been reached, and where it is to. -/
theorem listens {attempts : List Attempt} (attempted : world.Attempted start options attempts)
    {listener : Listener} {chosen : SocketAddress}
    (listens : .bound listener chosen ∈ world.journal) :
    listener.milestone.reached ∈ attempts ∧ start.Opens options listener chosen := by
  have open' : .bound listener chosen ∈ world.journal.openings :=
    List.mem_filter.mpr ⟨listens, rfl⟩
  rw [attempted.opened, attempted.attempts] at open'
  rcases List.mem_flatMap.mp open' with ⟨⟨milestone, setback⟩, made, opens⟩
  cases configured : world.context.config with
  | none => simp [configured, Attempt.openings] at opens
  | some config =>
      have none_sought : ∀ contact? : Option Contact,
          Entry.bound listener chosen ∉ contact?.toList.map .sought := by simp
      rw [configured] at opens
      rcases setback with _ | (reason | message)
      · rcases List.mem_append.mp opens with sought | sockets
        · exact absurd sought (none_sought _)
        · rcases Milestone.mem_sockets sockets with ⟨rfl, address, read, rfl⟩
          exact ⟨made, config, address, attempted.underway.loaded config configured, read, rfl⟩
      · exact absurd opens (none_sought _)
      · cases opens

end Attempted

end World

end Bringup
