import Bringup.Lifecycle.Walk

namespace Bringup

/-! What each access writes to the journal.

A journal only grows. For every access to the bookkeeping the entries that it appends are
given once, in order; what the access does to a view of the journal is then read off these
entries. -/

theorem split_of_snoc {first before after : List β} {last entry : β}
    (split : first ++ [last] = before ++ entry :: after) :
    (before = first ∧ entry = last) ∨ ∃ rest, first = before ++ entry :: rest := by
  rcases List.eq_nil_or_concat after with rfl | ⟨rest, final, rfl⟩
  · rcases List.append_inj' split rfl with ⟨rfl, same⟩
    cases same
    exact .inl ⟨rfl, rfl⟩
  · rw [List.concat_eq_append, ← List.cons_append, ← List.append_assoc] at split
    exact .inr ⟨rest, (List.append_inj' split rfl).1⟩

theorem getElem?_of_grown {shorter longer : List β} (grown : shorter <+: longer)
    {position : Nat} {entry : β} (found : shorter[position]? = some entry) :
    longer[position]? = some entry := by
  rcases List.getElem?_eq_some_iff.mp found with ⟨inside, rfl⟩
  exact List.prefix_iff_getElem?.mp grown position inside

namespace Journal

variable (first second : Journal)

@[simp] theorem gauges_append : gauges (first ++ second) = first.gauges ++ second.gauges :=
  List.filterMap_append

theorem calls_append : calls (first ++ second) = first.calls ++ second.calls :=
  List.filterMap_append

@[simp] theorem samples_append : samples (first ++ second) = first.samples ++ second.samples :=
  List.filterMap_append

end Journal

namespace World

theorem record_journal (world : World) (entry : Entry) :
    (world.record entry).journal = world.journal ++ [entry] := rfl

theorem recordAll_journal (world : World) (entries : List Entry) :
    (world.recordAll entries).journal = world.journal ++ entries := rfl

theorem log_journal (world : World) (event : Event) :
    (world.log event).journal = world.journal ++ [.event event] := rfl

end World

namespace Service

/-! ## Single accesses -/

theorem log_journal (service : Service) (event : Event) :
    (service.log event).world.journal = service.world.journal ++ [.event event] := rfl

theorem record_journal (service : Service) (entry : Entry) :
    (service.record entry).world.journal = service.world.journal ++ [entry] := rfl

theorem setReady_journal (service : Service) (ready : Bool) :
    (service.setReady ready).world.journal = service.world.journal ++ [.gauge ready] := rfl

theorem beginCall_journal (service : Service) (position : Nat) (step : Step) :
    (service.beginCall position step).world.journal =
      service.world.journal ++ [.event (.stepRunning step.name)] := rfl

theorem endCall_journal (service : Service) (step : Step) (replies : List Reply)
    (outcome : Outcome) :
    (service.endCall step replies outcome).world.journal =
      service.world.journal ++ [.call ⟨step.name, step.calls + 1, replies, outcome⟩] := rfl

def bookingEntries (name : String) : Outcome → List Entry
  | .succeeded => [.sample name true, .event (.stepCompleted name)]
  | .failed cause => [.sample name false, .event (.stepFailed name cause.message)]
  | .panicked _ => []

theorem book_journal (service : Service) (position : Nat) (name : String)
    (outcome : Outcome) :
    (service.book position name outcome).2.world.journal =
      service.world.journal ++ bookingEntries name outcome := by
  cases outcome <;> simp [book, bookingEntries, log_journal, record_journal]

/-! ## Registrations -/

theorem push_journal {service next : Service} {name : String} {action : Action}
    (pushed : service.push name action = .ok next) :
    next.world.journal = service.world.journal ++ [.gauge false] := by
  unfold push at pushed
  split at pushed <;> cases pushed
  rfl

def registrationEntries (name : String) (position : Nat) : Except DuplicateName Unit → List Entry
  | .ok () => [.gauge false, .event (.stepRegistered name position)]
  | .error _ => [.event (.duplicateRejected name)]

theorem register_journal (service : Service) (name : String) (action : Action) :
    (service.register name action).2.world.journal = service.world.journal ++
      registrationEntries name service.manager.steps.length
        (service.register name action).1 := by
  cases pushed : service.push name action with
  | error fault => simp [register, pushed, registrationEntries, log_journal]
  | ok next => simp [register, pushed, registrationEntries, push_journal pushed, log_journal]

def replyEntries (position : Nat) : Request → Reply → List Entry
  | .register name _ _, .registered result => registrationEntries name position result
  | _, _ => []

theorem reply_journal (service : Service) (request : Request) :
    (service.reply request).2.world.journal = service.world.journal ++
      replyEntries service.manager.steps.length request (service.reply request).1.1 := by
  cases request with
  | register name runs isRequired =>
      have written := register_journal service name (.scripted runs)
      rcases registered : service.register name (.scripted runs) with ⟨result, next⟩
      rw [registered] at written
      cases result <;> simp only [reply, registered] <;> exact written
  | isInitialized | isReady | status => simp [reply, replyEntries]

end Service

/-! ## Work that is not about steps -/

namespace Journal

def Adds (kind : Entry → Bool) (first second : Journal) : Prop :=
  ∃ entries, second = first ++ entries ∧ ∀ entry ∈ entries, kind entry = true

namespace Adds

variable {kind other : Entry → Bool} {first second third : Journal}

theorem refl (kind : Entry → Bool) (journal : Journal) : Adds kind journal journal :=
  ⟨[], by simp, by simp⟩

theorem one (journal : Journal) {entry : Entry} (fits : kind entry = true) :
    Adds kind journal (journal ++ [entry]) :=
  ⟨[entry], rfl, by simpa using fits⟩

theorem all (journal : Journal) {entries : List Entry}
    (fit : ∀ entry ∈ entries, kind entry = true) : Adds kind journal (journal ++ entries) :=
  ⟨entries, rfl, fit⟩

theorem trans (earlier : Adds kind first second) (later : Adds kind second third) :
    Adds kind first third := by
  rcases earlier with ⟨entries, rfl, fit⟩
  rcases later with ⟨more, rfl, fitMore⟩
  refine ⟨entries ++ more, by simp, fun entry member => ?_⟩
  rcases List.mem_append.mp member with early | late
  · exact fit entry early
  · exact fitMore entry late

theorem mono (adds : Adds kind first second)
    (weaker : ∀ entry, kind entry = true → other entry = true) : Adds other first second := by
  rcases adds with ⟨entries, grown, fit⟩
  exact ⟨entries, grown, fun entry member => weaker entry (fit entry member)⟩

end Adds

end Journal

def Stage.writes : Stage → Entry → Bool
  | configuration _, .event (.overrideApplied _)
  | configuration _, .event (.configurationLoaded _)
  | logging, .loggerInstalled _
  | logging, .event .serviceStarting
  | metrics, .bound .exporter _
  | metrics, .exporterInstalled _
  | metrics, .gauge _
  | metrics, .event (.exporterListening _)
  | metrics, .event (.metricsStarted _)
  | database _, .sought (.database _)
  | database _, .login _
  | database _, .event (.databaseReady _ _)
  | cache, .sought (.cache _)
  | cache, .command _
  | cache, .event .cacheReady => true
  | _, _ => false

namespace World

@[simp] theorem publish_journal (world : World) (result : Except ContextError Context) :
    (world.publish result).2.journal = world.journal := by
  cases result <;> rfl

theorem logOverrides_adds (world : World) (path : String) (environment : List Variable) :
    Journal.Adds (Stage.configuration path).writes world.journal
      (world.logOverrides path environment).journal := by
  refine .all _ fun entry member => ?_
  rcases List.mem_map.mp member with ⟨name, _, rfl⟩
  rfl

theorem loadConfig_adds (world : World) (path : String) :
    Journal.Adds (Stage.configuration path).writes world.journal
      (world.loadConfig path).2.journal := by
  have applied := world.logOverrides_adds path world.environment
  unfold loadConfig
  simp only
  split
  · exact applied.trans (.one _ rfl)
  · exact applied

theorem installLogger_adds (world : World) (config : ObservabilityConfig) :
    Journal.Adds Stage.logging.writes world.journal (world.installLogger config).2.journal := by
  unfold installLogger
  simp only
  split
  · exact .refl _ _
  · exact .one _ rfl

theorem connectDatabase_adds (world : World) (config : DatabaseConfig) (testMode : Bool) :
    Journal.Adds (Stage.database testMode).writes world.journal
      (world.connectDatabase config testMode).2.journal := by
  have seen : ∀ address (logins : List DatabaseLogin),
      Journal.Adds (Stage.database testMode).writes world.journal
        ((world.record (.sought (.database address))).recordAll (logins.map .login)).journal := by
    intro address logins
    refine Journal.Adds.trans (.one _ rfl) (.all _ fun entry member => ?_)
    rcases List.mem_map.mp member with ⟨login, _, rfl⟩
    rfl
  unfold connectDatabase
  split
  · exact .refl _ _
  · simp only
    split
    · exact seen _ _
    · exact (seen _ _).trans (.one _ rfl)

theorem connectCache_adds (world : World) (config : CacheConfig) :
    Journal.Adds Stage.cache.writes world.journal (world.connectCache config).2.journal := by
  have seen : ∀ address (commands : List Cache.Command),
      Journal.Adds Stage.cache.writes world.journal
        ((world.record (.sought (.cache address))).recordAll (commands.map .command)).journal := by
    intro address commands
    refine Journal.Adds.trans (.one _ rfl) (.all _ fun entry member => ?_)
    rcases List.mem_map.mp member with ⟨command, _, rfl⟩
    rfl
  unfold connectCache
  split
  · exact .refl _ _
  · simp only
    split
    · exact seen _ _
    · exact (seen _ _).trans (.one _ rfl)

/-- What the installation of the exporter writes that was to listen on one address and does
so on another. -/
def installationEntries (address chosen : SocketAddress) : List Entry :=
  [.bound .exporter chosen, .exporterInstalled chosen, .gauge false,
    .event (.exporterListening address.write)]

/-- The exporter is installed if there is none and a socket can be opened for it; otherwise at
most a socket is left behind. -/
theorem installExporter_cases (world : World) (address : SocketAddress) :
    (∃ chosen, (world.installExporter address).1 = .ok () ∧
        world.bind .exporter address = .ok chosen ∧ world.journal.exported? = none ∧
        (world.installExporter address).2.journal =
          world.journal ++ installationEntries address chosen) ∨
      (∃ fault, (world.installExporter address).1 = .error fault) ∧
        Journal.Adds (fun entry => entry matches .bound .exporter _) world.journal
          (world.installExporter address).2.journal := by
  unfold installExporter
  split
  · exact .inr ⟨⟨_, rfl⟩, .refl _ _⟩
  · rename_i chosen bound
    split
    · exact .inr ⟨⟨_, rfl⟩, .one _ rfl⟩
    · rename_i first
      exact .inl ⟨chosen, rfl, bound, by simpa using first, rfl⟩

/-- A stage writes what it is there for and nothing else. -/
theorem perform_adds (world : World) (stage : Stage) :
    Journal.Adds stage.writes world.journal (world.perform stage).2.journal := by
  cases stage with
  | configuration path =>
      have adds := world.loadConfig_adds path
      simp only [perform]
      split <;> rename_i loaded <;> rw [loaded] at adds
      · exact adds
      · rw [publish_journal]
        exact adds
  | logging =>
      simp only [perform]
      split
      · exact .refl _ _
      · rename_i config _
        have adds := world.installLogger_adds config.observability
        split <;> rename_i installed <;> rw [installed] at adds
        · exact adds
        · exact adds.trans (.one _ rfl)
  | metrics =>
      simp only [perform]
      split
      · exact .refl _ _
      · split
        · exact .refl _ _
        · split
          · exact .refl _ _
          · rename_i address _
            have adds : Journal.Adds Stage.metrics.writes world.journal
                (world.installExporter address).2.journal := by
              rcases world.installExporter_cases address with ⟨_, _, _, _, grown⟩ | ⟨_, left⟩
              · rw [grown]
                exact .all _ (by simp [installationEntries, Stage.writes])
              · refine left.mono fun entry bound => ?_
                split at bound
                · rfl
                · cases bound
            split <;> rename_i installed <;> rw [installed] at adds
            · exact adds
            · exact adds.trans (.one _ rfl)
  | database testMode =>
      simp only [perform]
      split
      · exact .refl _ _
      · rename_i config _
        have adds := world.connectDatabase_adds config.database testMode
        split <;> rename_i connected <;> rw [connected] at adds
        · exact adds
        · rw [publish_journal]
          exact adds
  | cache =>
      simp only [perform]
      split
      · exact .refl _ _
      · rename_i config _
        have adds := world.connectCache_adds config.cache
        split <;> rename_i connected <;> rw [connected] at adds
        · exact adds
        · rw [publish_journal]
          exact adds

theorem attempt_adds (world : World) (stage : Stage) :
    Journal.Adds stage.writes world.journal (world.attempt stage).2.journal := by
  unfold attempt
  split
  · cases stage with
    | configuration path => exact world.logOverrides_adds path _
    | logging | metrics | database | cache => exact .refl _ _
  · exact world.perform_adds stage

end World

end Bringup
