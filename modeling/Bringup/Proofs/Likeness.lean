import Bringup.Proofs.Openings
import Bringup.Proofs.Overriding

namespace Bringup

/-! Two processes that differ in the URL that is not used.

In test mode the database is reached by `database.test_url`, else by `database.url`. Two
processes whose configurations differ in the other URL only, and whose environments differ in
overrides only, are alike (`World.Alike`), and whatever the stages after logging do to one of
them they do to the other (`World.Alike.attempt`). -/

namespace Config

/-- The configurations differ at most in the URL that a mode does not use. -/
def AgreesIn (testMode : Bool) (first second : Config) : Prop :=
  second = { first with database :=
    if testMode then { first.database with url := second.database.url }
    else { first.database with testUrl := second.database.testUrl } }

structure ReadsAs (testMode : Bool) (first second : Config) : Prop where
  server : second.server = first.server
  cache : second.cache = first.cache
  observability : second.observability = first.observability
  url : second.database.urlIn testMode = first.database.urlIn testMode
  connections : second.database.maxConnections = first.database.maxConnections
  timeout : second.database.connectTimeoutSecs = first.database.connectTimeoutSecs

theorem AgreesIn.readsAs {testMode : Bool} {first second : Config}
    (agrees : first.AgreesIn testMode second) : first.ReadsAs testMode second := by
  rw [AgreesIn] at agrees
  rw [agrees]
  cases testMode <;> exact ⟨rfl, rfl, rfl, rfl, rfl, rfl⟩

end Config

/-- Environments that agree on all variables but overrides. -/
def Variable.AgreeApart (first second : List Variable) : Prop :=
  ∀ name, Override.path? name = none → valueIn? second name = valueIn? first name

namespace Database

variable {first second : List Variable}

theorem ofEnvironment_congr (agree : Variable.AgreeApart first second) :
    Address.ofEnvironment second = Address.ofEnvironment first := by
  simp only [Address.ofEnvironment, agree "PGHOSTADDR" (by decide), agree "PGHOST" (by decide),
    agree "PGPORT" (by decide), agree "PGUSER" (by decide), agree "PGDATABASE" (by decide),
    agree "PGSSLMODE" (by decide)]

theorem read_congr (agree : Variable.AgreeApart first second) :
    Address.read second = Address.read first := by
  funext url
  unfold Address.read
  rw [ofEnvironment_congr agree]

section

variable (agree : Variable.AgreeApart first second) {config other : Config} {testMode : Bool}
  (reads : config.ReadsAs testMode other)

include agree reads

theorem locate_congr :
    locate second other.database testMode = locate first config.database testMode := by
  rw [locate_eq, locate_eq, reads.url, read_congr agree]

theorem target_congr :
    target second other.database testMode = target first config.database testMode := by
  unfold target
  rw [locate_congr agree reads, reads.connections, reads.timeout]

theorem panic?_congr {clock otherClock : Nat}
    (clocks : clock + config.database.connectTimeoutSecs < clockLimit ↔
      otherClock + other.database.connectTimeoutSecs < clockLimit) :
    panic? otherClock second other.database testMode =
      panic? clock first config.database testMode := by
  unfold panic?
  simp only [locate_congr agree reads, clocks]

end

end Database

/-! ## Journals -/

def Entry.isLoading : Entry → Bool
  | .event (.overrideApplied _) | .event (.configurationLoaded _) => true
  | _ => false

namespace Journal

def withoutLoading (journal : Journal) : Journal := journal.filter fun entry => !entry.isLoading

theorem withoutLoading_append (first second : Journal) :
    withoutLoading (first ++ second) = first.withoutLoading ++ second.withoutLoading :=
  List.filter_append ..

theorem withoutLoading_cons (entry : Entry) (rest : Journal) :
    withoutLoading (entry :: rest) =
      if entry.isLoading then rest.withoutLoading else entry :: rest.withoutLoading := by
  rw [withoutLoading, List.filter_cons]
  cases entry.isLoading <;> rfl

/-- A view that does not see how the configuration was loaded. -/
theorem filterMap_withoutLoading (journal : Journal) {view : Entry → Option α}
    (unseen : ∀ entry, entry.isLoading = true → view entry = none) :
    journal.withoutLoading.filterMap view = journal.filterMap view := by
  induction journal with
  | nil => rfl
  | cons entry rest induction =>
      rw [withoutLoading_cons]
      split
      · rename_i loading
        rw [induction, List.filterMap_cons_none (unseen entry loading)]
      · rw [List.filterMap_cons, List.filterMap_cons, induction]

theorem exported?_withoutLoading (journal : Journal) :
    journal.withoutLoading.exported?.isSome = journal.exported?.isSome := by
  induction journal with
  | nil => rfl
  | cons entry rest induction =>
      rw [withoutLoading_cons]
      split
      · rename_i loading
        cases entry <;> first | cases loading | exact induction
      · cases entry <;> first | rfl | exact induction

theorem lines_append {early : Journal} (unlogged : early.hasLogger = false) (later : Journal) :
    lines (early ++ later) = lines later := by
  unfold lines
  induction early with
  | nil => rfl
  | cons entry rest induction =>
      cases entry <;> first
        | exact induction unlogged
        | exact absurd unlogged (by simp [hasLogger])

/-- The journals differ in what was loaded only, and that was before there was a logger. -/
def Alike (first second : Journal) : Prop :=
  ∃ early otherEarly later : Journal,
    first = early ++ later ∧ second = otherEarly ++ later ∧
      early.hasLogger = false ∧ otherEarly.hasLogger = false ∧
      otherEarly.withoutLoading = early.withoutLoading

variable {first second : Journal}

theorem Alike.append (alike : first.Alike second) (entries : Journal) :
    Alike (first ++ entries) (second ++ entries) := by
  rcases alike with ⟨early, otherEarly, later, rfl, rfl, unlogged, otherUnlogged, same⟩
  exact ⟨early, otherEarly, later ++ entries, List.append_assoc .., List.append_assoc ..,
    unlogged, otherUnlogged, same⟩

theorem Alike.withoutLoading (alike : first.Alike second) :
    second.withoutLoading = first.withoutLoading := by
  rcases alike with ⟨early, otherEarly, later, rfl, rfl, _, _, same⟩
  rw [withoutLoading_append, withoutLoading_append, same]

theorem Alike.lines (alike : first.Alike second) : second.lines = first.lines := by
  rcases alike with ⟨early, otherEarly, later, rfl, rfl, unlogged, otherUnlogged, _⟩
  rw [lines_append unlogged, lines_append otherUnlogged]

theorem Alike.filterMap (alike : first.Alike second) {view : Entry → Option α}
    (unseen : ∀ entry, entry.isLoading = true → view entry = none) :
    second.filterMap view = first.filterMap view := by
  rw [← filterMap_withoutLoading second unseen, alike.withoutLoading,
    filterMap_withoutLoading first unseen]

theorem Alike.sockets (alike : first.Alike second) : second.sockets = first.sockets :=
  alike.filterMap fun entry loading => by cases entry <;> first | rfl | cases loading

theorem Alike.exported (alike : first.Alike second) :
    second.exported?.isSome = first.exported?.isSome := by
  rw [← exported?_withoutLoading, alike.withoutLoading, exported?_withoutLoading]

end Journal

/-! ## Worlds -/

def Stage.later (testMode : Bool) : List Stage := [metrics, database testMode, cache]

/-- Two processes side by side: what is around each of them, and the configuration that each
has loaded. -/
structure Twins where
  testMode : Bool
  otherPath : String
  network : Network
  environment : List Variable
  otherEnvironment : List Variable
  config : Config
  otherConfig : Config
  agree : Variable.AgreeApart environment otherEnvironment
  reads : config.ReadsAs testMode otherConfig

def Together {α β : Type} (related : β → β → Prop) (first second : α × β) : Prop :=
  second.1 = first.1 ∧ related first.2 second.2

theorem Together.split {α β : Type} {related : β → β → Prop} {first second : α × β}
    (together : Together related first second) :
    ∃ result next otherNext, first = (result, next) ∧ second = (result, otherNext) ∧
      related next otherNext :=
  ⟨first.1, first.2, second.2, rfl, Prod.ext together.1 rfl, together.2⟩

namespace World

/-- The clock can count the time until which the database is waited for. -/
def Reckons (world : World) (config : Config) : Prop :=
  world.clock + config.database.connectTimeoutSecs < Database.clockLimit

/-- The worlds of two such processes, once both write their log. Their files do not count any
more. -/
structure Alike (twins : Twins) (first second : World) : Prop where
  network : first.network = twins.network ∧ second.network = twins.network
  environment : first.environment = twins.environment ∧
    second.environment = twins.otherEnvironment
  clocks : first.Reckons twins.config ↔ second.Reckons twins.otherConfig
  configured : first.context.config = some twins.config ∧
    second.context.config = some twins.otherConfig
  database : second.context.database = first.context.database
  cache : second.context.cache = first.context.cache
  began : ∀ name ∈ ["config", "logging"],
    (Milestone.step name).reached ∈ first.journal.attempts
  journal : first.journal.Alike second.journal

variable {twins : Twins} {first second : World}

theorem Alike.recordAll (alike : Alike twins first second) (entries : List Entry) :
    Alike twins (first.recordAll entries) (second.recordAll entries) where
  __ := alike
  began name member := by
    rw [recordAll_journal, Journal.attempts_append]
    exact List.mem_append_left _ (alike.began name member)
  journal := alike.journal.append entries

theorem Alike.record (alike : Alike twins first second) (entry : Entry) :
    Alike twins (first.record entry) (second.record entry) :=
  alike.recordAll [entry]

theorem Alike.log (alike : Alike twins first second) (event : Event) :
    Alike twins (first.log event) (second.log event) :=
  alike.record (.event event)

theorem Alike.isFilled (alike : Alike twins first second) (slot : Slot) :
    second.context.isFilled slot = first.context.isFilled slot := by
  cases slot with
  | config => simp [Context.isFilled, alike.configured.1, alike.configured.2]
  | database => exact congrArg Option.isSome alike.database
  | cache => exact congrArg Option.isSome alike.cache

theorem Alike.bind (alike : Alike twins first second) (listener : Listener)
    (address : SocketAddress) : second.bind listener address = first.bind listener address := by
  have occupied : second.isOccupied address = first.isOccupied address := by
    rw [World.isOccupied, World.isOccupied, alike.network.1, alike.network.2,
      alike.journal.sockets]
  rw [World.bind, World.bind, alike.network.1, alike.network.2, occupied]

theorem Alike.listenerAt? (alike : Alike twins first second) (target : SocketAddress) :
    second.listenerAt? target = first.listenerAt? target := by
  rw [World.listenerAt?, World.listenerAt?, alike.network.1, alike.network.2,
    alike.journal.sockets]

theorem Alike.installExporter (alike : Alike twins first second) (address : SocketAddress) :
    Together (Alike twins) (first.installExporter address) (second.installExporter address) := by
  simp only [World.installExporter, alike.bind, alike.journal.exported]
  split
  · exact ⟨rfl, alike⟩
  · split
    · exact ⟨rfl, alike.record _⟩
    · exact ⟨rfl, alike.recordAll _⟩

theorem Alike.connectDatabase (alike : Alike twins first second) :
    Together (Alike twins) (first.connectDatabase twins.config.database twins.testMode)
      (second.connectDatabase twins.otherConfig.database twins.testMode) := by
  simp only [World.connectDatabase, alike.network.1, alike.network.2, alike.environment.1,
    alike.environment.2, Database.target_congr twins.agree twins.reads, twins.reads.connections]
  split
  · exact ⟨rfl, alike⟩
  · rename_i address _
    have sought := (alike.record (.sought (.database address))).recordAll
      ((Database.logIn twins.network address).2.map .login)
    split
    · exact ⟨rfl, sought⟩
    · exact ⟨rfl, sought.log _⟩

theorem Alike.connectCache (alike : Alike twins first second) :
    Together (Alike twins) (first.connectCache twins.config.cache)
      (second.connectCache twins.otherConfig.cache) := by
  simp only [World.connectCache, alike.network.1, alike.network.2, twins.reads.cache]
  split
  · exact ⟨rfl, alike⟩
  · rename_i address _
    have sought := (alike.record (.sought (.cache address))).recordAll
      ((Cache.greet twins.network twins.config.cache.connectTimeoutSecs address).2.map .command)
    split
    · exact ⟨rfl, sought⟩
    · exact ⟨rfl, sought.log _⟩

theorem Alike.setDatabase (alike : Alike twins first second) (database : Database) :
    Together (Alike twins) (first.publish (first.context.setDatabase database))
      (second.publish (second.context.setDatabase database)) := by
  simp only [Context.setDatabase, alike.isFilled]
  split
  · exact ⟨rfl, alike⟩
  · exact ⟨rfl, { alike with database := rfl }⟩

theorem Alike.setCache (alike : Alike twins first second) (cache : Cache) :
    Together (Alike twins) (first.publish (first.context.setCache cache))
      (second.publish (second.context.setCache cache)) := by
  simp only [Context.setCache, alike.isFilled]
  split
  · exact ⟨rfl, alike⟩
  · exact ⟨rfl, { alike with cache := rfl }⟩

theorem Alike.getConfig (alike : Alike twins first second) :
    first.context.getConfig = .ok twins.config ∧
      second.context.getConfig = .ok twins.otherConfig := by
  rw [Context.getConfig, Context.getConfig, alike.configured.1, alike.configured.2]
  exact ⟨rfl, rfl⟩

theorem Alike.perform (alike : Alike twins first second) {stage : Stage}
    (later : stage ∈ Stage.later twins.testMode) :
    Together (Alike twins) (first.perform stage) (second.perform stage) := by
  simp only [Stage.later, List.mem_cons, List.not_mem_nil, or_false] at later
  rcases later with rfl | rfl | rfl
  · simp only [World.perform, alike.getConfig, twins.reads.observability]
    split
    · exact ⟨rfl, alike⟩
    · split
      · exact ⟨rfl, alike⟩
      · rename_i address _
        rcases (alike.installExporter address).split with
          ⟨result, next, otherNext, found, otherFound, after⟩
        rw [found, otherFound]
        cases result with
        | error cause => exact ⟨rfl, after⟩
        | ok done => exact ⟨rfl, after.log _⟩
  · simp only [World.perform, alike.getConfig]
    rcases alike.connectDatabase.split with ⟨result, next, otherNext, found, otherFound, after⟩
    rw [found, otherFound]
    cases result with
    | error fault => exact ⟨rfl, after⟩
    | ok database => exact after.setDatabase database
  · simp only [World.perform, alike.getConfig]
    rcases alike.connectCache.split with ⟨result, next, otherNext, found, otherFound, after⟩
    rw [found, otherFound]
    cases result with
    | error fault => exact ⟨rfl, after⟩
    | ok cache => exact after.setCache cache

theorem Alike.panic? (alike : Alike twins first second) {stage : Stage}
    (later : stage ∈ Stage.later twins.testMode) : second.panic? stage = first.panic? stage := by
  simp only [Stage.later, List.mem_cons, List.not_mem_nil, or_false] at later
  rcases later with rfl | rfl | rfl
  · rfl
  · simp only [World.panic?, alike.configured.1, alike.configured.2, alike.environment.1,
      alike.environment.2, Option.bind_eq_bind, Option.bind_some]
    exact Database.panic?_congr twins.agree twins.reads alike.clocks
  · rfl

theorem Alike.abandon (alike : Alike twins first second) {stage : Stage}
    (later : stage ∈ Stage.later twins.testMode) :
    Alike twins (first.abandon stage) (second.abandon stage) := by
  simp only [Stage.later, List.mem_cons, List.not_mem_nil, or_false] at later
  rcases later with rfl | rfl | rfl <;> exact alike

theorem Alike.attempt (alike : Alike twins first second) {stage : Stage}
    (later : stage ∈ Stage.later twins.testMode) :
    Together (Alike twins) (first.attempt stage) (second.attempt stage) := by
  unfold World.attempt
  rw [alike.panic? later]
  split
  · exact ⟨rfl, alike.abandon later⟩
  · have performed := alike.perform later
    exact ⟨congrArg Outcome.of performed.1, performed.2⟩

end World

end Bringup
