import Bringup.Proofs.Entries
import Bringup.Proofs.Stages
import Bringup.Program.Serving
import Mathlib.Data.List.Induction

namespace Bringup

/-! The milestones of a run of the service.

A journal tells which milestones were attempted, how each attempt went, and what was done on
the way to which of them. In a journal that is in turn, nothing is done on the way to a
milestone before all earlier ones have been reached, and servers are sought and told what the
configuration says and nothing else (`Journal.InTurn`). -/

/-- What a run of the service comes to, one after the other: the steps, and then listening and
serving. -/
inductive Milestone where
  | step (name : String)
  | listening
  | serving
deriving DecidableEq, Repr

inductive Setback where
  | failed (reason : String)
  | panicked (message : String)
deriving DecidableEq, Repr

structure Attempt where
  milestone : Milestone
  setback : Option Setback
deriving DecidableEq, Repr

namespace Milestone

def plan : List Milestone :=
  ["config", "logging", "metrics", "database", "cache"].map step ++ [listening, serving]

def reached (milestone : Milestone) : Attempt := ⟨milestone, none⟩

def earlier (milestone : Milestone) : List Attempt :=
  (plan.takeWhile (· ≠ milestone)).map reached

def stopped (milestone : Milestone) (setback : Setback) : List Attempt :=
  milestone.earlier ++ [⟨milestone, some setback⟩]

example : (step "metrics").earlier = [⟨step "config", none⟩, ⟨step "logging", none⟩] := by
  decide

end Milestone

namespace Stage

def milestone (stage : Stage) : Milestone := .step stage.name

def reached (stage : Stage) : Attempt := stage.milestone.reached

end Stage

def Serving.Options.stages (options : Options) : List Stage :=
  Stage.immediate options.configPath ++ Stage.deferred options.testMode

def Outcome.setback? : Outcome → Option Setback
  | succeeded => none
  | failed cause => some (.failed cause.message)
  | panicked message => some (.panicked message)

namespace Entry

def attempt? : Entry → Option Attempt
  | .call ended => some ⟨.step ended.step, ended.outcome.setback?⟩
  | .event (.listening _) => some ⟨.listening, none⟩
  | .event (.serverFailed reason) => some ⟨.listening, some (.failed reason)⟩
  | .serverEvent .serverStopped => some ⟨.serving, none⟩
  | _ => none

def milestone? : Entry → Option Milestone
  | .event (.stepRunning name) => some (.step name)
  | .call ended => some (.step ended.step)
  | .event (.overrideApplied _) | .event (.configurationLoaded _) => some (.step "config")
  | .loggerInstalled _ | .event .serviceStarting => some (.step "logging")
  | .bound .exporter _ | .exporterInstalled _ | .event (.exporterListening _)
  | .event (.metricsStarted _) => some (.step "metrics")
  | .sought (.database _) | .login _ | .event (.databaseReady _ _) => some (.step "database")
  | .sought (.cache _) | .command _ | .event .cacheReady => some (.step "cache")
  | .bound .server _ | .event (.listening _) | .event (.serverFailed _) => some .listening
  | .serverEvent _ => some .serving
  | _ => none

end Entry

namespace Journal

def attempts (journal : Journal) : List Attempt := journal.filterMap Entry.attempt?

theorem attempts_singleton (entry : Entry) : attempts [entry] = entry.attempt?.toList := by
  cases concluded : entry.attempt? <;> simp [attempts, concluded]

@[simp] theorem attempts_append (first second : Journal) :
    attempts (first ++ second) = first.attempts ++ second.attempts :=
  List.filterMap_append

@[simp] theorem commands_append (first second : Journal) :
    commands (first ++ second) = first.commands ++ second.commands :=
  List.filterMap_append

@[simp] theorem commands_map (told : List Cache.Command) :
    commands (told.map .command) = told := by
  induction told with
  | nil => rfl
  | cons command rest induction => exact congrArg (command :: ·) induction

end Journal

/-! ## What servers are to hear -/

def DatabaseConfig.urlIn (config : DatabaseConfig) (testMode : Bool) : Option String :=
  if testMode then config.testUrl else some config.url

namespace Database

theorem locate_eq (environment : List Variable) (config : DatabaseConfig) (testMode : Bool) :
    locate environment config testMode =
      match config.urlIn testMode with
      | some url => Address.read environment url
      | none => .error .missingTestUrl := by
  cases testMode with
  | false => rfl
  | true =>
      unfold locate url DatabaseConfig.urlIn
      cases config.testUrl <;> rfl

theorem locate_of_target {environment : List Variable} {config : DatabaseConfig}
    {testMode : Bool} {address : Address}
    (found : target environment config testMode = .ok address) :
    locate environment config testMode = .ok address := by
  unfold target at found
  split at found
  · cases found
  · split at found
    · cases found
    · rename_i located _
      cases found
      exact located

end Database

namespace World

def Loads (start : World) (options : Serving.Options) (config : Config) : Prop :=
  Config.loadFile start.files options.configPath start.environment = .ok config

def Seeks (start : World) (options : Serving.Options) : Contact → Prop
  | .database address => ∃ config url, start.Loads options config ∧
      config.database.urlIn options.testMode = some url ∧
      Database.Address.read start.environment url = .ok address
  | .cache address => ∃ config, start.Loads options config ∧
      Cache.Address.read? config.cache.url = some address

end World

namespace Network

/-- The database stands where an address leads and lets in who comes. -/
structure LetsIn (network : Network) (address : Database.Address) : Prop where
  up : network.isUp = true
  remote : address.usesSocket = false
  plain : address.isEncrypted = false
  stands : ∃ place, network.database = some (place, .accepting) ∧
    leadsTo address.host address.port place = true

structure Greets (network : Network) (address : Cache.Address) : Prop where
  up : network.isUp = true
  stands : ∃ place, network.cache = some (place, .replying Cache.pong) ∧
    leadsTo address.host address.port place = true

end Network

namespace World

variable (start : World) (options : Serving.Options) (journal : Journal)

/-- The service has logged in at the database that it is to connect to. -/
def IsLetIn : Prop :=
  ∃ address, start.Seeks options (.database address) ∧ start.network.LetsIn address ∧
    .sought (.database address) ∈ journal ∧ .login address.login ∈ journal

/-- The service has pinged the cache that it is to connect to. -/
def IsGreeted : Prop :=
  ∃ address, start.Seeks options (.cache address) ∧ start.network.Greets address ∧
    .sought (.cache address) ∈ journal ∧ address.setup ++ [Cache.ping] <:+: journal.commands

variable {start options journal}

theorem IsLetIn.append (letIn : start.IsLetIn options journal) (entries : Journal) :
    start.IsLetIn options (journal ++ entries) := by
  rcases letIn with ⟨address, seeks, lets, sought, login⟩
  exact ⟨address, seeks, lets, List.mem_append_left _ sought, List.mem_append_left _ login⟩

theorem IsGreeted.append (greeted : start.IsGreeted options journal) (entries : Journal) :
    start.IsGreeted options (journal ++ entries) := by
  rcases greeted with ⟨address, seeks, greets, sought, commands⟩
  refine ⟨address, seeks, greets, List.mem_append_left _ sought, ?_⟩
  rw [Journal.commands_append]
  exact commands.trans (List.prefix_append _ _).isInfix

end World

/-- What the action of a step panics with: it goes through an environment that is not all text,
or it reckons a time that its clock cannot count. -/
def World.Panics (start : World) (options : Serving.Options) (name message : String) : Prop :=
  (name = "config" ∧ ∃ foreign, start.foreign = some foreign ∧ message = foreign.message) ∨
    (name = "database" ∧ message = Database.overflowMessage ∧
      ∃ config, start.Loads options config ∧
        Database.clockLimit ≤ start.clock + config.database.connectTimeoutSecs)

/-- Where the configuration names no database, the call of that step says so, and a call panics
only as `World.Panics` says. -/
structure Call.Fits (start : World) (options : Serving.Options) (made : Call) : Prop where
  unnamed : made.step = "database" → ∀ config, start.Loads options config →
    config.database.urlIn options.testMode = none →
      made.outcome = .failed (.database .missingTestUrl)
  panics : ∀ message, made.outcome = .panicked message →
    start.Panics options made.step message

/-- Servers are sought that the configuration names, and they hear what its URLs say. -/
def Entry.Fits (start : World) (options : Serving.Options) : Entry → Prop
  | .sought contact => start.Seeks options contact
  | .login seen => ∃ address place server, start.Seeks options (.database address) ∧
      seen = address.login ∧ start.network.database = some (place, server) ∧
      Network.leadsTo address.host address.port place = true
  | .command heard => ∃ address place server, start.Seeks options (.cache address) ∧
      heard ∈ address.setup ++ [Cache.ping] ∧ start.network.cache = some (place, server) ∧
      Network.leadsTo address.host address.port place = true
  | .call made => made.Fits start options
  | _ => True

/-! ## Entries in turn -/

/-- An entry can be written after what has been written before. -/
structure Entry.IsDue (start : World) (options : Serving.Options) (before : Journal)
    (entry : Entry) : Prop where
  turn : ∀ milestone, entry.milestone? = some milestone → before.attempts = milestone.earlier
  fits : entry.Fits start options
  letIn : entry.attempt? = some (Milestone.step "database").reached →
    start.IsLetIn options before
  greeted : entry.attempt? = some (Milestone.step "cache").reached →
    start.IsGreeted options before

namespace Entry

theorem attempt?_of_aimless {entry : Entry} (aimless : entry.milestone? = none) :
    entry.attempt? = none := by
  cases entry with
  | event logged => cases logged <;> first | rfl | cases aimless
  | serverEvent | call => cases aimless
  | gauge | sample | loggerInstalled | bound | exporterInstalled | sought | login | command =>
      rfl

variable {start : World} {options : Serving.Options} {before : Journal} {entry : Entry}

theorem fits_of_aimless (aimless : entry.milestone? = none) : entry.Fits start options := by
  cases entry with
  | sought contact => cases contact <;> cases aimless
  | login | command | call => cases aimless
  | gauge | sample | event | serverEvent | loggerInstalled | bound | exporterInstalled =>
      trivial

theorem IsDue.of_aimless (aimless : entry.milestone? = none) :
    entry.IsDue start options before where
  turn milestone aims := by
    rw [aimless] at aims
    cases aims
  fits := fits_of_aimless aimless
  letIn concluded := by
    rw [attempt?_of_aimless aimless] at concluded
    cases concluded
  greeted concluded := by
    rw [attempt?_of_aimless aimless] at concluded
    cases concluded

theorem exists_call {name : String} {setback : Option Setback}
    (concludes : entry.attempt? = some ⟨.step name, setback⟩) :
    ∃ made, entry = .call made ∧ made.step = name ∧ made.outcome.setback? = setback := by
  cases entry with
  | call made =>
      cases concludes
      exact ⟨made, rfl, rfl, rfl⟩
  | event logged => cases logged <;> cases concludes
  | serverEvent logged => cases logged <;> cases concludes
  | gauge | sample | loggerInstalled | bound | exporterInstalled | sought | login | command =>
      cases concludes

theorem IsDue.of_turn {milestone : Milestone} (aims : entry.milestone? = some milestone)
    (turn : before.attempts = milestone.earlier) (fits : entry.Fits start options)
    (other : ∀ made, entry ≠ .call made) : entry.IsDue start options before where
  turn another same := by
    rw [aims] at same
    cases same
    exact turn
  fits
  letIn concluded := by
    rcases exists_call concluded with ⟨made, same, _⟩
    exact absurd same (other made)
  greeted concluded := by
    rcases exists_call concluded with ⟨made, same, _⟩
    exact absurd same (other made)

end Entry

namespace Journal

def InTurn (start : World) (options : Serving.Options) (journal : Journal) : Prop :=
  ∀ before entry after, journal = before ++ entry :: after → entry.IsDue start options before

variable {start : World} {options : Serving.Options} {journal : Journal}

theorem InTurn.nil : InTurn start options [] := by
  intro before entry after split
  exact absurd split.symm (by simp)

theorem InTurn.snoc (inTurn : journal.InTurn start options) {entry : Entry}
    (due : entry.IsDue start options journal) : InTurn start options (journal ++ [entry]) := by
  intro before other after split
  rcases split_of_snoc split with ⟨rfl, rfl⟩ | ⟨rest, earlier⟩
  · exact due
  · exact inTurn before other rest earlier

theorem InTurn.toward (inTurn : journal.InTurn start options) {milestone : Milestone}
    (turn : journal.attempts = milestone.earlier) (entry : Entry)
    (aims : entry.milestone? = some milestone) (fits : entry.Fits start options)
    (other : ∀ made, entry ≠ .call made) :
    InTurn start options (journal ++ [entry]) ∧
      attempts (journal ++ [entry]) = milestone.earlier ++ entry.attempt?.toList := by
  refine ⟨inTurn.snoc (.of_turn aims turn fits other), ?_⟩
  rw [attempts_append, turn, attempts_singleton]

theorem attempts_of_silent {entries : Journal}
    (silent : ∀ entry ∈ entries, entry.attempt? = none) : entries.attempts = [] :=
  List.filterMap_eq_nil_iff.mpr silent

/-- Entries that conclude nothing and are due at first remain due while they are written. -/
theorem InTurn.append (inTurn : journal.InTurn start options) {entries : Journal}
    (silent : ∀ entry ∈ entries, entry.attempt? = none)
    (due : ∀ entry ∈ entries, ∀ written, attempts written = [] →
      entry.IsDue start options (journal ++ written)) :
    InTurn start options (journal ++ entries) := by
  -- From the back: the last entry is due once all others have been written.
  induction entries using List.reverseRecOn with
  | nil => simpa using inTurn
  | append_singleton written entry induction =>
      have before : ∀ other ∈ written, other ∈ written ++ [entry] :=
        fun other => List.mem_append_left _
      have begun := induction (fun other member => silent other (before other member))
        fun other member => due other (before other member)
      rw [← List.append_assoc]
      apply begun.snoc
      apply due entry (by simp)
      exact attempts_of_silent fun other member => silent other (before other member)

/-- What leads to no milestone can be written at any time. -/
theorem InTurn.aside (inTurn : journal.InTurn start options) {entry : Entry}
    (aimless : entry.milestone? = none) :
    InTurn start options (journal ++ [entry]) ∧
      attempts (journal ++ [entry]) = journal.attempts := by
  have silent : attempts [entry] = [] :=
    attempts_of_silent (by simpa using Entry.attempt?_of_aimless aimless)
  refine ⟨inTurn.snoc (.of_aimless aimless), ?_⟩
  rw [attempts_append, silent, List.append_nil]

theorem InTurn.before (inTurn : journal.InTurn start options) {before : Journal}
    (beginning : before <+: journal) : before.InTurn start options := by
  rcases beginning with ⟨rest, rfl⟩
  intro earlier entry after split
  exact inTurn earlier entry (after ++ rest) (by simp [split])

theorem InTurn.concluded (inTurn : journal.InTurn start options) {attempt : Attempt}
    (made : attempt ∈ journal.attempts) :
    ∃ before entry after, journal = before ++ entry :: after ∧ entry.attempt? = some attempt ∧
      entry.IsDue start options before := by
  rcases List.mem_filterMap.mp made with ⟨entry, member, concludes⟩
  rcases List.append_of_mem member with ⟨before, after, split⟩
  exact ⟨before, entry, after, split, concludes, inTurn before entry after split⟩

theorem InTurn.letIn (inTurn : journal.InTurn start options)
    (reached : (Milestone.step "database").reached ∈ journal.attempts) :
    start.IsLetIn options journal := by
  rcases inTurn.concluded reached with ⟨before, entry, after, rfl, concludes, due⟩
  exact (due.letIn concludes).append _

theorem InTurn.greeted (inTurn : journal.InTurn start options)
    (reached : (Milestone.step "cache").reached ∈ journal.attempts) :
    start.IsGreeted options journal := by
  rcases inTurn.concluded reached with ⟨before, entry, after, rfl, concludes, due⟩
  exact (due.greeted concludes).append _

end Journal

/-! ## What the stages contribute -/

theorem Stage.milestone_of_writes {stage : Stage} {entry : Entry}
    (writes : stage.writes entry = true) :
    entry.attempt? = none ∧
      (entry.milestone? = none ∨ entry.milestone? = some stage.milestone) := by
  unfold Stage.writes at writes
  split at writes <;> first
    | exact absurd writes Bool.false_ne_true
    | exact ⟨rfl, by simp [Entry.milestone?, milestone, name]⟩

namespace World

def around (world : World) : World := { world with context := {}, journal := [] }

structure Underway (world start : World) (options : Serving.Options) : Prop where
  around : world.around = start
  loaded : ∀ config, world.context.config = some config → start.Loads options config

namespace Underway

variable {start world : World} {options : Serving.Options}

theorem network (underway : world.Underway start options) : world.network = start.network := by
  rw [← underway.around, World.around]

theorem environment (underway : world.Underway start options) :
    world.environment = start.environment := by
  rw [← underway.around, World.around]

theorem files (underway : world.Underway start options) : world.files = start.files := by
  rw [← underway.around, World.around]

theorem clock (underway : world.Underway start options) : world.clock = start.clock := by
  rw [← underway.around, World.around]

theorem foreign (underway : world.Underway start options) : world.foreign = start.foreign := by
  rw [← underway.around, World.around]

end Underway

end World

end Bringup
