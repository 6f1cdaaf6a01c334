import Bringup.Metrics
import Bringup.Proofs.Reachable

namespace Bringup

/-! The gauge as a scraper reads it.

What was set before the exporter was installed is lost, and the installation sets the gauge
to 0. As a stage is only run while a step is pending, that is what the flag says, and from
then on the two change together. An exporter that is installed otherwise can come upon a
flag that is set, and then the gauge is wrong until it is next set (`Journal.isStale`). -/

namespace Journal

def beforeExport : Journal → Journal
  | [] => []
  | .exporterInstalled _ :: _ => []
  | entry :: rest => entry :: beforeExport rest

/-- Whether the gauge stood at 1 when the exporter was installed, and has not been set since
but by the installation. -/
def isStale (journal : Journal) : Bool :=
  match journal.exported? with
  | none => false
  | some (_, since) => journal.beforeExport.gauge? == some true && since.gauges == [false]

theorem exported?_append (first second : Journal) :
    exported? (first ++ second) =
      match first.exported? with
      | some (address, since) => some (address, since ++ second)
      | none => second.exported? := by
  induction first with
  | nil => rfl
  | cons entry rest induction => cases entry <;> first | rfl | exact induction

theorem beforeExport_append (first second : Journal) :
    beforeExport (first ++ second) =
      match first.exported? with
      | some _ => first.beforeExport
      | none => first ++ second.beforeExport := by
  induction first with
  | nil => rfl
  | cons entry rest induction =>
      cases entry with
      | exporterInstalled address => rfl
      | gauge | sample | event | serverEvent | call | loggerInstalled | bound | sought | login
      | command =>
          simp only [List.cons_append, beforeExport, exported?, induction]
          split <;> rfl

theorem exported?_of_aside {entries : Journal}
    (aside : ∀ entry ∈ entries, entry.isAside = true) : entries.exported? = none := by
  induction entries with
  | nil => rfl
  | cons entry rest induction =>
      have later := induction fun other member => aside other (.tail _ member)
      have first := aside entry (.head _)
      cases entry <;> first | exact later | cases first

theorem gauges_of_aside {entries : Journal}
    (aside : ∀ entry ∈ entries, entry.isAside = true) : entries.gauges = [] := by
  refine List.filterMap_eq_nil_iff.mpr fun entry member => ?_
  have first := aside entry member
  cases entry <;> first | rfl | cases first

theorem samples_of_aside {entries : Journal}
    (aside : ∀ entry ∈ entries, entry.isAside = true) : entries.samples = [] := by
  refine List.filterMap_eq_nil_iff.mpr fun entry member => ?_
  have first := aside entry member
  cases entry <;> first | rfl | cases first

theorem gauge?_append (first second : Journal) :
    gauge? (first ++ second) = second.gauge?.or first.gauge? := by
  rw [gauge?, gauges_append, List.getLast?_append]
  rfl

/-- The last value of the gauge, had it been there all the time: what the installation set is
left aside. -/
def intended (journal : Journal) : Bool :=
  match journal.exported? with
  | none => journal.gauge?.getD false
  | some (_, since) =>
      since.gauges.tail.getLast?.getD (journal.beforeExport.gauge?.getD false)

/-- The gauge was set as the flag was, and by the installation besides, which came upon a
flag that was set only if that is allowed. -/
structure Mirrors (direct : Prop) (journal : Journal) (ready : Bool) : Prop where
  intended : journal.intended = ready
  reset : ∀ {address since}, journal.exported? = some (address, since) →
    since.gauges.head? = some false
  allowed : journal.exported?.isSome = true → journal.beforeExport.gauge? = some true → direct

namespace Mirrors

variable {direct : Prop} {journal : Journal} {ready : Bool}

theorem append (mirrors : journal.Mirrors direct ready) {entries : Journal}
    (keeps : entries.exported? = none) :
    Mirrors direct (journal ++ entries) (entries.gauge?.getD ready) := by
  rcases mirrors with ⟨rfl, reset, allowed⟩
  cases exported : journal.exported? with
  | none =>
      refine ⟨?_, ?_, ?_⟩
      · simp only [Journal.intended, exported?_append, exported, keeps, gauge?_append]
        exact Option.getD_or
      · simp [exported?_append, exported, keeps]
      · simp [exported?_append, exported, keeps]
  | some recording =>
      rcases recording with ⟨address, since⟩
      rcases List.head?_eq_some_iff.mp (reset exported) with ⟨later, settings⟩
      refine ⟨?_, ?_, ?_⟩
      · simp only [Journal.intended, exported?_append, beforeExport_append, exported,
          gauges_append, settings, List.cons_append, List.tail_cons, List.getLast?_append]
        exact Option.getD_or
      · intro other grown installed
        simp only [exported?_append, exported, Option.some.injEq, Prod.mk.injEq] at installed
        rw [← installed.2, gauges_append, settings]
        rfl
      · intro _ standing
        rw [beforeExport_append, exported] at standing
        exact allowed (by rw [exported]; rfl) standing

theorem install (mirrors : journal.Mirrors direct ready) (first : journal.exported? = none)
    (allowed : ready = true → direct) (address chosen : SocketAddress) :
    Mirrors direct (journal ++ World.installationEntries address chosen) ready := by
  have before : beforeExport (journal ++ World.installationEntries address chosen) =
      journal ++ [.bound .exporter chosen] := by
    rw [beforeExport_append, first]
    rfl
  have installed : exported? (journal ++ World.installationEntries address chosen) =
      some (chosen, [.gauge false, .event (.exporterListening address.write)]) := by
    rw [exported?_append, first]
    rfl
  have same : gauge? (journal ++ [.bound .exporter chosen]) = journal.gauge? := by
    rw [gauge?_append]
    rfl
  have intended : journal.gauge?.getD false = ready := by
    rw [← mirrors.intended, Journal.intended, first]
  refine ⟨?_, ?_, ?_⟩
  · simp only [Journal.intended, installed, before, same]
    exact intended
  · intro other since found
    rw [installed] at found
    cases found
    rfl
  · intro _ standing
    rw [before, same] at standing
    rw [standing] at intended
    exact allowed intended.symm

theorem shown (mirrors : journal.Mirrors direct ready) {address : SocketAddress}
    {since : Journal} (exported : journal.exported? = some (address, since)) :
    since.gauge? = some (ready && !journal.isStale) := by
  rcases List.head?_eq_some_iff.mp (mirrors.reset exported) with ⟨later, settings⟩
  have intended := mirrors.intended
  simp only [Journal.intended, exported, settings, List.tail_cons] at intended
  simp only [gauge?, isStale, exported, settings]
  -- Either the installation was the last to set the gauge, or someone has set it since.
  cases later with
  | nil => cases standing : journal.beforeExport.gauges.getLast? <;> simp_all [gauge?]
  | cons next rest =>
      rw [List.getLast?_cons_cons, List.getLast?_cons] at *
      simp only [Option.getD_some] at intended
      simp [← intended]

/-- A gauge is wrong only below a flag that is set. -/
theorem ready_of_stale (mirrors : journal.Mirrors direct ready)
    (stale : journal.isStale = true) : ready = true ∧ direct := by
  cases exported : journal.exported? with
  | none => simp [isStale, exported] at stale
  | some recording =>
      simp only [isStale, exported, Bool.and_eq_true, beq_iff_eq] at stale
      have intended := mirrors.intended
      simp only [Journal.intended, exported, stale] at intended
      exact ⟨intended.symm, mirrors.allowed (by rw [exported]; rfl) stale.1⟩

end Mirrors

end Journal

/-! ## What is scraped -/

namespace Metrics

def gaugeLine (isReady : Bool) : String := gaugeName ++ " " ++ if isReady then "1" else "0"

theorem metric_of_mem_measures {journal : Journal} {measure : Measure}
    (member : measure ∈ measures journal) :
    measure.metric = counterName ∨ measure.metric = timerName := by
  rcases List.mem_flatMap.mp member with ⟨step, _, measured⟩
  rcases List.mem_cons.mp measured with rfl | counted
  · exact .inr rfl
  · rcases List.mem_filterMap.mp counted with ⟨success, _, found⟩
    simp only at found
    split at found
    · cases found
    · cases found
      exact .inl rfl

theorem line_ne_gaugeLine {journal : Journal} {measure : Measure}
    (member : measure ∈ measures journal) (isReady : Bool) :
    measure.line ≠ gaugeLine isReady := by
  intro same
  have begun := congrArg (fun line => line.toList.take 11) same
  rcases metric_of_mem_measures member with counter | timer
  · simp [Measure.line, counter, gaugeLine, counterName, timerName, gaugeName] at begun
  · simp [Measure.line, timer, gaugeLine, timerName, gaugeName] at begun

theorem gaugeLine_injective {first second : Bool} (same : gaugeLine first = gaugeLine second) :
    first = second := by
  revert same
  cases first <;> cases second <;> decide

theorem gaugeLine_mem_scrape {journal since : Journal} {exporter scraped : SocketAddress}
    (exported : journal.exported? = some (exporter, since))
    (covers : exporter.covers scraped = true) (isReady : Bool) :
    gaugeLine isReady ∈ scrape journal scraped ↔ since.gauge? = some isReady := by
  have others : gaugeLine isReady ∉ (measures since).map Measure.line := by
    intro member
    rcases List.mem_map.mp member with ⟨measure, measured, same⟩
    exact line_ne_gaugeLine measured isReady same
  simp only [scrape, exported, covers, Bool.not_true, Bool.false_eq_true, if_false,
    List.mem_mergeSort, List.mem_append, others, or_false]
  cases shown : since.gauge? with
  | none => simp
  | some value =>
      rw [List.mem_singleton, Option.some.injEq]
      exact ⟨fun same => (gaugeLine_injective same).symm, fun same => by rw [same]; rfl⟩

theorem measures_congr {first second : Journal} (same : first.samples = second.samples) :
    measures first = measures second := by
  unfold measures outcomes Journal.measuredSteps Journal.timings Journal.count
  rw [same]

/-- What is noted aside is not measured. -/
theorem scrape_of_adds {first second : Journal} (noted : Journal.Adds Entry.isAside first second)
    (address : SocketAddress) : scrape second address = scrape first address := by
  rcases noted with ⟨entries, rfl, aside⟩
  have keeps := Journal.exported?_of_aside aside
  have unset : Journal.gauges entries = [] := Journal.gauges_of_aside aside
  have uncounted : Journal.samples entries = [] := Journal.samples_of_aside aside
  cases exported : first.exported? with
  | none => simp [scrape, Journal.exported?_append, exported, keeps]
  | some recording =>
      rcases recording with ⟨exporter, since⟩
      have measured : measures (since ++ entries) = measures since :=
        measures_congr (by rw [Journal.samples_append, uncounted, List.append_nil])
      have shown : Journal.gauge? (since ++ entries) = since.gauge? := by
        rw [Journal.gauge?, Journal.gauges_append, unset, List.append_nil, Journal.gauge?]
      simp only [scrape, Journal.exported?_append, exported, measured, shown]

end Metrics

/-! ## Moves -/

namespace Service

variable {direct : Prop}

/-- The gauge mirrors the flag, or would but for the installation of its exporter. -/
def Mirrors (direct : Prop) (service : Service) : Prop :=
  service.world.journal.Mirrors direct service.manager.ready

theorem Mirrors.extend {service next : Service} (mirrors : service.Mirrors direct)
    {entries : Journal} (grown : next.world.journal = service.world.journal ++ entries)
    (keeps : entries.exported? = none)
    (follows : next.manager.ready = entries.gauge?.getD service.manager.ready) :
    next.Mirrors direct := by
  unfold Mirrors
  rw [grown, follows]
  exact Journal.Mirrors.append mirrors keeps

theorem Mirrors.notes {service : Service} (mirrors : service.Mirrors direct) {world : World}
    (noted : Journal.Adds Entry.isAside service.world.journal world.journal) :
    ({ service with world } : Service).Mirrors direct := by
  rcases noted with ⟨entries, grown, aside⟩
  refine mirrors.extend grown (Journal.exported?_of_aside aside) ?_
  rw [Journal.gauge?, Journal.gauges_of_aside aside]
  rfl

theorem Mirrors.pushes {service next : Service} (mirrors : service.Mirrors direct)
    {name : String} {action : Action} (pushed : service.push name action = .ok next) :
    next.Mirrors direct :=
  mirrors.extend (push_journal pushed) rfl (push_ready pushed)

theorem Mirrors.registers {service : Service} (mirrors : service.Mirrors direct) (name : String)
    (action : Action) : (service.register name action).2.Mirrors direct := by
  unfold register
  split
  · exact mirrors.extend (log_journal ..) rfl rfl
  · rename_i next pushed
    exact (mirrors.pushes pushed).extend (log_journal ..) rfl rfl

/-- The deeds of an action leave a flag alone that is not set. -/
theorem Mirrors.deeds {service next : Service} (mirrors : service.Mirrors direct)
    (unready : service.manager.ready = false) (deeds : Deeds service next) :
    next.Mirrors direct ∧ next.manager.ready = false := by
  induction deeds with
  | refl => exact ⟨mirrors, unready⟩
  | @tail middle next earlier deed induction =>
      rcases induction with ⟨mirrors, unready⟩
      cases deed with
      | registers name action =>
          refine ⟨mirrors.registers name action, ?_⟩
          rw [register_manager]
          exact Manager.enlist_unready unready name action
      | attempts stage =>
          refine ⟨?_, unready⟩
          rcases middle.world.attempt_notes stage with noted | ⟨first, address, chosen, noted⟩
          · exact mirrors.notes noted
          · -- A stage installs the exporter while its own step is pending.
            have installed := Journal.Mirrors.install mirrors first
              (fun ready => by rw [unready] at ready; cases ready) address chosen
            rcases noted with ⟨entries, grown, aside⟩
            have mirrored := Journal.Mirrors.append installed (Journal.exported?_of_aside aside)
            rw [← grown, Journal.gauge?, Journal.gauges_of_aside aside] at mirrored
            exact mirrored

theorem Mirrors.runs {service : Service} (mirrors : service.Mirrors direct)
    (unready : service.manager.ready = false) (position : Nat) (step : Step) :
    (service.runStep position step).2.Mirrors direct := by
  have begun : (service.beginCall position step).Mirrors direct :=
    mirrors.extend (beginCall_journal ..) rfl rfl
  rcases service.runStep_cases position step with ⟨ended, replies, outcome, deeds, ran⟩
  rw [ran]
  have closed : (ended.endCall step replies outcome).Mirrors direct :=
    (begun.deeds unready deeds).1.extend (endCall_journal ..) rfl rfl
  cases outcome <;> exact closed.extend (book_journal ..) rfl rfl

theorem Move.mirrors {service next : Service} (move : Move direct service next)
    (gate : service.manager.Gate) (mirrors : service.Mirrors direct) :
    next.Mirrors direct := by
  cases move with
  | registers name action => exact mirrors.registers name action
  | pushes pushed => exact mirrors.pushes pushed
  | @runs position step stands pending =>
      exact mirrors.runs (gate.unready stands pending) position step
  | exports address allowed =>
      rcases installed : service.world.installExporter address with ⟨result, world⟩
      cases result with
      | error fault =>
          have noted := World.installExporter_notes (congrArg Prod.fst installed)
          rw [installed] at noted
          exact mirrors.notes noted
      | ok done =>
          rcases service.world.installExporter_cases address with
            ⟨chosen, _, _, first, grown⟩ | ⟨⟨fault, failed⟩, _⟩
          · unfold Mirrors
            rw [installed] at grown
            rw [grown]
            exact Journal.Mirrors.install mirrors first (fun _ => allowed) address chosen
          · rw [installed] at failed
            cases failed
  | notes noted => exact mirrors.notes noted

theorem Ends.mirrors {service : Service} {walked : Walked} (ended : Ends service walked)
    (mirrors : service.Mirrors direct) : walked.2.Mirrors direct := by
  cases ended with
  | arrives past below =>
      exact (mirrors.extend (setReady_journal ..) rfl rfl).extend (log_journal ..) rfl rfl
  | stops fault => exact mirrors.extend (setReady_journal ..) rfl rfl
  | panics => exact mirrors

theorem Course.mirrors {first last : Service} {walks : List Walked}
    (course : Course direct first walks last) (gate : first.manager.Gate)
    (mirrors : first.Mirrors direct) : last.manager.Gate ∧ last.Mirrors direct := by
  induction course with
  | nil => exact ⟨gate, mirrors⟩
  | move _ move induction =>
      exact ⟨move.gate induction.1, move.mirrors induction.1 induction.2⟩
  | ends _ ended induction => exact ⟨ended.gate induction.1, ended.mirrors induction.2⟩

/-- Once the exporter is installed, a scraper reads what the flag says, unless the exporter
was installed over a flag that was set and nothing has set the gauge since: then it reads 0.
This needs an exporter that is installed otherwise than by a stage. An installation that
fails changes nothing that is scraped. -/
theorem session_scraped_gauge (world : World) (unused : world.journal = [])
    (operations : List (Operation α)) :
    let last := (Service.session { world } operations).2
    (∀ exporter since, last.world.journal.exported? = some (exporter, since) →
      ∀ scraped, exporter.covers scraped = true → ∀ isReady,
        Metrics.gaugeLine isReady ∈ Metrics.scrape last.world.journal scraped ↔
          isReady = (last.manager.ready && !last.world.journal.isStale)) ∧
    (last.world.journal.isStale = true →
      last.manager.ready = true ∧ Operation.anyExportsDirectly operations = true) ∧
    ∀ address fault after, last.world.installExporter address = (.error fault, after) →
      ∀ scraper, Metrics.scrape after.journal scraper =
        Metrics.scrape last.world.journal scraper := by
  intro last
  have course := session_course { world } operations
  have fresh : Mirrors (Operation.anyExportsDirectly operations = true) { world } := by
    unfold Mirrors
    rw [unused]
    exact ⟨rfl, fun exported => (by cases exported), fun exported => by cases exported⟩
  have mirrors := (course.mirrors (.of_unready rfl) fresh).2
  refine ⟨?_, mirrors.ready_of_stale, ?_⟩
  · intro exporter since exported scraped covers isReady
    rw [Metrics.gaugeLine_mem_scrape exported covers, mirrors.shown exported, Option.some.injEq]
    exact eq_comm
  · intro address fault after failed scraper
    have noted := World.installExporter_notes (congrArg Prod.fst failed)
    rw [failed] at noted
    exact Metrics.scrape_of_adds noted scraper

def nearby : SocketAddress := { ip := .loopback4, port := 9090 }

def exportingLate : List (Operation Unit) := [.initializeAll, .installExporter nearby]

theorem session_exportingLate : (Service.session {} exportingLate).2 = {
    manager := { ready := true }
    world := { journal := [.gauge true, .event (.bootstrapComplete 0)] ++
      World.installationEntries nearby nearby } } := by
  have walked : walk ({} : Service) 0 = _ := walk_of_none rfl
  simp only [exportingLate, session, Operation.perform, initializeAll, walked]
  rfl

theorem scraped_gauge_exporting_late :
    let last := (Service.session {} exportingLate).2
    last.world.journal.isStale = true ∧ last.manager.ready = true ∧
      Metrics.gaugeLine false ∈ Metrics.scrape last.world.journal nearby := by
  have scraped := session_scraped_gauge {} rfl exportingLate
  rw [session_exportingLate] at scraped ⊢
  exact ⟨rfl, (scraped.2.1 rfl).1, (scraped.1 nearby _ rfl nearby nearby.covers_self false).mpr rfl⟩

/-- What is scraped is not always the flag. -/
theorem gauge_not_always_flag :
    ¬ ∀ (operations : List (Operation Unit)) (address : SocketAddress) (since : Journal),
      (Service.session {} operations).2.world.journal.exported? = some (address, since) →
      ∀ isReady, Metrics.gaugeLine isReady ∈
          Metrics.scrape (Service.session {} operations).2.world.journal address ↔
        isReady = (Service.session {} operations).2.manager.ready := by
  intro mirrored
  have scraped := mirrored exportingLate nearby
  rw [session_exportingLate] at scraped
  have shown := (Metrics.gaugeLine_mem_scrape rfl rfl true).mp ((scraped _ rfl true).mpr rfl)
  cases shown

end Service

end Bringup
