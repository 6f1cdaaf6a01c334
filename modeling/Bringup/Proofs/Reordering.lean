import Mathlib
import Bringup.Proofs.Fields

namespace Bringup

/-! The order of overrides.

What a configuration is read from are the entries of tables, and the sections that are no
tables, which no override touches (`Override.applyAll_closed`). Of several overrides of one
entry the last one counts, so overrides of distinct entries can be applied in any order and
all overrides any number of times. Only which of several overrides at fault is met first
depends on the order (`Config.load_reordered`). -/

namespace Toml.Table

structure Agree (first second : Toml.Table) : Prop where
  tabular : ∀ sectionName, first.isTabular sectionName = second.isTabular sectionName
  entries : ∀ target, first.at? target = second.at? target
  closed : ∀ sectionName, first.isTabular sectionName = false →
    first.get? sectionName = second.get? sectionName

namespace Agree

theorem refl (document : Toml.Table) : document.Agree document :=
  ⟨fun _ => rfl, fun _ => rfl, fun _ _ => rfl⟩

variable {first second : Toml.Table}

theorem readAlike (agree : first.Agree second) : Override.ReadAlike first second where
  tabular := agree.tabular
  expected target := by
    rw [Override.expectation_eq, Override.expectation_eq, agree.entries]

theorem entry?_eq (agree : first.Agree second) (field : Field) :
    first.entry? field = second.entry? field := by
  cases tabular : first.isTabular field.home.name with
  | true =>
      rw [entry?_of_tabular tabular, agree.entries,
        entry?_of_tabular ((agree.tabular _).symm.trans tabular)]
  | false =>
      unfold entry?
      rw [agree.closed _ tabular]

theorem decodeField_eq (agree : first.Agree second) : first.decodeField = second.decodeField := by
  funext field
  rw [decodeField, decodeField, agree.entry?_eq]

theorem sectionFault?_eq (agree : first.Agree second) (chosen : Section) :
    first.sectionFault? chosen = second.sectionFault? chosen := by
  have misfits : first.misfit? = second.misfit? := by
    funext field
    rw [misfit?, misfit?, agree.decodeField_eq]
  cases tabular : first.isTabular chosen.name with
  | true =>
      rw [sectionFault?_of_tabular tabular,
        sectionFault?_of_tabular ((agree.tabular _).symm.trans tabular), misfits]
  | false => rw [sectionFault?, sectionFault?, agree.closed _ tabular, misfits]

theorem ofDocument_eq (agree : first.Agree second) :
    Config.ofDocument first = Config.ofDocument second := by
  have faults : first.fault? = second.fault? := by
    rw [fault?, fault?, funext agree.sectionFault?_eq]
  have readings : Config.reading first = Config.reading second := by
    funext field
    rw [Config.reading, Config.reading, agree.decodeField_eq]
  rw [Config.ofDocument, Config.ofDocument, faults, readings]

end Agree

end Toml.Table

namespace Override

open Toml (Table)

/-! ## Sections that are no tables -/

theorem get?_insert?_of_closed {document overridden : Table} {target : Target}
    {value : Toml.Value} {sectionName : String}
    (inserted : insert? document target value = some overridden)
    (closed : document.isTabular sectionName = false) :
    overridden.get? sectionName = document.get? sectionName := by
  have tabular := isSome_insert? document target value
  rw [inserted, Option.isSome_some] at tabular
  have elsewhere : target.sectionName ≠ sectionName := by
    rintro rfl
    rw [← tabular] at closed
    cases closed
  rcases insert?_eq_some inserted with ⟨entries, rfl, _⟩
  rw [Table.get?_set_other _ _ elsewhere]

theorem applyVariable_closed {document overridden : Table} {assigned : Variable}
    {sectionName : String} (applied : applyVariable document assigned = .ok overridden)
    (closed : document.isTabular sectionName = false) :
    overridden.get? sectionName = document.get? sectionName := by
  unfold applyVariable apply at applied
  split at applied
  · cases applied
    rfl
  · split at applied
    · cases applied
    · dsimp only at applied
      split at applied
      · cases applied
      · split at applied
        · cases applied
        · rename_i inserted
          cases applied
          exact get?_insert?_of_closed inserted closed

/-- Overrides leave sections that are no tables as they are. -/
theorem applyAll_closed {document overridden : Table} {environment : List Variable}
    {sectionName : String} (applied : applyAll document environment = .ok overridden)
    (closed : document.isTabular sectionName = false) :
    overridden.get? sectionName = document.get? sectionName := by
  induction environment generalizing document with
  | nil =>
      cases applied
      rfl
  | cons assigned rest induction =>
      rw [applyAll] at applied
      rcases applyVariable_cases document assigned with
        ⟨_, _, refused⟩ | ⟨_, middle, passed, alike, _⟩
      · rw [refused] at applied
        cases applied
      · rw [passed] at applied
        rw [induction applied ((alike.tabular _).trans closed),
          applyVariable_closed passed closed]

theorem exists_of_firstFault? {document : Table} {environment : List Variable}
    {refusal : String × OverrideFault} (first : firstFault? document environment = some refusal) :
    ∃ assigned ∈ environment, ∃ fault, fault? document assigned = some fault ∧
      refusal = (assigned.name, fault) := by
  rcases List.exists_of_findSome?_eq_some first with ⟨assigned, member, found⟩
  rcases Option.map_eq_some_iff.mp found with ⟨fault, faulty, rfl⟩
  exact ⟨assigned, member, fault, faulty, rfl⟩

theorem firstFault?_eq_none_of_perm {document : Table} {first second : List Variable}
    (reordered : first.Perm second) :
    firstFault? document first = none ↔ firstFault? document second = none := by
  simp only [firstFault?_eq_none_iff, reordered.mem_iff]

/-! ## Lists that write the same -/

/-- Without a fault two lists of variables come to the same if the last texts for each entry
are the same. -/
theorem agree_of_written {document : Table} {first second : List Variable}
    (firstFaultless : firstFault? document first = none)
    (secondFaultless : firstFault? document second = none)
    (written : ∀ target, lastWritten? first target = lastWritten? second target) :
    ∃ left right, applyAll document first = .ok left ∧ applyAll document second = .ok right ∧
      left.Agree right := by
  rcases applyAll_of_no_fault firstFaultless with ⟨left, leftApplied, leftAlike, leftHolds⟩
  rcases applyAll_of_no_fault secondFaultless with ⟨right, rightApplied, rightAlike, rightHolds⟩
  refine ⟨left, right, leftApplied, rightApplied, ?_, ?_, ?_⟩
  · intro sectionName
    rw [leftAlike.tabular, rightAlike.tabular]
  · intro target
    rw [leftHolds, rightHolds, written]
  · intro sectionName closed
    rw [leftAlike.tabular] at closed
    rw [applyAll_closed leftApplied closed, applyAll_closed rightApplied closed]

theorem lastWritten?_append (first second : List Variable) (target : Target) :
    lastWritten? (first ++ second) target =
      (lastWritten? second target).or (lastWritten? first target) := by
  rw [lastWritten?, List.filter_append, List.getLast?_append, Option.map_or]
  rfl

/-- Where each entry is addressed at most once, the text written for it is the one that any
variable carries for it. -/
theorem lastWritten?_eq_some_iff {environment : List Variable}
    (distinct : (environment.filterMap Variable.target?).Nodup) {target : Target}
    {written : String} :
    lastWritten? environment target = some written ↔
      ∃ assigned ∈ environment, assigned.target? = some target ∧ assigned.value = written := by
  refine ⟨exists_of_lastWritten?, ?_⟩
  rintro ⟨assigned, member, addressed, rfl⟩
  rcases Option.isSome_iff_exists.mp (isSome_lastWritten? member addressed) with ⟨text, last⟩
  rcases exists_of_lastWritten? last with ⟨other, otherMember, otherAddressed, rfl⟩
  have same : assigned = other := by
    by_contra different
    have symmetric : Std.Symm fun left right : Variable => ∀ one, left.target? = some one →
        ∀ two, right.target? = some two → one ≠ two :=
      ⟨fun _ _ unlike one left two right => (unlike two right one left).symm⟩
    exact (List.pairwise_filterMap.mp distinct).forall member otherMember different
      target addressed target otherAddressed rfl
  rw [last, same]

theorem lastWritten?_of_perm {first second : List Variable} (reordered : first.Perm second)
    (distinct : (first.filterMap Variable.target?).Nodup) (target : Target) :
    lastWritten? first target = lastWritten? second target := by
  have otherDistinct := (reordered.filterMap Variable.target?).nodup_iff.mp distinct
  apply Option.ext
  intro written
  rw [lastWritten?_eq_some_iff distinct, lastWritten?_eq_some_iff otherDistinct]
  simp only [reordered.mem_iff]

end Override

namespace Config

open Override (fault? firstFault? lastWritten?)

theorem resolve_of_written {document : Toml.Table} {first second : List Variable}
    (faults : firstFault? document first = firstFault? document second)
    (written : ∀ target, lastWritten? first target = lastWritten? second target) :
    resolve document first = resolve document second := by
  cases faulty : firstFault? document first with
  | some fault =>
      rw [resolve, resolve, Override.applyAll_of_fault faulty,
        Override.applyAll_of_fault (faults.symm.trans faulty)]
  | none =>
      rcases Override.agree_of_written faulty (faults.symm.trans faulty) written with
        ⟨left, right, leftApplied, rightApplied, agree⟩
      simp only [resolve, leftApplied, rightApplied, agree.ofDocument_eq]

/-- Variables that address distinct entries come to the same in any order, be it a
configuration or an error; but of several that are at fault the one that comes first is
named, and that is up to the order. Variables that are listed twice come to the same as
those listed once, also if they address one entry several times. -/
theorem load_reordered (text : String) {first second : List Variable}
    (reordered : first.Perm second)
    (distinct : (first.filterMap Variable.target?).Nodup) :
    (load text first = load text second ∨
        ∃ document, Toml.read text = .ok document ∧
          ∃ one ∈ first, ∃ other ∈ first, ∃ oneFault otherFault,
            fault? document one = some oneFault ∧ fault? document other = some otherFault ∧
            load text first = .error (.overrideFault one.name oneFault) ∧
            load text second = .error (.overrideFault other.name otherFault)) ∧
      ∀ environment, load text (environment ++ environment) = load text environment := by
  constructor
  · cases read : Toml.read text with
    | error fault => exact .inl (by rw [load, load, read])
    | ok document =>
        rw [load_of_read read, load_of_read read]
        cases faulty : firstFault? document first with
        | none =>
            have unrefused := (Override.firstFault?_eq_none_of_perm reordered).mp faulty
            exact .inl (resolve_of_written (faulty.trans unrefused.symm)
              (Override.lastWritten?_of_perm reordered distinct))
        | some refusal =>
            have refused : firstFault? document second ≠ none := by
              rw [ne_eq, ← Override.firstFault?_eq_none_of_perm reordered, faulty]
              exact Option.some_ne_none refusal
            rcases Option.ne_none_iff_exists'.mp refused with ⟨otherRefusal, otherFaulty⟩
            rcases Override.exists_of_firstFault? faulty with
              ⟨one, member, oneFault, oneRefused, rfl⟩
            rcases Override.exists_of_firstFault? otherFaulty with
              ⟨other, otherMember, otherFault, otherRefused, rfl⟩
            refine .inr ⟨document, rfl, one, member, other, reordered.mem_iff.mpr otherMember,
              oneFault, otherFault, oneRefused, otherRefused, ?_, ?_⟩
            · rw [resolve, Override.applyAll_of_fault faulty]
            · rw [resolve, Override.applyAll_of_fault otherFaulty]
  · intro environment
    cases read : Toml.read text with
    | error fault => rw [load, load, read]
    | ok document =>
        rw [load_of_read read, load_of_read read]
        apply resolve_of_written
        · rw [firstFault?, List.findSome?_append, Option.or_self]
          rfl
        · intro target
          rw [Override.lastWritten?_append, Option.or_self]

def scattered : List Variable :=
  [⟨"APP__Server__Request_Timeout_Secs", "7"⟩, ⟨"HOME", "/root"⟩, ⟨"APP__SERVER__COLOR", "red"⟩,
    ⟨"APP__OBSERVABILITY__JSON", "true"⟩]

theorem load_scattered :
    (load "cache = ['redis://cache']\n" scattered =
        load "cache = ['redis://cache']\n" scattered.reverse) ∧
      load "cache = ['redis://cache']\n" (scattered ++ scattered) =
        .ok { server := { requestTimeoutSecs := 7 }, cache := { url := "redis://cache" },
              observability := { json := true } } := by
  have loaded : load "cache = ['redis://cache']\n" scattered =
      .ok { server := { requestTimeoutSecs := 7 }, cache := { url := "redis://cache" },
            observability := { json := true } } := load_eq_ok (by decide +kernel)
  rcases load_reordered "cache = ['redis://cache']\n"
    (List.reverse_perm scattered).symm (by decide +kernel) with ⟨same | refused, repeated⟩
  · exact ⟨same, (repeated scattered).trans loaded⟩
  · rcases refused with ⟨_, _, _, _, _, _, _, _, _, _, failed, _⟩
    rw [loaded] at failed
    cases failed

end Config

end Bringup
