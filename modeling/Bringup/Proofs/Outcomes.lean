import Mathlib
import Bringup.Proofs.Addressing
import Bringup.Proofs.Fitting
import Bringup.Proofs.Reordering
import Bringup.Proofs.Rules
import Bringup.Proofs.Spelling

namespace Bringup

/-! What loading comes to.

`Config.Loads` says, without computing it, which configuration or error a text and a list of
variables give. Five things can go wrong, and an earlier one hides all later ones: the text
is no document, a variable offends against the document that the variables before it leave
(`Override.Offends`), an entry does not fit its field, and rules are broken. Loading follows
it exactly (`Config.load_eq_iff`). -/

namespace Override

open Toml (Table)

/-! ## One variable -/

/-- What the text for an entry is read as: as what the field has by default, or else as what
the document holds. -/
inductive Expects (document : Table) (target : Target) : Expectation → Prop where
  | default {field : Field} {value : Toml.Value} : field.target = target →
      field.defaultToml = some value → Expects document target (.ofEntry (some value))
  | held : (∀ field : Field, field.target = target → field.defaultToml = none) →
      Expects document target (.ofEntry (document.at? target))

theorem expects_iff {document : Table} {target : Target} {expected : Expectation} :
    Expects document target expected ↔ expectation document target = expected := by
  rw [expectation_eq]
  constructor
  · rintro (⟨rfl, default⟩ | free)
    · rw [Field.named?_target, Option.bind_some, default]
      rfl
    · cases named : Field.named? target.sectionName target.key with
      | none => rfl
      | some field =>
          rw [Option.bind_some, free field (Field.named?_eq_some_iff.mp named)]
          rfl
  · rintro rfl
    cases default : (Field.named? target.sectionName target.key).bind Field.defaultToml with
    | some value =>
        rcases Option.bind_eq_some_iff.mp default with ⟨field, named, given⟩
        exact .default (Field.named?_eq_some_iff.mp named) given
    | none =>
        refine .held fun field addressed => ?_
        rwa [Field.named?_eq_some_iff.mpr addressed, Option.bind_some] at default

/-- Why a variable is refused: its name addresses no entry; its text cannot be read; or its
section is no table, which counts only if the text can be read. -/
inductive Offends (document : Table) (assigned : Variable) : OverrideFault → Prop where
  | unaddressed {path : List Char} : assigned.HasPath path →
      (∀ target, ¬ assigned.Addresses target) → Offends document assigned .malformed
  | unreadable {target : Target} {expected : Expectation} : assigned.Addresses target →
      Expects document target expected → (∀ value, ¬ expected.Reads assigned.value value) →
      Offends document assigned (.unreadable expected)
  | closed {target : Target} {expected : Expectation} {value : Toml.Value} :
      assigned.Addresses target → Expects document target expected →
      expected.Reads assigned.value value →
      document.isTabular target.sectionName = false → Offends document assigned .malformed

theorem Offends.fault?_eq {document : Table} {assigned : Variable} {fault : OverrideFault}
    (offends : Offends document assigned fault) : fault? document assigned = some fault := by
  cases offends with
  | unaddressed named unaddressed =>
      have untargeted : assigned.target? = none := by
        rw [Option.eq_none_iff_forall_ne_some]
        exact fun target addressed => unaddressed target (Variable.addresses_iff.mpr addressed)
      rw [Variable.hasPath_iff] at named
      rw [Variable.target?, named, Option.bind_some] at untargeted
      simp [fault?, named, untargeted]
  | unreadable addresses expects unread =>
      rw [fault?_of_target? (Variable.addresses_iff.mp addresses), expects_iff.mp expects,
        Expectation.not_reads_iff.mp unread]
      rfl
  | closed addresses expects reads closed =>
      rw [fault?_of_target? (Variable.addresses_iff.mp addresses), expects_iff.mp expects,
        Expectation.reads_iff.mp reads, closed]
      rfl

theorem variable_cases (document : Table) (assigned : Variable) :
    (∀ path, ¬ assigned.HasPath path) ∨ (∃ fault, Offends document assigned fault) ∨
      ∃ target expected value, assigned.Addresses target ∧ Expects document target expected ∧
        expected.Reads assigned.value value ∧
        document.isTabular target.sectionName = true := by
  by_cases unnamed : ∀ path, ¬ assigned.HasPath path
  · exact .inl unnamed
  · rcases not_forall_not.mp unnamed with ⟨path, named⟩
    by_cases unaddressed : ∀ target, ¬ assigned.Addresses target
    · exact .inr (.inl ⟨_, .unaddressed named unaddressed⟩)
    · rcases not_forall_not.mp unaddressed with ⟨target, addresses⟩
      have expects := expects_iff.mpr (Eq.refl (expectation document target))
      by_cases unread : ∀ value, ¬ (expectation document target).Reads assigned.value value
      · exact .inr (.inl ⟨_, .unreadable addresses expects unread⟩)
      · rcases not_forall_not.mp unread with ⟨value, reads⟩
        cases tabular : document.isTabular target.sectionName with
        | false => exact .inr (.inl ⟨_, .closed addresses expects reads tabular⟩)
        | true => exact .inr (.inr ⟨target, _, value, addresses, expects, reads, tabular⟩)

/-- A document with one entry set. The section is a table afterwards, and was one before or
was absent. -/
structure Sets (document : Table) (target : Target) (value : Toml.Value) (changed : Table) :
    Prop where
  before : document.isTabular target.sectionName = true
  after : changed.isTabular target.sectionName = true
  here : changed.at? target = some value
  elsewhere : ∀ other ≠ target, changed.at? other = document.at? other
  sections : ∀ sectionName ≠ target.sectionName,
    changed.get? sectionName = document.get? sectionName

theorem sets_of_insert? {document changed : Table} {target : Target} {value : Toml.Value}
    (inserted : insert? document target value = some changed) :
    Sets document target value changed := by
  have tabular := isSome_insert? document target value
  rw [inserted, Option.isSome_some] at tabular
  refine ⟨tabular.symm, ?_, ?_, ?_, ?_⟩
  · rw [isTabular_insert? inserted, tabular]
  · rw [at?_insert? inserted, if_pos rfl]
  · intro other different
    rw [at?_insert? inserted, if_neg different]
  · intro sectionName different
    rcases insert?_eq_some inserted with ⟨entries, rfl, _⟩
    exact Table.get?_set_other _ _ different.symm

theorem Sets.agree {document other changed otherChanged : Table} {target : Target}
    {value : Toml.Value} (agree : document.Agree other)
    (sets : Sets document target value changed)
    (otherSets : Sets other target value otherChanged) : changed.Agree otherChanged := by
  have tabular : ∀ sectionName ≠ target.sectionName,
      changed.isTabular sectionName = document.isTabular sectionName ∧
        otherChanged.isTabular sectionName = other.isTabular sectionName := by
    intro sectionName different
    simp only [Table.isTabular, sets.sections _ different, otherSets.sections _ different,
      and_self]
  refine ⟨fun sectionName => ?_, fun addressed => ?_, fun sectionName closed => ?_⟩
  · by_cases here : sectionName = target.sectionName
    · rw [here, sets.after, otherSets.after]
    · rw [(tabular _ here).1, (tabular _ here).2, agree.tabular]
  · by_cases here : addressed = target
    · rw [here, sets.here, otherSets.here]
    · rw [sets.elsewhere _ here, otherSets.elsewhere _ here, agree.entries]
  · have elsewhere : sectionName ≠ target.sectionName := by
      rintro rfl
      rw [sets.after] at closed
      cases closed
    rw [(tabular _ elsewhere).1] at closed
    rw [sets.sections _ elsewhere, otherSets.sections _ elsewhere, agree.closed _ closed]

theorem applyVariable_of_unnamed {assigned : Variable}
    (unnamed : ∀ path, ¬ assigned.HasPath path) (document : Table) :
    applyVariable document assigned = .ok document := by
  have none : path? assigned.name = none := by
    rw [Option.eq_none_iff_forall_ne_some]
    exact fun path named => unnamed path (path?_eq_some_iff.mp named)
  rw [applyVariable, none]

theorem applyVariable_of_addresses {assigned : Variable} {target : Target}
    {expected : Expectation} {value : Toml.Value} {document : Table}
    (addresses : assigned.Addresses target) (expects : Expects document target expected)
    (reads : expected.Reads assigned.value value)
    (tabular : document.isTabular target.sectionName = true) :
    ∃ changed, applyVariable document assigned = .ok changed ∧
      Sets document target value changed := by
  rw [Variable.addresses_iff] at addresses
  rcases Option.bind_eq_some_iff.mp addresses with ⟨path, named, targeted⟩
  rcases Option.isSome_iff_exists.mp ((isSome_insert? document target value).trans tabular) with
    ⟨changed, inserted⟩
  refine ⟨changed, ?_, sets_of_insert? inserted⟩
  simp only [applyVariable, apply, named, targeted, expects_iff.mp expects,
    Expectation.reads_iff.mp reads, inserted]

theorem offends_iff {document : Table} {assigned : Variable} {fault : OverrideFault} :
    Offends document assigned fault ↔ fault? document assigned = some fault := by
  refine ⟨Offends.fault?_eq, fun refused => ?_⟩
  rcases applyVariable_cases document assigned with ⟨_, _, failed⟩ | ⟨passed, _⟩
  · rcases variable_cases document assigned with
      unnamed | ⟨other, offends⟩ | ⟨target, expected, value, addresses, expects, reads, tabular⟩
    · rw [applyVariable_of_unnamed unnamed] at failed
      cases failed
    · have same := offends.fault?_eq
      rw [refused] at same
      cases same
      exact offends
    · rcases applyVariable_of_addresses addresses expects reads tabular with ⟨_, applied, _⟩
      rw [applied] at failed
      cases failed
  · rw [refused] at passed
    cases passed

/-! ## Variables one after the other -/

/-- The documents that variables lead to if none of them offends. -/
inductive Applied : Table → List Variable → Table → Prop where
  | none {document : Table} : Applied document [] document
  | ignored {document result : Table} {assigned : Variable} {rest : List Variable} :
      (∀ path, ¬ assigned.HasPath path) → Applied document rest result →
      Applied document (assigned :: rest) result
  | set {document changed result : Table} {assigned : Variable} {rest : List Variable}
      {target : Target} {expected : Expectation} {value : Toml.Value} :
      assigned.Addresses target → Expects document target expected →
      expected.Reads assigned.value value → Sets document target value changed →
      Applied changed rest result → Applied document (assigned :: rest) result

theorem applied_of_applyAll {document result : Table} {environment : List Variable}
    (applied : applyAll document environment = .ok result) :
    Applied document environment result := by
  induction environment generalizing document with
  | nil =>
      cases applied
      exact .none
  | cons assigned rest induction =>
      rw [applyAll] at applied
      rcases variable_cases document assigned with
        unnamed | ⟨fault, offends⟩ | ⟨target, expected, value, addresses, expects, reads, tabular⟩
      · rw [applyVariable_of_unnamed unnamed] at applied
        exact .ignored unnamed (induction applied)
      · rcases applyVariable_cases document assigned with ⟨_, _, failed⟩ | ⟨passed, _⟩
        · rw [failed] at applied
          cases applied
        · rw [offends.fault?_eq] at passed
          cases passed
      · rcases applyVariable_of_addresses addresses expects reads tabular with
          ⟨changed, passed, sets⟩
        rw [passed] at applied
        exact .set addresses expects reads sets (induction applied)

theorem Applied.exists_agree {document other result : Table} {environment : List Variable}
    (applied : Applied document environment result) (agree : document.Agree other) :
    ∃ computed, applyAll other environment = .ok computed ∧ result.Agree computed := by
  induction applied generalizing other with
  | none => exact ⟨other, rfl, agree⟩
  | ignored unnamed _ induction =>
      rcases induction agree with ⟨computed, applied, same⟩
      refine ⟨computed, ?_, same⟩
      rw [applyAll, applyVariable_of_unnamed unnamed]
      exact applied
  | set addresses expects reads sets _ induction =>
      rw [expects_iff, agree.readAlike.expected, ← expects_iff] at expects
      have tabular := (agree.tabular _).symm.trans sets.before
      rcases applyVariable_of_addresses addresses expects reads tabular with
        ⟨changed, passed, otherSets⟩
      rcases induction (sets.agree agree otherSets) with ⟨computed, applied, same⟩
      refine ⟨computed, ?_, same⟩
      rw [applyAll, passed]
      exact applied

end Override

namespace Config

open Toml (Table)
open Override (Applied Offends)

/-- The report on a configuration: one violation for each rule that is broken, in the order
of the fields, with what the check of the field finds. -/
structure Reports (config : Config) (violations : List Violation) : Prop where
  fields : violations.map Violation.field = Field.all.filter fun field => ¬ config.Obeys field
  complaints : ∀ violation ∈ violations,
    Validation.complaint? config violation.field = some violation.complaint

theorem filterMap_complaint? {config : Config} {violations : List Violation}
    (complaints : ∀ violation ∈ violations,
      Validation.complaint? config violation.field = some violation.complaint) :
    (violations.map Violation.field).filterMap (fun field =>
      (Validation.complaint? config field).map (Violation.mk field)) = violations := by
  induction violations with
  | nil => rfl
  | cons violation rest induction =>
      rw [List.forall_mem_cons] at complaints
      rw [List.map_cons, List.filterMap_cons, complaints.1, induction complaints.2]
      rfl

theorem reports_violations (config : Config) : config.Reports config.violations where
  fields := map_field_violations config
  complaints violation := (mem_violations_iff config violation).mp

theorem reports_iff {config : Config} {violations : List Violation} :
    config.Reports violations ↔ violations = config.violations := by
  constructor
  · intro reports
    have own := config.reports_violations
    rw [← filterMap_complaint? reports.complaints, reports.fields, ← own.fields,
      filterMap_complaint? own.complaints]
  · rintro rfl
    exact config.reports_violations

theorem resolve_of_applied {document current : Table} {environment : List Variable}
    (applied : Applied document environment current) :
    (∀ fault, ofDocument current = .error fault →
        resolve document environment = .error (.wrongType fault)) ∧
      ∀ config, ofDocument current = .ok config →
        resolve document environment = config.checked := by
  rcases applied.exists_agree (.refl document) with ⟨computed, appliedAll, agree⟩
  rw [agree.ofDocument_eq]
  constructor
  · intro fault described
    simp only [resolve, appliedAll, described]
  · intro config described
    simp only [resolve, appliedAll, described]

/-- A variable that offends after others that do not is refused, whatever follows it. -/
theorem resolve_of_offends {document current : Table} {before after : List Variable}
    {assigned : Variable} {fault : OverrideFault} (applied : Applied document before current)
    (offends : Offends current assigned fault) :
    resolve document (before ++ assigned :: after) =
      .error (.overrideFault assigned.name fault) := by
  rcases applied.exists_agree (.refl document) with ⟨computed, appliedAll, agree⟩
  rcases Override.applyAll_eq_ok appliedAll with ⟨faultless, alike, _⟩
  have faulty : Override.fault? document assigned = some fault := by
    rw [← alike.fault?_eq, ← agree.readAlike.fault?_eq]
    exact offends.fault?_eq
  have first : Override.firstFault? document (before ++ assigned :: after) =
      some (assigned.name, fault) := by
    rw [Override.firstFault?] at faultless
    rw [Override.firstFault?, List.findSome?_append, faultless, List.findSome?_cons, faulty]
    rfl
  rw [resolve, Override.applyAll_of_fault first]

theorem exists_offends_of_applyAll {document : Table} {environment : List Variable}
    {name : String} {fault : OverrideFault}
    (refused : Override.applyAll document environment = .error (name, fault)) :
    ∃ before assigned after current, environment = before ++ assigned :: after ∧
      Applied document before current ∧ Offends current assigned fault ∧
      assigned.name = name := by
  rw [Override.applyAll_eq_error_iff, Override.firstFault?, List.findSome?_eq_some_iff] at refused
  rcases refused with ⟨before, assigned, after, rfl, found, earlier⟩
  rcases Option.map_eq_some_iff.mp found with ⟨_, faulty, ⟨⟩⟩
  have faultless : Override.firstFault? document before = none :=
    List.findSome?_eq_none_iff.mpr earlier
  rcases Override.applyAll_of_no_fault faultless with ⟨current, applied, alike, _⟩
  refine ⟨before, assigned, after, current, rfl, Override.applied_of_applyAll applied, ?_, rfl⟩
  rw [Override.offends_iff, alike.fault?_eq, faulty]

inductive Loads (text : String) (environment : List Variable) :
    Except ConfigError Config → Prop where
  | notToml {fault : Toml.Fault} : Toml.read text = .error fault →
      Loads text environment (.error (.notToml text fault))
  | refused {document current : Table} {before after : List Variable} {assigned : Variable}
      {fault : OverrideFault} : Toml.read text = .ok document →
      environment = before ++ assigned :: after → Applied document before current →
      Offends current assigned fault →
      Loads text environment (.error (.overrideFault assigned.name fault))
  | mistyped {document current : Table} {fault : TypeFault} : Toml.read text = .ok document →
      Applied document environment current → current.FirstFault fault →
      Loads text environment (.error (.wrongType fault))
  | invalid {document current : Table} {config : Config} {violations : List Violation} :
      Toml.read text = .ok document → Applied document environment current →
      current.Describes config → config.Reports violations → violations ≠ [] →
      Loads text environment (.error (.invalid violations))
  | valid {document current : Table} {config : Config} : Toml.read text = .ok document →
      Applied document environment current → current.Describes config →
      (∀ field, config.Obeys field) → Loads text environment (.ok config)

/-- Loading gives exactly the result that the text and the variables have. -/
theorem load_eq_iff {text : String} {environment : List Variable}
    {result : Except ConfigError Config} :
    load text environment = result ↔ Loads text environment result := by
  constructor
  · rintro rfl
    cases read : Toml.read text with
    | error fault =>
        rw [load, read]
        exact .notToml read
    | ok document =>
        rw [load_of_read read]
        cases computed : Override.applyAll document environment with
        | error refusal =>
            rcases exists_offends_of_applyAll computed with
              ⟨before, assigned, after, current, rfl, applied, offends, named⟩
            rw [resolve_of_offends applied offends]
            exact .refused read rfl applied offends
        | ok current =>
            have applied := Override.applied_of_applyAll computed
            cases described : ofDocument current with
            | error fault =>
                rw [(resolve_of_applied applied).1 fault described]
                exact .mistyped read applied (ofDocument_eq_error_iff.mp described)
            | ok config =>
                rw [(resolve_of_applied applied).2 config described]
                have describes := ofDocument_eq_ok_iff_describes.mp described
                by_cases obeys : ∀ field, config.Obeys field
                · rw [checked_of_obeys obeys]
                  exact .valid read applied describes obeys
                · rw [← violations_eq_nil_iff_obeys] at obeys
                  rw [checked_of_violations obeys]
                  exact .invalid read applied describes config.reports_violations obeys
  · intro loads
    cases loads with
    | notToml read => rw [load, read]
    | refused read split applied offends =>
        rw [split, load_of_read read, resolve_of_offends applied offends]
    | mistyped read applied fault =>
        rw [load_of_read read]
        exact (resolve_of_applied applied).1 _ (ofDocument_eq_error_iff.mpr fault)
    | invalid read applied describes reports broken =>
        rw [load_of_read read,
          (resolve_of_applied applied).2 _ (ofDocument_eq_ok_iff_describes.mpr describes)]
        rw [reports_iff] at reports
        subst reports
        exact checked_of_violations broken
    | valid read applied describes obeys =>
        rw [load_of_read read,
          (resolve_of_applied applied).2 _ (ofDocument_eq_ok_iff_describes.mpr describes)]
        exact checked_of_obeys obeys

end Config

end Bringup
