import Bringup.Config.Override

namespace Bringup

/-! What a list of overrides does to a document.

A document is seen through what it holds at each target. How an override is read, and
whether it is at fault, never changes while overrides are applied: what replaces an entry
is of the type of that entry, and a section that is a table stays one. Hence the first
fault can be told from the document at the start (`Override.applyAll_eq_error_iff`), and
in the end a target holds the last of what was written to it, or what it held before
(`Override.applyAll_eq_ok`). -/

namespace Toml.Table

def at? (document : Toml.Table) (target : Target) : Option Toml.Value :=
  (document.get? target.sectionName).bind fun entry => entry.entry? target.key

def isTabular (document : Toml.Table) (sectionName : String) : Bool :=
  match document.get? sectionName with
  | none | some (.table _) => true
  | some _ => false

end Toml.Table

namespace Variable

def isOverride (assigned : Variable) : Bool := (Override.path? assigned.name).isSome

def target? (assigned : Variable) : Option Target :=
  (Override.path? assigned.name).bind Override.target?

end Variable

namespace Expectation

theorem ofEntry_of_read? {expected : Expectation} {written : String} {value : Toml.Value}
    (read : expected.read? written = some value) : ofEntry (some value) = expected := by
  cases expected with
  | flag =>
      simp only [read?] at read
      split at read
      · cases read
        rfl
      · split at read
        · cases read
          rfl
        · cases read
  | whole | real =>
      rcases Option.map_eq_some_iff.mp read with ⟨number, _, rfl⟩
      rfl
  | text =>
      cases read
      rfl

end Expectation

namespace Override

open Toml (Table)

/-! ## Setting one entry -/

/-- An entry can be set unless its section is something other than a table. -/
theorem isSome_insert? (document : Table) (target : Target) (value : Toml.Value) :
    (insert? document target value).isSome = document.isTabular target.sectionName := by
  unfold insert? Table.isTabular
  cases document.get? target.sectionName with
  | none => rfl
  | some entry => cases entry <;> rfl

theorem insert?_eq_some {document overridden : Table} {target : Target} {value : Toml.Value}
    (inserted : insert? document target value = some overridden) :
    ∃ entries, overridden =
        document.set target.sectionName (.table (Table.set entries target.key value)) ∧
      ∀ key, document.at? ⟨target.sectionName, key⟩ = Table.get? entries key := by
  unfold insert? at inserted
  split at inserted
  · rename_i entries opened
    cases inserted
    refine ⟨entries, rfl, fun key => ?_⟩
    unfold Table.at?
    cases held : document.get? target.sectionName with
    | none =>
        rw [held] at opened
        cases opened
        rfl
    | some entry =>
        rw [held] at opened
        cases opened
        rfl
  · cases inserted

theorem at?_insert? {document overridden : Table} {target : Target} {value : Toml.Value}
    (inserted : insert? document target value = some overridden) (other : Target) :
    overridden.at? other = if other = target then some value else document.at? other := by
  rcases insert?_eq_some inserted with ⟨entries, rfl, held⟩
  rcases other with ⟨sectionName, key⟩
  rcases target with ⟨targetSection, targetKey⟩
  by_cases here : targetSection = sectionName
  · subst sectionName
    rw [held key]
    unfold Table.at?
    rw [Table.get?_set_same]
    simp only [Option.bind_some, Toml.Value.entry?, Target.mk.injEq, true_and]
    by_cases same : targetKey = key
    · subst key
      simp
    · rw [Table.get?_set_other _ _ same, if_neg (Ne.symm same)]
  · have elsewhere : ¬ (⟨sectionName, key⟩ : Target) = ⟨targetSection, targetKey⟩ := by
      intro equal
      cases equal
      exact here rfl
    rw [if_neg elsewhere]
    unfold Table.at?
    rw [Table.get?_set_other _ _ here]

theorem isTabular_insert? {document overridden : Table} {target : Target}
    {value : Toml.Value} (inserted : insert? document target value = some overridden)
    (sectionName : String) :
    overridden.isTabular sectionName = document.isTabular sectionName := by
  have tabular := isSome_insert? document target value
  rw [inserted] at tabular
  rcases insert?_eq_some inserted with ⟨entries, rfl, _⟩
  by_cases here : target.sectionName = sectionName
  · subst sectionName
    rw [← tabular]
    simp [Table.isTabular]
  · unfold Table.isTabular
    rw [Table.get?_set_other _ _ here]

/-! ## One override -/

/-- Overrides are read alike in two documents, and are at fault in both or in neither. -/
structure ReadAlike (first second : Table) : Prop where
  tabular : ∀ sectionName, first.isTabular sectionName = second.isTabular sectionName
  expected : ∀ target, expectation first target = expectation second target

namespace ReadAlike

theorem refl (document : Table) : ReadAlike document document :=
  ⟨fun _ => rfl, fun _ => rfl⟩

theorem trans {first second third : Table} (left : ReadAlike first second)
    (right : ReadAlike second third) : ReadAlike first third where
  tabular sectionName := (left.tabular sectionName).trans (right.tabular sectionName)
  expected target := (left.expected target).trans (right.expected target)

end ReadAlike

theorem expectation_eq (document : Table) (target : Target) :
    expectation document target =
      Expectation.ofEntry (((Field.named? target.sectionName target.key).bind
        Field.defaultToml).or (document.at? target)) := rfl

/-- Setting an entry to what was read for it changes the reading of no entry. -/
theorem readAlike_insert? {document overridden : Table} {target : Target}
    {written : String} {value : Toml.Value}
    (read : (expectation document target).read? written = some value)
    (inserted : insert? document target value = some overridden) :
    ReadAlike overridden document where
  tabular := isTabular_insert? inserted
  expected other := by
    rw [expectation_eq, expectation_eq, at?_insert? inserted]
    split
    · -- What was read for the entry is of the type that the entry had.
      subst other
      have kept := Expectation.ofEntry_of_read? read
      rw [expectation_eq] at kept
      cases given : (Field.named? target.sectionName target.key).bind Field.defaultToml with
      | none => rw [given] at kept; exact kept
      | some value => rfl
    · rfl

def fault? (document : Table) (assigned : Variable) : Option OverrideFault :=
  match path? assigned.name with
  | none => none
  | some path =>
      match target? path with
      | none => some .malformed
      | some target =>
          if ((expectation document target).read? assigned.value).isNone then
            some (.unreadable (expectation document target))
          else if document.isTabular target.sectionName then none
          else some .malformed

theorem ReadAlike.fault?_eq {first second : Table} (alike : ReadAlike first second)
    (assigned : Variable) : fault? first assigned = fault? second assigned := by
  simp only [fault?, alike.expected, alike.tabular]

theorem fault?_of_target? {assigned : Variable} {target : Target}
    (addressed : assigned.target? = some target) (document : Table) :
    fault? document assigned =
      if ((expectation document target).read? assigned.value).isNone then
        some (.unreadable (expectation document target))
      else if document.isTabular target.sectionName then none
      else some .malformed := by
  rcases Option.bind_eq_some_iff.mp addressed with ⟨path, named, targeted⟩
  simp only [fault?, named, targeted]

/-- A variable is refused for its fault, or it sets its target, if it has one, and nothing
else. -/
theorem applyVariable_cases (document : Table) (assigned : Variable) :
    (∃ fault, fault? document assigned = some fault ∧
        applyVariable document assigned = .error fault) ∨
      (fault? document assigned = none ∧
        ∃ overridden, applyVariable document assigned = .ok overridden ∧
          ReadAlike overridden document ∧
          ∀ target, overridden.at? target =
            if assigned.target? = some target
            then (expectation document target).read? assigned.value
            else document.at? target) := by
  cases addressed : assigned.target? with
  | none =>
      cases named : path? assigned.name with
      | none =>
          exact .inr ⟨by simp [fault?, named], document, by simp [applyVariable, named],
            .refl document, fun target => by simp⟩
      | some path =>
          have untargeted : target? path = none := by
            rwa [Variable.target?, named, Option.bind_some] at addressed
          exact .inl ⟨.malformed, by simp [fault?, named, untargeted],
            by simp [applyVariable, apply, named, untargeted]⟩
  | some target =>
      rcases Option.bind_eq_some_iff.mp addressed with ⟨path, named, targeted⟩
      have applied : applyVariable document assigned = apply document path assigned.value := by
        simp [applyVariable, named]
      rw [fault?_of_target? addressed, applied]
      cases read : (expectation document target).read? assigned.value with
      | none => exact .inl ⟨_, rfl, by simp [apply, targeted, read]⟩
      | some value =>
          have tabular := isSome_insert? document target value
          cases inserted : insert? document target value with
          | none =>
              rw [inserted] at tabular
              exact .inl ⟨.malformed, by simp [← tabular],
                by simp [apply, targeted, read, inserted]⟩
          | some overridden =>
              rw [inserted] at tabular
              refine .inr ⟨by simp [← tabular], overridden,
                by simp [apply, targeted, read, inserted], readAlike_insert? read inserted, ?_⟩
              intro other
              rw [at?_insert? inserted]
              by_cases same : other = target
              · subst other
                simp [read]
              · simp [same, Ne.symm same]

/-! ## All overrides -/

def firstFault? (document : Table) (environment : List Variable) :
    Option (String × OverrideFault) :=
  environment.findSome? fun assigned =>
    (fault? document assigned).map fun fault => (assigned.name, fault)

def lastWritten? (environment : List Variable) (target : Target) : Option String :=
  (environment.filter fun assigned => assigned.target? = some target).getLast?.map
    Variable.value

theorem ReadAlike.firstFault?_eq {first second : Table} (alike : ReadAlike first second)
    (environment : List Variable) :
    firstFault? first environment = firstFault? second environment := by
  simp only [firstFault?, alike.fault?_eq]

theorem lastWritten?_cons (assigned : Variable) (rest : List Variable) (target : Target) :
    lastWritten? (assigned :: rest) target =
      (lastWritten? rest target).or
        (if assigned.target? = some target then some assigned.value else none) := by
  unfold lastWritten?
  by_cases addressed : assigned.target? = some target
  · rw [List.filter_cons_of_pos (by simpa using addressed), List.getLast?_cons]
    cases (rest.filter fun assigned => assigned.target? = some target).getLast? <;>
      simp [addressed]
  · rw [List.filter_cons_of_neg (by simpa using addressed)]
    simp [addressed]

theorem isSome_lastWritten? {environment : List Variable} {assigned : Variable}
    {target : Target} (member : assigned ∈ environment)
    (addressed : assigned.target? = some target) :
    (lastWritten? environment target).isSome = true := by
  simpa [lastWritten?] using ⟨assigned, member, addressed⟩

theorem exists_of_lastWritten? {environment : List Variable} {target : Target}
    {written : String} (last : lastWritten? environment target = some written) :
    ∃ assigned ∈ environment, assigned.target? = some target ∧ assigned.value = written := by
  rcases Option.map_eq_some_iff.mp last with ⟨assigned, found, carried⟩
  have kept := List.mem_filter.mp (List.mem_of_getLast? found)
  exact ⟨assigned, kept.1, by simpa using kept.2, carried⟩

theorem firstFault?_eq_none_iff {document : Table} {environment : List Variable} :
    firstFault? document environment = none ↔
      ∀ assigned ∈ environment, fault? document assigned = none := by
  simp [firstFault?]

theorem exists_read_of_lastWritten? {document : Table} {environment : List Variable}
    (faultless : firstFault? document environment = none) {target : Target}
    {written : String} (last : lastWritten? environment target = some written) :
    ∃ value, (expectation document target).read? written = some value := by
  rcases exists_of_lastWritten? last with ⟨assigned, member, addressed, rfl⟩
  have noFault := firstFault?_eq_none_iff.mp faultless assigned member
  rw [fault?_of_target? addressed] at noFault
  split at noFault
  · cases noFault
  · rename_i readable
    rw [Option.isNone_iff_eq_none] at readable
    exact Option.ne_none_iff_exists'.mp readable

theorem applyAll_of_fault {document : Table} {environment : List Variable}
    {fault : String × OverrideFault}
    (faulty : firstFault? document environment = some fault) :
    applyAll document environment = .error fault := by
  induction environment generalizing document with
  | nil => cases faulty
  | cons assigned rest induction =>
      unfold applyAll
      rcases applyVariable_cases document assigned with
        ⟨reason, first, refused⟩ | ⟨first, middle, applied, alike, _⟩
      · simp only [firstFault?, List.findSome?_cons, first, Option.map_some] at faulty
        cases faulty
        rw [refused]
      · simp only [firstFault?, List.findSome?_cons, first, Option.map_none] at faulty
        rw [applied]
        -- The fault of a later variable is the same before and after this one.
        apply induction
        rw [alike.firstFault?_eq]
        exact faulty

/-- Variables without a fault set their targets, where the last one counts. -/
theorem applyAll_of_no_fault {document : Table} {environment : List Variable}
    (faultless : firstFault? document environment = none) :
    ∃ overridden, applyAll document environment = .ok overridden ∧
      ReadAlike overridden document ∧
      ∀ target, overridden.at? target =
        match lastWritten? environment target with
        | some written => (expectation document target).read? written
        | none => document.at? target := by
  induction environment generalizing document with
  | nil => exact ⟨document, rfl, .refl document, fun _ => rfl⟩
  | cons assigned rest induction =>
      rcases applyVariable_cases document assigned with
        ⟨reason, first, _⟩ | ⟨first, middle, applied, alike, holds⟩
      · simp [firstFault?, first] at faultless
      have later : firstFault? middle rest = none := by
        simp only [firstFault?, List.findSome?_cons, first, Option.map_none] at faultless
        rw [alike.firstFault?_eq]
        exact faultless
      rcases induction later with ⟨overridden, appliedRest, alikeRest, holdsRest⟩
      refine ⟨overridden, ?_, alikeRest.trans alike, fun target => ?_⟩
      · rw [applyAll, applied]
        exact appliedRest
      · rw [holdsRest, lastWritten?_cons, alike.expected]
        cases lastWritten? rest target with
        | some written => rfl
        | none =>
            -- Nothing later addresses the target, so it holds what this variable left there.
            rw [holds]
            by_cases addressed : assigned.target? = some target <;> simp [addressed]

/-- Variables that are not named as overrides play no part. -/
theorem applyAll_filter_isOverride (document : Table) (environment : List Variable) :
    applyAll document (environment.filter Variable.isOverride) =
      applyAll document environment := by
  induction environment generalizing document with
  | nil => rfl
  | cons assigned rest induction =>
      cases named : path? assigned.name with
      | none =>
          have ignored : ¬ assigned.isOverride = true := by simp [Variable.isOverride, named]
          rw [List.filter_cons_of_neg ignored, induction]
          simp [applyAll, applyVariable, named]
      | some path =>
          have kept : assigned.isOverride = true := by simp [Variable.isOverride, named]
          rw [List.filter_cons_of_pos kept]
          simp only [applyAll, induction]

/-- The first variable that is at fault for the document at the start decides, whatever
is applied before it. -/
theorem applyAll_eq_error_iff {document : Table} {environment : List Variable}
    {fault : String × OverrideFault} :
    applyAll document environment = .error fault ↔
      firstFault? document environment = some fault := by
  refine ⟨fun failed => ?_, applyAll_of_fault⟩
  cases first : firstFault? document environment with
  | none =>
      rcases applyAll_of_no_fault first with ⟨overridden, applied, _⟩
      rw [applied] at failed
      cases failed
  | some other =>
      rw [applyAll_of_fault first] at failed
      cases failed
      rfl

theorem applyAll_eq_ok {document overridden : Table} {environment : List Variable}
    (applied : applyAll document environment = .ok overridden) :
    firstFault? document environment = none ∧ ReadAlike overridden document ∧
      ∀ target, overridden.at? target =
        match lastWritten? environment target with
        | some written => (expectation document target).read? written
        | none => document.at? target := by
  cases first : firstFault? document environment with
  | some fault =>
      rw [applyAll_of_fault first] at applied
      cases applied
  | none =>
      rcases applyAll_of_no_fault first with ⟨other, appliedOther, alike, holds⟩
      rw [applied] at appliedOther
      cases appliedOther
      exact ⟨rfl, alike, holds⟩

end Override

end Bringup
