import Mathlib
import Bringup.Proofs.Fitting
import Bringup.Proofs.Naming
import Bringup.Proofs.Rules
import Bringup.Proofs.Spelling

namespace Bringup

/-! Whole numbers on their way into a field.

The text of a variable is read as a number of 64 bits with a sign, which then has to fit the
unsigned width of its field and to be positive. At none of these borders a number becomes
another one: a text that spells no number of 64 bits is refused as it stands, a number that
does not fit is of the wrong type, zero breaks the rule of the field, and all others arrive
(`Config.load_whole`). -/

namespace Kind

variable {kind : Kind} {bits : Nat} {number : Int}

theorem decode_outside (whole : kind = .whole bits) (outside : number < 0 ∨ 2 ^ bits ≤ number) :
    kind.decode (.whole number) = .error (.outOfRange number kind.expectation) := by
  subst whole
  rw [decode_whole, if_pos outside]

theorem decode_inside (whole : kind = .whole bits)
    (inside : ¬ (number < 0 ∨ 2 ^ bits ≤ number)) :
    ∃ value, kind.decode (.whole number) = .ok value ∧
      kind.toToml value = some (.whole number) := by
  subst whole
  refine ⟨number.toNat, by rw [decode_whole, if_neg inside], ?_⟩
  rw [not_or, not_lt] at inside
  rw [toToml, Int.toNat_of_nonneg inside.1]

end Kind

namespace Toml.Table

/-- A misfit that is the only one is the fault of the document. -/
theorem fault?_of_only {document : Toml.Table} (tables : document.HasTables) {field : Field}
    {misfit : Misfit} (found : document.misfit? field = some misfit)
    (others : ∀ other ≠ field, document.misfit? other = none) :
    document.fault? = some ⟨[field.home.name, field.key], misfit⟩ := by
  cases fault : document.fault? with
  | none =>
      rcases misfit?_eq_none_iff.mpr ((fault?_eq_none_iff tables).mp fault field) with fits
      rw [found] at fits
      cases fits
  | some first =>
      rcases List.exists_of_findSome?_eq_some fault with ⟨chosen, _, inSection⟩
      rw [sectionFault?_of_tabular (tables chosen)] at inSection
      rcases List.exists_of_findSome?_eq_some inSection with ⟨other, member, atField⟩
      rcases Option.map_eq_some_iff.mp atField with ⟨otherMisfit, otherFound, rfl⟩
      have same : other = field := by
        by_contra different
        rw [others other different] at otherFound
        cases otherFound
      subst same
      rw [found] at otherFound
      cases otherFound
      rw [Field.home_of_mem member]

end Toml.Table

namespace Override

theorem expectation_of_whole {field : Field} {bits : Nat} (whole : field.kind = .whole bits)
    (document : Toml.Table) : expectation document field.target = .whole := by
  have given : field ≠ .databaseTestUrl := by
    rintro rfl
    cases whole
  rcases Field.exists_defaultToml given with ⟨value, default⟩
  rw [expectation_eq_default default, ← default]
  cases field <;> first | rfl | cases whole

/-- The only fault that one override of such a field can have is its text. -/
theorem fault?_of_whole {document : Toml.Table} {assigned : Variable} {field : Field} {bits : Nat}
    (tables : document.HasTables) (named : assigned.field? = some field)
    (whole : field.kind = .whole bits) :
    fault? document assigned =
      if (WholeNumber.read? assigned.value).isNone then some (.unreadable .whole) else none := by
  rw [Variable.fault?_of_field named (tables field.home), expectation_of_whole whole,
    Expectation.read?, Option.isNone_map]

theorem lastWritten?_singleton (assigned : Variable) (target : Target) :
    lastWritten? [assigned] target =
      if assigned.target? = some target then some assigned.value else none := by
  rw [lastWritten?_cons]
  rfl

theorem applyAll_of_whole {document : Toml.Table} {assigned : Variable} {field : Field}
    {bits : Nat} {number : Int} (tables : document.HasTables)
    (named : assigned.field? = some field) (whole : field.kind = .whole bits)
    (readAs : WholeNumber.read? assigned.value = some number) :
    ∃ overridden, applyAll document [assigned] = .ok overridden ∧ overridden.HasTables ∧
      overridden.at? field.target = some (.whole number) ∧
      ∀ other ≠ field, overridden.at? other.target = document.at? other.target := by
  have addressed := Variable.field?_eq_some_iff.mp named
  have faultless : firstFault? document [assigned] = none := by
    rw [firstFault?_eq_none_iff, List.forall_mem_singleton, fault?_of_whole tables named whole,
      readAs]
    rfl
  rcases applyAll_of_no_fault faultless with ⟨overridden, applied, alike, holds⟩
  refine ⟨overridden, applied, alike.hasTables tables, ?_, ?_⟩
  · rw [holds, lastWritten?_singleton, if_pos addressed, expectation_of_whole whole]
    simp only [Expectation.read?, readAs, Option.map_some]
  · intro other different
    have elsewhere : ¬ assigned.target? = some other.target := by
      rw [addressed]
      exact fun same => different (Field.target_injective (Option.some.inj same)).symm
    rw [holds, lastWritten?_singleton, if_neg elsewhere]

end Override

namespace Config

open Toml (Table)
open WholeNumber (Spells)

theorem complaint?_of_whole {config : Config} {field : Field} {bits : Nat} {number : Int}
    (whole : field.kind = .whole bits)
    (holds : field.kind.toToml (config.get field) = some (.whole number)) :
    Validation.complaint? config field = if number = 0 then some .notPositive else none := by
  cases field with
  | serverRequestTimeout | databaseMaxConnections | databaseConnectTimeout
  | cacheConnectTimeout =>
      cases holds
      simp [Validation.complaint?, Validation.positiveComplaint?, get]
  | _ => cases whole

/-- A configuration has a number for one field and is like another one otherwise. -/
structure Replaces (config : Config) (field : Field) (number : Int) (base : Config) : Prop where
  here : field.kind.toToml (config.get field) = some (.whole number)
  elsewhere : ∀ other ≠ field, config.get other = base.get other

theorem Replaces.obeys {config base : Config} {field : Field} {bits : Nat} {number : Int}
    (replaces : config.Replaces field number base) (whole : field.kind = .whole bits)
    (valid : base.violations = []) {other : Field} (different : other ≠ field) :
    config.Obeys other := by
  rw [violations_eq_nil_iff] at valid
  rw [← complaint?_eq_none_iff, ← valid other]
  apply complaint?_congr
  intro read rules
  apply replaces.elsewhere
  rintro rfl
  -- The rule of a whole number reads no other field.
  have own : read.ruledBy = read := by cases read <;> first | rfl | cases whole
  exact different (rules.symm.trans own)

theorem Replaces.checked {config base : Config} {field : Field} {bits : Nat} {number : Int}
    (replaces : config.Replaces field number base) (whole : field.kind = .whole bits)
    (valid : base.violations = []) :
    config.checked =
      if number = 0 then .error (.invalid [⟨field, .notPositive⟩]) else .ok config := by
  have complaint := complaint?_of_whole whole replaces.here
  split
  · rename_i zero
    rw [if_pos zero] at complaint
    have found := violations_of_only complaint fun other => replaces.obeys whole valid
    rw [checked_of_violations (by rw [found]; exact List.cons_ne_nil _ _), found]
  · rename_i positive
    rw [if_neg positive] at complaint
    rw [checked_eq_ok_iff, violations_eq_nil_iff]
    refine ⟨fun other => ?_, rfl⟩
    by_cases same : other = field
    · rw [same, complaint]
    · exact complaint?_eq_none_iff.mpr (replaces.obeys whole valid same)

theorem exists_of_decoded {document : Table} (tables : document.HasTables)
    (decoded : ∀ field, ∃ value, document.decodeField field = .ok value) :
    ∃ config, ofDocument document = .ok config ∧
      ∀ field, document.decodeField field = .ok (config.get field) := by
  have described : ofDocument document = .ok (ofFields (reading document)) := by
    rw [ofDocument, (Table.fault?_eq_none_iff tables).mpr decoded]
  exact ⟨_, described, (ofDocument_eq_ok_iff tables).mp described⟩

/-- Over a document that describes a configuration only the field that is overridden is
decoded anew. -/
theorem exists_decodeField_of_whole {document : Table} {base : Config} {assigned : Variable}
    {field : Field} {bits : Nat} {number : Int} (tables : document.HasTables)
    (described : ofDocument document = .ok base) (named : assigned.field? = some field)
    (whole : field.kind = .whole bits)
    (readAs : WholeNumber.read? assigned.value = some number) :
    ∃ overridden, Override.applyAll document [assigned] = .ok overridden ∧
      overridden.HasTables ∧
      overridden.decodeField field = field.kind.decode (.whole number) ∧
      ∀ other ≠ field, overridden.decodeField other = .ok (base.get other) := by
  rcases Override.applyAll_of_whole tables named whole readAs with
    ⟨overridden, applied, overriddenTables, here, elsewhere⟩
  refine ⟨overridden, applied, overriddenTables, ?_, fun other different => ?_⟩
  · rw [Table.decodeField_eq overriddenTables, here]
    rfl
  · rw [Table.decodeField_eq overriddenTables, elsewhere other different,
      ← Table.decodeField_eq tables]
    exact (ofDocument_eq_ok_iff tables).mp described other

theorem ofDocument_outside {document : Table} {base : Config} {field : Field} {bits : Nat}
    {number : Int} (tables : document.HasTables) (whole : field.kind = .whole bits)
    (here : document.decodeField field = field.kind.decode (.whole number))
    (elsewhere : ∀ other ≠ field, document.decodeField other = .ok (base.get other))
    (outside : number < 0 ∨ 2 ^ bits ≤ number) :
    ofDocument document = .error ⟨[field.home.name, field.key],
      .outOfRange number field.kind.expectation⟩ := by
  have misfit : document.misfit? field =
      some (.outOfRange number field.kind.expectation) := by
    rw [Table.misfit?, here, Kind.decode_outside whole outside]
  have fault := Table.fault?_of_only tables misfit fun other different =>
    Table.misfit?_eq_none_iff.mpr ⟨_, elsewhere other different⟩
  rw [ofDocument, fault]

theorem ofDocument_inside {document : Table} {base : Config} {field : Field} {bits : Nat}
    {number : Int} (tables : document.HasTables) (whole : field.kind = .whole bits)
    (here : document.decodeField field = field.kind.decode (.whole number))
    (elsewhere : ∀ other ≠ field, document.decodeField other = .ok (base.get other))
    (inside : ¬ (number < 0 ∨ 2 ^ bits ≤ number)) :
    ∃ config : Config, config.Replaces field number base ∧ ofDocument document = .ok config := by
  rcases Kind.decode_inside whole inside with ⟨value, decoded, holds⟩
  rw [decoded] at here
  have decodable : ∀ other, ∃ value, document.decodeField other = .ok value := by
    intro other
    by_cases same : other = field
    · subst same
      exact ⟨value, here⟩
    · exact ⟨_, elsewhere other same⟩
  rcases exists_of_decoded tables decodable with ⟨config, configured, values⟩
  refine ⟨config, ⟨?_, ?_⟩, configured⟩
  · rw [Except.ok.inj ((values field).symm.trans here), holds]
  · intro other different
    exact Except.ok.inj ((values other).symm.trans (elsewhere other different))

/-- One override of a field for whole numbers, if its text is no number. -/
theorem resolve_of_unread {document : Table} {assigned : Variable} {field : Field} {bits : Nat}
    (tables : document.HasTables) (named : assigned.field? = some field)
    (whole : field.kind = .whole bits) (unread : WholeNumber.read? assigned.value = none) :
    resolve document [assigned] =
      .error (.overrideFault assigned.name (.unreadable .whole)) := by
  have fault := Override.fault?_of_whole tables named whole
  rw [unread] at fault
  have refused : Override.firstFault? document [assigned] =
      some (assigned.name, .unreadable .whole) := by
    simp [Override.firstFault?, fault]
  rw [resolve, Override.applyAll_of_fault refused]

theorem resolve_of_whole {document : Table} {base : Config} {assigned : Variable} {field : Field}
    {bits : Nat} {number : Int} (tables : document.HasTables)
    (resolved : resolve document [] = .ok base) (named : assigned.field? = some field)
    (whole : field.kind = .whole bits)
    (readAs : WholeNumber.read? assigned.value = some number) :
    (number < 0 ∨ 2 ^ bits ≤ number) ∧
        resolve document [assigned] =
          .error (.wrongType ⟨[field.home.name, field.key],
            .outOfRange number field.kind.expectation⟩) ∨
      number = 0 ∧ resolve document [assigned] = .error (.invalid [⟨field, .notPositive⟩]) ∨
      (0 < number ∧ number < 2 ^ bits) ∧
        ∃ config : Config, config.Replaces field number base ∧
          resolve document [assigned] = .ok config := by
  rcases resolve_eq_ok_iff.mp resolved with ⟨_, ⟨⟩, described, valid⟩
  rcases exists_decodeField_of_whole tables described named whole readAs with
    ⟨overridden, applied, overriddenTables, here, elsewhere⟩
  by_cases outside : number < 0 ∨ 2 ^ bits ≤ number
  · have fault := ofDocument_outside overriddenTables whole here elsewhere outside
    exact .inl ⟨outside, by simp only [resolve, applied, fault]⟩
  · rcases ofDocument_inside overriddenTables whole here elsewhere outside with
      ⟨config, replaces, configured⟩
    have checked : resolve document [assigned] = config.checked := by
      simp only [resolve, applied, configured]
    rw [replaces.checked whole valid] at checked
    rw [not_or, not_lt, not_le] at outside
    by_cases zero : number = 0
    · rw [if_pos zero] at checked
      exact .inr (.inl ⟨zero, checked⟩)
    · rw [if_neg zero] at checked
      exact .inr (.inr ⟨⟨lt_of_le_of_ne outside.1 (Ne.symm zero), outside.2⟩,
        config, replaces, checked⟩)

/-- One override of a field for whole numbers over a document that loads without it. Its
text is refused unless it spells a number of 64 bits with a sign. Of these numbers those
that do not fit the width of the field are of the wrong type, zero is the one rule broken,
and any other number becomes the value of the field and of no other. -/
theorem load_whole {text : String} {document : Table} {base : Config}
    {environment : List Variable} {assigned : Variable} {field : Field} {bits : Nat}
    (read : Toml.read text = .ok document) (tables : document.HasTables)
    (loaded : load text [] = .ok base)
    (only : environment.filter Variable.isOverride = [assigned])
    (named : assigned.field? = some field) (whole : field.kind = .whole bits) :
    (load text environment = .error (.overrideFault assigned.name (.unreadable .whole)) ↔
        ¬ ∃ number, Spells assigned.value.toList number ∧
          -2 ^ 63 ≤ number ∧ number ≤ 2 ^ 63 - 1) ∧
      ∀ number, Spells assigned.value.toList number →
        -2 ^ 63 ≤ number → number ≤ 2 ^ 63 - 1 →
        (load text environment =
            .error (.wrongType ⟨[field.home.name, field.key],
              .outOfRange number field.kind.expectation⟩) ↔
          number < 0 ∨ 2 ^ bits ≤ number) ∧
        (load text environment = .error (.invalid [⟨field, .notPositive⟩]) ↔ number = 0) ∧
        ((∃ config : Config, config.Replaces field number base ∧
            load text environment = .ok config) ↔
          0 < number ∧ number < 2 ^ bits) := by
  rw [← load_filter_isOverride, only, load_of_read read]
  rw [load_of_read read] at loaded
  have spelled : ∀ number, WholeNumber.read? assigned.value = some number ↔
      Spells assigned.value.toList number ∧ -2 ^ 63 ≤ number ∧ number ≤ 2 ^ 63 - 1 :=
    fun number => WholeNumber.read?_eq_some_iff
  simp only [← spelled]
  cases readAs : WholeNumber.read? assigned.value with
  | none =>
      have failed := resolve_of_unread tables named whole readAs
      refine ⟨by simp [failed], fun number spells least greatest => ?_⟩
      have other := (spelled number).mpr ⟨spells, least, greatest⟩
      rw [readAs] at other
      cases other
  | some number =>
      have outcome := resolve_of_whole tables loaded named whole readAs
      constructor
      · rcases outcome with ⟨_, same⟩ | ⟨_, same⟩ | ⟨_, _, _, same⟩ <;> simp [same]
      · intro other spells least greatest
        have read := (spelled other).mpr ⟨spells, least, greatest⟩
        rw [readAs] at read
        cases read
        have width : (0 : Int) < 2 ^ bits := by positivity
        rcases outcome with ⟨outside, same⟩ | ⟨rfl, same⟩ | ⟨inside, config, replaces, same⟩
        · refine ⟨by simp [same, outside], ?_, ?_⟩
          · simp only [same, Except.error.injEq, reduceCtorEq, false_iff]
            omega
          · simp only [same, reduceCtorEq, and_false, exists_false, false_iff]
            omega
        · refine ⟨?_, by simp [same], by simp [same]⟩
          simp only [same, Except.error.injEq, reduceCtorEq, false_iff]
          omega
        · refine ⟨?_, ?_, ?_⟩
          · simp only [same, reduceCtorEq, false_iff]
            omega
          · simp only [same, reduceCtorEq, false_iff]
            omega
          · exact ⟨fun _ => inside, fun _ => ⟨config, replaces, same⟩⟩

def pooled (written : String) : List Variable :=
  [⟨"HOME", "/root"⟩, ⟨"APP__Database__MAX_CONNECTIONS", written⟩]

theorem load_pooled :
    (∃ config : Config,
        config.Replaces .databaseMaxConnections 4294967295 { cache := { connectTimeoutSecs := 9 } } ∧
          load "[cache]\nconnect_timeout_secs = 9\n" (pooled "+004294967295") = .ok config) ∧
      load "[cache]\nconnect_timeout_secs = 9\n" (pooled "4294967296") =
        .error (.wrongType ⟨["database", "max_connections"], .outOfRange 4294967296 "u32"⟩) ∧
      load "[cache]\nconnect_timeout_secs = 9\n" (pooled "-0") =
        .error (.invalid [⟨.databaseMaxConnections, .notPositive⟩]) ∧
      load "[cache]\nconnect_timeout_secs = 9\n" (pooled "9223372036854775808") =
        .error (.overrideFault "APP__Database__MAX_CONNECTIONS" (.unreadable .whole)) := by
  have read : Toml.read "[cache]\nconnect_timeout_secs = 9\n" =
      .ok [("cache", .table [("connect_timeout_secs", .whole 9)])] := by cbv
  have loaded : load "[cache]\nconnect_timeout_secs = 9\n" [] =
      .ok { cache := { connectTimeoutSecs := 9 } } := load_eq_ok (by decide +kernel)
  have addressed : (Override.path? "APP__Database__MAX_CONNECTIONS").bind Override.target? =
      some Field.databaseMaxConnections.target := by decide +kernel
  have named : ∀ written : String, Variable.field? ⟨"APP__Database__MAX_CONNECTIONS", written⟩ =
      some .databaseMaxConnections := fun _ => Variable.field?_eq_some_iff.mpr addressed
  have only : ∀ written : String, (pooled written).filter Variable.isOverride =
      [⟨"APP__Database__MAX_CONNECTIONS", written⟩] := by
    have home : (Override.path? "HOME").isSome = false := by decide +kernel
    have connections : (Override.path? "APP__Database__MAX_CONNECTIONS").isSome = true := by
      decide +kernel
    simp [pooled, Variable.isOverride, home, connections]
  have told := fun written : String => load_whole read (fun chosen => by cases chosen <;> rfl)
    loaded (only written) (named written) rfl
  have spells : ∀ {written : String} {number : Int},
      WholeNumber.read? written = some number → Spells written.toList number :=
    fun read => (WholeNumber.read?_eq_some_iff.mp read).1
  refine ⟨?_, ?_, ?_, ?_⟩
  · exact ((told _).2 4294967295 (spells (by decide +kernel)) (by decide) (by decide)).2.2.mpr
      (by decide)
  · exact ((told _).2 4294967296 (spells (by decide +kernel)) (by decide) (by decide)).1.mpr
      (by decide)
  · exact ((told _).2 0 (spells (by decide +kernel)) (by decide) (by decide)).2.1.mpr rfl
  · refine (told _).1.mpr ?_
    rintro ⟨number, spelled⟩
    have unread : WholeNumber.read? "9223372036854775808" = none := by decide +kernel
    have read := WholeNumber.read?_eq_some_iff.mpr spelled
    rw [unread] at read
    cases read

end Config

end Bringup
