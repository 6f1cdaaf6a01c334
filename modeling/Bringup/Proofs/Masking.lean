import Mathlib
import Bringup.Proofs.Naming

namespace Bringup

/-! Overrides hide what they replace.

Two documents that differ at one field only are read alike by all overrides, as the type of
a field with a default is known without the document. Once the field is overridden the
documents hold the same everywhere, so loading cannot tell them apart, nor can its errors
(`Config.load_masked`). The one field without a default is read like the entry that it
replaces, and hence hides no more than entries of one type
(`Config.not_masked_number`). -/

namespace Toml.Table

/-- Two documents differ at most in what they hold at one target. Entries are compared by
their outlines, as nothing looks into them. -/
structure AgreeApartFrom (target : Target) (first second : Toml.Table) : Prop where
  tabular : ∀ sectionName, first.isTabular sectionName = second.isTabular sectionName
  entries : ∀ other, other ≠ target →
    (first.at? other).map Outline.of = (second.at? other).map Outline.of

/-- A document with one entry differs from the empty one at that entry only. -/
theorem agreeApartFrom_singleton (target : Target) (value : Value) :
    AgreeApartFrom target [] [(target.sectionName, .table [(target.key, value)])] where
  tabular sectionName := by
    by_cases here : target.sectionName = sectionName <;> simp [isTabular, get?, here]
  entries other different := by
    rcases other with ⟨sectionName, key⟩
    by_cases here : target.sectionName = sectionName
    · have elsewhere : ¬ target.key = key := by
        intro same
        apply different
        rw [← here, ← same]
      simp [at?, get?, here, Value.entry?, elsewhere]
    · simp [at?, get?, here]

theorem hasTables_singleton (field : Field) (value : Value) :
    HasTables [(field.target.sectionName, .table [(field.target.key, value)])] := by
  intro chosen
  have agreed := (agreeApartFrom_singleton field.target value).tabular chosen.name
  rw [← agreed]
  rfl

end Toml.Table

namespace Override

open Toml (Table)

theorem readAlike_of_agree {first second : Table} {field : Field}
    (agree : first.AgreeApartFrom field.target second)
    (typed : field = .databaseTestUrl →
      Expectation.ofEntry (first.at? field.target) =
        Expectation.ofEntry (second.at? field.target)) :
    ReadAlike first second where
  tabular := agree.tabular
  expected target := by
    by_cases here : target = field.target
    · subst target
      by_cases free : field = .databaseTestUrl
      · exact expectation_congr (typed free)
      · rcases Field.exists_defaultToml free with ⟨value, default⟩
        rw [expectation_eq_default default, expectation_eq_default default]
    · exact expectation_congr (Expectation.ofEntry_congr (agree.entries target here))

end Override

namespace Config

open Toml (Table)

/-- Whatever two documents hold for a field, loading them comes to the same once a variable
names the field; for the field without a default the two have to hold values that an
override is read like in the same way. -/
theorem load_masked {field : Field} {environment : List Variable}
    {firstText secondText : String} {first second : Table}
    (readFirst : Toml.read firstText = .ok first)
    (readSecond : Toml.read secondText = .ok second)
    (firstTables : first.HasTables) (secondTables : second.HasTables)
    (agree : first.AgreeApartFrom field.target second)
    (typed : field = .databaseTestUrl →
      Expectation.ofEntry (first.at? field.target) =
        Expectation.ofEntry (second.at? field.target))
    (overridden : ∃ assigned ∈ environment, assigned.field? = some field) :
    load firstText environment = load secondText environment := by
  rw [load_of_read readFirst, load_of_read readSecond]
  have alike := Override.readAlike_of_agree agree typed
  cases faulty : Override.firstFault? first environment with
  | some fault =>
      have sameFault : Override.firstFault? second environment = some fault := by
        rw [← alike.firstFault?_eq, faulty]
      rw [resolve, resolve, Override.applyAll_of_fault faulty,
        Override.applyAll_of_fault sameFault]
  | none =>
      have sameFault : Override.firstFault? second environment = none := by
        rw [← alike.firstFault?_eq, faulty]
      rcases Override.applyAll_of_no_fault faulty with ⟨left, applied, leftAlike, leftHolds⟩
      rcases Override.applyAll_of_no_fault sameFault with
        ⟨right, appliedSecond, rightAlike, rightHolds⟩
      have described : ofDocument left = ofDocument right := by
        apply ofDocument_congr (leftAlike.hasTables firstTables)
          (rightAlike.hasTables secondTables)
        intro other
        rw [leftHolds, rightHolds, alike.expected]
        cases last : Override.lastWritten? environment other.target with
        | some written => rfl
        | none =>
            -- No variable sets this field, so it is not the one that is overridden.
            apply agree.entries
            intro here
            rcases overridden with ⟨assigned, member, named⟩
            have given := Override.isSome_lastWritten? member
              (Variable.field?_eq_some_iff.mp named)
            rw [← here, last] at given
            cases given
      simp only [resolve, applied, appliedSecond, described]

theorem load_masked_entries :
    load "[database]\nmax_connections = 'many'\n"
        [⟨"APP__Database__Max_Connections", "32"⟩] =
      .ok { database := { maxConnections := 32 } } ∧
    load "[database]\ntest_url = '?'\n" [⟨"APP__DATABASE__TEST_URL", "postgres://db/tests"⟩] =
      .ok { database := { testUrl := some "postgres://db/tests" } } := by
  have empty : Toml.read "" = .ok [] := by cbv
  have number : Toml.read "[database]\nmax_connections = 'many'\n" =
      .ok [("database", .table [("max_connections", .text "many")])] := by cbv
  have text : Toml.read "[database]\ntest_url = '?'\n" =
      .ok [("database", .table [("test_url", .text "?")])] := by cbv
  constructor
  · rw [← load_masked empty number (fun _ => rfl)
      (Table.hasTables_singleton .databaseMaxConnections (.text "many"))
      (Table.agreeApartFrom_singleton (Field.target .databaseMaxConnections) _)
      (fun other => by cases other)
      ⟨_, List.mem_singleton_self _, by decide +kernel⟩]
    exact load_eq_ok (by decide +kernel)
  · rw [← load_masked empty text (fun _ => rfl)
      (Table.hasTables_singleton .databaseTestUrl (.text "?"))
      (Table.agreeApartFrom_singleton (Field.target .databaseTestUrl) _) (fun _ => rfl)
      ⟨_, List.mem_singleton_self _, by decide +kernel⟩]
    exact load_eq_ok (by decide +kernel)

/-- A number that the document holds for the field without a default decides how an
override of it is read, so here the override does not hide what the document holds. -/
theorem not_masked_number :
    ¬ ∀ (field : Field) (environment : List Variable) (firstText secondText : String)
      (first second : Table), Toml.read firstText = .ok first →
      Toml.read secondText = .ok second → first.HasTables → second.HasTables →
      first.AgreeApartFrom field.target second →
      (∃ assigned ∈ environment, assigned.field? = some field) →
      load firstText environment = load secondText environment := by
  intro masked
  have told := masked .databaseTestUrl [⟨"APP__DATABASE__TEST_URL", "postgres://db/tests"⟩]
    "" "[database]\ntest_url = 5\n" [] [("database", .table [("test_url", .whole 5)])]
    (by cbv) (by cbv) (fun _ => rfl) (Table.hasTables_singleton .databaseTestUrl (.whole 5))
    (Table.agreeApartFrom_singleton _ _) ⟨_, List.mem_singleton_self _, by decide +kernel⟩
  have outcomes := congrArg (fun result => result.toOption.isSome) told
  exact absurd outcomes (by decide +kernel)

end Config

end Bringup
