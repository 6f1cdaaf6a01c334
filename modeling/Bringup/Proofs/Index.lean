import Bringup.Proofs.Meanwhile
import Bringup.Proofs.Readout

namespace Bringup

/-! Where the step of each name stands.

The positions that the manager keeps agree with the list of its steps, so that a name that
leads nowhere is the name of no step, and no two steps bear one name. -/

namespace Manager

def Indexed (manager : Manager) : Prop :=
  ∀ name position, manager.position? name = some position ↔
    (manager.steps.map Step.name)[position]? = some name

theorem Indexed.fresh : Indexed {} := by
  intro name position
  simp [position?]

theorem Indexed.unused {manager : Manager} (indexed : manager.Indexed) {name : String}
    (free : manager.position? name = none) : name ∉ manager.steps.map Step.name := by
  intro member
  rcases List.mem_iff_getElem?.mp member with ⟨position, stands⟩
  rw [(indexed name position).mpr stands] at free
  cases free

theorem Indexed.free {manager : Manager} (indexed : manager.Indexed) {name : String}
    (unused : name ∉ manager.steps.map Step.name) : manager.position? name = none := by
  cases known : manager.position? name with
  | none => rfl
  | some position => exact absurd (List.mem_of_getElem? ((indexed _ _).mp known)) unused

theorem Indexed.position_eq {manager : Manager} (indexed : manager.Indexed)
    {first second : Nat} {step other : Step} (stands : manager.steps[first]? = some step)
    (stood : manager.steps[second]? = some other) (same : step.name = other.name) :
    first = second := by
  have found : manager.position? step.name = some first :=
    (indexed _ _).mpr (by rw [List.getElem?_map, stands]; rfl)
  have again : manager.position? step.name = some second :=
    (indexed _ _).mpr (by rw [List.getElem?_map, stood, same]; rfl)
  exact Option.some.inj (found.symm.trans again)

theorem Indexed.enlist {manager : Manager} (indexed : manager.Indexed) (name : String)
    (action : Action) : (manager.enlist name action).Indexed := by
  cases known : manager.position? name with
  | some position => rwa [enlist_of_taken known]
  | none =>
      rw [enlist_of_free known]
      have unused := indexed.unused known
      intro other position
      rw [position?, List.lookup_cons, List.map_append, List.getElem?_append, List.length_map]
      by_cases same : other = name
      · subst other
        rw [beq_self_eq_true, Option.some.injEq]
        split
        · rename_i inside
          exact ⟨fun last => absurd last (Nat.ne_of_gt inside), fun stands =>
            absurd (List.mem_of_getElem? stands) unused⟩
        · rename_i outside
          rw [List.map_singleton, List.getElem?_singleton]
          split
          · rename_i first
            exact ⟨fun _ => rfl, fun _ => by omega⟩
          · rename_i later
            exact ⟨fun last => by omega, fun stands => by cases stands⟩
      · rw [beq_eq_false_iff_ne.mpr same]
        refine (indexed other position).trans ?_
        split
        · rfl
        · rename_i outside
          rw [List.getElem?_eq_none (by simpa using outside), List.map_singleton,
            List.getElem?_singleton]
          split
          · simp [Ne.symm same]
          · rfl

theorem Indexed.change {manager : Manager} (indexed : manager.Indexed) (position : Nat)
    {transform : Step → Step} (keeps : ∀ step, (transform step).name = step.name) :
    (manager.change position transform).Indexed := by
  intro name other
  rw [show (manager.change position transform).steps.map Step.name = _ from
    names_modify _ _ keeps]
  exact indexed name other

theorem Indexed.inside {manager : Manager} (indexed : manager.Indexed) {name : String}
    {position : Nat} (known : manager.position? name = some position) :
    position < manager.steps.length := by
  have inside := (List.getElem?_eq_some_iff.mp ((indexed name position).mp known)).1
  rwa [List.length_map] at inside

theorem Indexed.nodup {manager : Manager} (indexed : manager.Indexed) :
    (manager.steps.map Step.name).Nodup := by
  refine List.pairwise_iff_getElem.mpr fun first second inside within before same => ?_
  have stands := List.getElem?_eq_getElem inside
  have found := (indexed _ first).mpr stands
  rw [(indexed _ second).mpr (same.symm ▸ List.getElem?_eq_getElem within)] at found
  exact Nat.ne_of_gt before (Option.some.inj found)

theorem Indexed.isInitialized_iff {manager : Manager} (indexed : manager.Indexed)
    (name : String) : manager.isInitialized name = true ↔ ⟨name, true⟩ ∈ manager.status := by
  have named : ∀ {position : Nat} {step : Step}, manager.steps[position]? = some step →
      (manager.position? name = some position ↔ step.name = name) := by
    intro position step stands
    rw [indexed, List.getElem?_map, stands, Option.map_some, Option.some.injEq]
  constructor
  · intro initialized
    unfold isInitialized at initialized
    split at initialized
    · rename_i step found
      rcases Option.bind_eq_some_iff.mp found with ⟨position, known, stands⟩
      refine List.mem_map.mpr ⟨step, List.mem_of_getElem? stands, ?_⟩
      rw [Step.status, (named stands).mp known, initialized]
    · cases initialized
  · intro listed
    rcases List.mem_map.mp listed with ⟨step, member, told⟩
    rcases List.mem_iff_getElem?.mp member with ⟨position, stands⟩
    rcases StepStatus.mk.inj told with ⟨own, completed⟩
    rw [isInitialized, (named stands).mpr own, Option.bind_some, stands]
    exact completed

end Manager

end Bringup
