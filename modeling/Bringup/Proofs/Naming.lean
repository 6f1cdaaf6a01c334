import Bringup.Proofs.Fields

namespace Bringup

/-! Which field a variable names.

The letters of a name are folded behind its prefix, and folding neither makes nor hides an
underscore. Hence two names that differ in letter case alone address the same entry
(`Variable.Recased.target?_eq`), and each field has a name (`Variable.target?_of_names`). -/

namespace Override

theorem toLower_eq_underscore {character : Char} :
    character.toLower = '_' ↔ character = '_' := by
  unfold Char.toLower
  split
  · rename_i upper
    have least : 65 ≤ character.val.toNat := UInt32.le_iff_toNat_le.mp upper.1
    have greatest : character.val.toNat ≤ 90 := UInt32.le_iff_toNat_le.mp upper.2
    constructor
    · intro folded
      have sum : (character.val + ('a'.val - 'A'.val)).toNat = 95 :=
        congrArg (fun character : Char => character.val.toNat) folded
      rw [UInt32.toNat_add] at sum
      have shift : ('a'.val - 'A'.val).toNat = 32 := rfl
      omega
    · rintro rfl
      have code : '_'.val.toNat = 95 := rfl
      omega
  · exact Iff.rfl

private theorem single_map_toLower {character : Char} {rest : List Char}
    (single : ∀ tail, character = '_' → rest = '_' :: tail → False) (tail : List Char)
    (first : character.toLower = '_') (second : rest.map Char.toLower = '_' :: tail) : False := by
  cases rest with
  | nil => cases second
  | cons next others =>
      have folded : next.toLower = '_' := (List.cons.inj second).1
      rw [toLower_eq_underscore] at first folded
      exact single others first (by rw [folded])

/-- Folding letters does not change where a path is split. -/
theorem splitPath_map_toLower (path : List Char) :
    splitPath (path.map Char.toLower) = (splitPath path).map (List.map Char.toLower) := by
  fun_induction splitPath path with
  | case1 => rfl
  | case2 rest induction =>
      simp only [List.map_cons, show '_'.toLower = '_' from rfl, splitPath, induction]
      rfl
  -- Where no pair of underscores stands, folding the letters does not make one.
  | case3 character rest single split induction =>
      rw [split] at induction
      rw [List.map_cons, splitPath.eq_3 _ _ (single_map_toLower single), induction]
      rfl
  | case4 character rest single part parts split induction =>
      rw [split] at induction
      rw [List.map_cons, splitPath.eq_3 _ _ (single_map_toLower single), induction]
      rfl

def addressed? : List (List Char) → Option Target
  | [sectionName, key] =>
      if sectionName.isEmpty || key.isEmpty then none
      else some ⟨String.ofList sectionName, String.ofList key⟩
  | _ => none

theorem target?_eq_addressed? (path : List Char) :
    target? path = addressed? (splitPath (path.map Char.toLower)) := by
  rw [splitPath_map_toLower]
  unfold target?
  split
  · rename_i sectionName key split
    simp [split, addressed?, fold]
  · rename_i other
    cases parts : splitPath path with
    | nil => rfl
    | cons sectionName rest =>
        cases rest with
        | nil => rfl
        | cons key more =>
            cases more with
            | nil => exact absurd parts (other sectionName key)
            | cons => rfl

end Override

namespace Variable

open Override (path? fault?)

theorem target?_eq_addressed? (assigned : Variable) :
    assigned.target? = ((path? assigned.name).map (List.map Char.toLower)).bind fun folded =>
      Override.addressed? (Override.splitPath folded) := by
  unfold Variable.target?
  cases path? assigned.name with
  | none => rfl
  | some path => exact Override.target?_eq_addressed? path

/-- Two variables that carry the same text under names that differ at most in letter case
behind the prefix; names without the prefix are not told apart. -/
def Recased (first second : Variable) : Prop :=
  first.value = second.value ∧
    (path? first.name).map (List.map Char.toLower) =
      (path? second.name).map (List.map Char.toLower)

instance : DecidableRel Recased :=
  fun _ _ => inferInstanceAs (Decidable (_ ∧ _))

namespace Recased

variable {first second : Variable}

theorem target?_eq (recased : first.Recased second) : first.target? = second.target? := by
  rw [target?_eq_addressed?, target?_eq_addressed?, recased.2]

theorem fault?_eq (recased : first.Recased second) (document : Toml.Table) :
    fault? document first = fault? document second := by
  have targets := recased.target?_eq
  have folded := recased.2
  unfold Variable.target? at targets
  unfold fault?
  cases named : path? first.name with
  | none =>
      rw [named] at folded
      rw [Option.map_eq_none_iff.mp folded.symm]
  | some path =>
      rw [named] at folded targets
      rcases Option.map_eq_some_iff.mp folded.symm with ⟨other, otherNamed, _⟩
      rw [otherNamed, Option.bind_some, Option.bind_some] at targets
      simp only [otherNamed, targets, recased.1]

end Recased

/-! ## Fields by name -/

def field? (assigned : Variable) : Option Field :=
  assigned.target?.bind fun target => Field.named? target.sectionName target.key

theorem field?_eq_some_iff {assigned : Variable} {field : Field} :
    assigned.field? = some field ↔ assigned.target? = some field.target := by
  unfold field?
  simp only [Option.bind_eq_some_iff, Field.named?_eq_some_iff]
  constructor
  · rintro ⟨_, addressed, rfl⟩
    exact addressed
  · intro addressed
    exact ⟨field.target, addressed, rfl⟩

theorem fault?_of_field {assigned : Variable} {field : Field}
    (named : assigned.field? = some field) {document : Toml.Table}
    (tabular : document.isTabular field.home.name = true) :
    fault? document assigned =
      if ((Override.expectation document field.target).read? assigned.value).isNone then
        some (.unreadable (Override.expectation document field.target))
      else none := by
  have inTable : document.isTabular field.target.sectionName = true := tabular
  rw [Override.fault?_of_target? (field?_eq_some_iff.mp named), if_pos inTable]

/-- Whether a variable has the name of a field, in any letter case behind the prefix. -/
def Names (assigned : Variable) (field : Field) : Prop :=
  (path? assigned.name).map (List.map Char.toLower) =
    some (field.home.name ++ "__" ++ field.key).toList

instance (assigned : Variable) (field : Field) : Decidable (assigned.Names field) :=
  inferInstanceAs (Decidable (_ = _))

theorem target?_of_names {assigned : Variable} {field : Field} (names : assigned.Names field) :
    assigned.target? = some field.target := by
  rw [target?_eq_addressed?, names]
  cases field <;> decide +kernel

end Variable

end Bringup
