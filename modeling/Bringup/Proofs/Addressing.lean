import Mathlib
import Bringup.Proofs.Overriding

namespace Bringup

/-! Which entry the name of a variable addresses.

Behind the prefix stand the section and the key, divided by the first pair of underscores,
and no further pair follows (`Override.Parts`). Pairs are found from the left and do not
overlap, so of three underscores in a row the last one belongs to the key. This says what
splitting a path finds (`Variable.addresses_iff`). -/

namespace Override

def HasPair (characters : List Char) : Prop := ['_', '_'] <:+: characters

theorem hasPair_cons_iff {first : Char} {rest : List Char} :
    HasPair (first :: rest) ↔ (first = '_' ∧ ∃ tail, rest = '_' :: tail) ∨ HasPair rest := by
  unfold HasPair
  rw [List.infix_cons_iff, List.cons_prefix_cons]
  constructor
  · rintro (⟨rfl, tail, rfl⟩ | inside)
    · exact .inl ⟨rfl, tail, rfl⟩
    · exact .inr inside
  · rintro (⟨rfl, tail, rfl⟩ | inside)
    · exact .inl ⟨rfl, tail, rfl⟩
    · exact .inr inside

theorem not_hasPair_nil : ¬ HasPair [] := by
  simp [HasPair]

theorem exists_first_pair {path : List Char} (pair : HasPair path) :
    ∃ part tail, path = part ++ '_' :: '_' :: tail ∧ ¬ HasPair (part ++ ['_']) := by
  induction path with
  | nil => exact absurd pair not_hasPair_nil
  | cons first rest induction =>
      by_cases here : first = '_' ∧ ∃ tail, rest = '_' :: tail
      · rcases here with ⟨rfl, tail, rfl⟩
        exact ⟨[], tail, rfl, by simp [hasPair_cons_iff, not_hasPair_nil]⟩
      · rcases induction ((hasPair_cons_iff.mp pair).resolve_left here) with
          ⟨part, tail, rfl, before⟩
        refine ⟨first :: part, tail, rfl, ?_⟩
        rw [List.cons_append, hasPair_cons_iff]
        rintro (⟨rfl, other, starts⟩ | inside)
        · -- The part starts with an underscore, or it is empty and its pair follows at once.
          apply here
          cases part with
          | nil => exact ⟨rfl, _, rfl⟩
          | cons next others =>
              cases starts
              exact ⟨rfl, _, rfl⟩
        · exact before inside

theorem splitPath_ne_nil (path : List Char) : splitPath path ≠ [] := by
  unfold splitPath
  split
  · exact List.cons_ne_nil _ _
  · exact List.cons_ne_nil _ _
  · split <;> exact List.cons_ne_nil _ _

theorem splitPath_cons {first : Char} {rest part : List Char} {parts : List (List Char)}
    (apart : ∀ tail, first = '_' → rest = '_' :: tail → False)
    (split : splitPath rest = part :: parts) :
    splitPath (first :: rest) = (first :: part) :: parts := by
  rw [splitPath.eq_3 _ _ apart, split]

theorem splitPath_of_no_pair {path : List Char} (single : ¬ HasPair path) :
    splitPath path = [path] := by
  induction path with
  | nil => rfl
  | cons first rest induction =>
      rw [hasPair_cons_iff, not_or] at single
      exact splitPath_cons (fun tail here next => single.1 ⟨here, tail, next⟩)
        (induction single.2)

theorem splitPath_append {part : List Char} (tail : List Char)
    (single : ¬ HasPair (part ++ ['_'])) :
    splitPath (part ++ '_' :: '_' :: tail) = part :: splitPath tail := by
  induction part with
  | nil => rfl
  | cons first rest induction =>
      rw [List.cons_append, hasPair_cons_iff, not_or] at single
      refine splitPath_cons (fun other here next => single.1 ⟨here, ?_⟩) (induction single.2)
      cases rest with
      | nil => exact ⟨[], rfl⟩
      | cons next others =>
          cases next
          exact ⟨_, rfl⟩

/-- A path with one pair of underscores that divides it into a section and a key. Of more
underscores in a row the first two divide. -/
structure Parts (path sectionName key : List Char) : Prop where
  joined : path = sectionName ++ '_' :: '_' :: key
  first : ¬ HasPair (sectionName ++ ['_'])
  last : ¬ HasPair key

theorem splitPath_eq_pair_iff {path sectionName key : List Char} :
    splitPath path = [sectionName, key] ↔ Parts path sectionName key := by
  constructor
  · intro split
    by_cases pair : HasPair path
    · rcases exists_first_pair pair with ⟨part, tail, rfl, first⟩
      rw [splitPath_append tail first] at split
      rcases List.cons.inj split with ⟨rfl, rest⟩
      by_cases again : HasPair tail
      · rcases exists_first_pair again with ⟨next, others, rfl, second⟩
        rw [splitPath_append others second] at rest
        exact absurd (List.cons.inj rest).2 (splitPath_ne_nil others)
      · rw [splitPath_of_no_pair again] at rest
        cases rest
        exact ⟨rfl, first, again⟩
    · rw [splitPath_of_no_pair pair] at split
      cases split
  · rintro ⟨rfl, first, last⟩
    rw [splitPath_append key first, splitPath_of_no_pair last]

theorem target?_eq_some_iff {path : List Char} {target : Target} :
    target? path = some target ↔
      ∃ sectionName key, Parts path sectionName key ∧ sectionName ≠ [] ∧ key ≠ [] ∧
        target = ⟨fold sectionName, fold key⟩ := by
  simp only [← splitPath_eq_pair_iff]
  unfold target?
  split
  · rename_i sectionName key split
    rw [split]
    cases sectionName <;> cases key <;> simp [eq_comm]
  · rename_i other
    constructor
    · intro found
      cases found
    · rintro ⟨sectionName, key, split, _⟩
      exact absurd split (other sectionName key)

theorem path?_eq_some_iff {name : String} {path : List Char} :
    path? name = some path ↔ name.toList = "APP__".toList ++ path := by
  unfold path?
  split
  · rename_i rest spelled
    rw [spelled]
    simp
  · rename_i other
    constructor
    · intro found
      cases found
    · intro spelled
      exact absurd spelled (other path)

end Override

namespace Variable

open Override (Parts fold)

def HasPath (assigned : Variable) (path : List Char) : Prop :=
  assigned.name.toList = "APP__".toList ++ path

theorem hasPath_iff {assigned : Variable} {path : List Char} :
    assigned.HasPath path ↔ Override.path? assigned.name = some path :=
  Override.path?_eq_some_iff.symm

/-- A variable addresses an entry by its section and key, neither empty and their letters in
any case. -/
inductive Addresses (assigned : Variable) : Target → Prop where
  | parts {path sectionName key : List Char} : assigned.HasPath path →
      Parts path sectionName key → sectionName ≠ [] → key ≠ [] →
      Addresses assigned ⟨fold sectionName, fold key⟩

theorem addresses_iff {assigned : Variable} {target : Target} :
    assigned.Addresses target ↔ assigned.target? = some target := by
  unfold Variable.target?
  simp only [Option.bind_eq_some_iff, ← hasPath_iff, Override.target?_eq_some_iff]
  constructor
  · rintro ⟨named, parts, hasSection, hasKey⟩
    exact ⟨_, named, _, _, parts, hasSection, hasKey, rfl⟩
  · rintro ⟨path, named, sectionName, key, parts, hasSection, hasKey, rfl⟩
    exact .parts named parts hasSection hasKey

end Variable

end Bringup
