import Bringup.Proofs.Rereading

namespace Bringup

namespace Json

/-! Objects in the order of their keys.

A value is sorted if the keys of all its objects stand in order and none is repeated. The reader
gives back sorted values, and they are read back as they are (`Json.sorted_eq`). The value of a
document has the same lists and under every key of an object the last value that is given for
it (`Json.tells_sorted`). -/

/-- Whether the keys of an object are in order, and none is repeated. -/
def hasSortedKeys : Json → Bool
  | object members => members.Pairwise fun first second => first.1 < second.1
  | _ => true

def isSorted (value : Json) : Bool := value.everywhere hasSortedKeys

structure AreSorted (members : List (String × Json)) : Prop where
  keys : members.Pairwise fun first second => first.1 < second.1
  values : ∀ member ∈ members, member.2.isSorted = true

theorem AreSorted.object {members : List (String × Json)} (sorted : AreSorted members) :
    (Json.object members).isSorted = true := by
  rw [isSorted, everywhere, Bool.and_eq_true]
  exact ⟨decide_eq_true sorted.keys, everywhereMembers_iff.mpr sorted.values⟩

theorem mem_insertMember {key : String} {value : Json} {held : List (String × Json)}
    {member : String × Json} (among : member ∈ insertMember key value held) :
    member = (key, value) ∨ member ∈ held := by
  induction held with
  | nil => exact .inl (List.mem_singleton.mp among)
  | cons first rest induction =>
      rw [insertMember] at among
      split at among
      · exact List.mem_cons.mp among
      · split at among
        · rcases List.mem_cons.mp among with same | later
          · exact .inl same
          · exact .inr (.tail _ later)
        · rcases List.mem_cons.mp among with same | later
          · exact .inr (same ▸ .head _)
          · exact (induction later).imp_right (.tail _)

theorem AreSorted.insertMember {held : List (String × Json)} (sorted : AreSorted held)
    {value : Json} (sortedValue : value.isSorted = true) (key : String) :
    AreSorted (insertMember key value held) where
  keys := by
    have keys := sorted.keys
    clear sorted
    induction held with
    | nil => exact List.pairwise_singleton _ _
    | cons first rest induction =>
        rw [List.pairwise_cons] at keys
        rw [Json.insertMember]
        split
        · rename_i before
          refine List.pairwise_cons.mpr ⟨fun member among => ?_, List.pairwise_cons.mpr keys⟩
          rcases List.mem_cons.mp among with rfl | later
          · exact before
          · exact String.lt_trans before (keys.1 member later)
        · rename_i notBefore
          split
          · rename_i same
            rw [same]
            exact List.pairwise_cons.mpr keys
          · rename_i other
            refine List.pairwise_cons.mpr ⟨fun member among => ?_, induction keys.2⟩
            rcases mem_insertMember among with rfl | later
            · exact Std.lt_of_le_of_ne (String.not_lt.mp notBefore) (Ne.symm other)
            · exact keys.1 member later
  values member among := by
    rcases mem_insertMember among with rfl | held
    · exact sortedValue
    · exact sorted.values member held

theorem insertMember_of_last {key : String} {value : Json} {held : List (String × Json)}
    (last : ∀ member ∈ held, member.1 < key) :
    insertMember key value held = held ++ [(key, value)] := by
  induction held with
  | nil => rfl
  | cons first rest induction =>
      rw [List.forall_mem_cons] at last
      have notBefore : ¬ key < first.1 := fun before =>
        String.lt_irrefl _ (String.lt_trans before last.1)
      have other : key ≠ first.1 := by
        intro same
        rw [same] at last
        exact String.lt_irrefl _ last.1
      rw [insertMember, if_neg notBefore, if_neg other, induction last.2]
      rfl

theorem sortMembers_of_sorted {held members : List (String × Json)}
    (keys : (held ++ members).Pairwise fun first second => first.1 < second.1)
    (values : ∀ member ∈ members, member.2.sorted = member.2) :
    sortMembers held members = held ++ members := by
  induction members generalizing held with
  | nil => rw [sortMembers, List.append_nil]
  | cons member rest induction =>
      rw [List.forall_mem_cons] at values
      have last : ∀ other ∈ held, other.1 < member.1 := fun other among =>
        (List.pairwise_append.mp keys).2.2 other among member (.head _)
      rw [sortMembers, values.1, insertMember_of_last last, induction]
      · simp
      · simpa using keys
      · exact values.2

mutual

theorem sorted_eq : ∀ {value : Json}, value.isSorted = true → value.sorted = value
  | .null, _ | .flag _, _ | .whole _, _ | .real _, _ | .text _, _ => rfl
  | .list items, sorted => congrArg Json.list (sortItems_eq sorted)
  | .object members, sorted => by
      rw [isSorted, everywhere, Bool.and_eq_true] at sorted
      have keys : List.Pairwise (fun (first second : String × Json) => first.1 < second.1)
          ([] ++ members) := of_decide_eq_true sorted.1
      rw [Json.sorted, sortMembers_of_sorted keys (values_sorted_eq sorted.2), List.nil_append]

theorem sortItems_eq : ∀ {items : List Json}, everywhereItems hasSortedKeys items = true →
    sortItems items = items
  | [], _ => rfl
  | item :: items, sorted => by
      rw [everywhereItems, Bool.and_eq_true] at sorted
      rw [sortItems, sorted_eq sorted.1, sortItems_eq sorted.2]

theorem values_sorted_eq : ∀ {members : List (String × Json)},
    everywhereMembers hasSortedKeys members = true →
      ∀ member ∈ members, member.2.sorted = member.2
  | [], _, _, among => by cases among
  | (key, value) :: members, sorted, other, among => by
      rw [everywhereMembers, Bool.and_eq_true] at sorted
      rcases List.mem_cons.mp among with same | later
      · rw [same]
        exact sorted_eq sorted.1
      · exact values_sorted_eq sorted.2 other later

end

/-! ## What a document tells -/

/-- The value that a document stands for: its objects are sorted and have under each key the value
of the last member with that key. -/
inductive Tells : Json → Json → Prop
  | null : Tells .null .null
  | flag (isSet : Bool) : Tells (.flag isSet) (.flag isSet)
  | whole (number : Int) : Tells (.whole number) (.whole number)
  | real (number : Binary64) : Tells (.real number) (.real number)
  | text (text : String) : Tells (.text text) (.text text)
  | list {items values : List Json} (each : List.Forall₂ Tells items values) :
      Tells (.list items) (.list values)
  | object {members values : List (String × Json)}
      (keys : values.Pairwise fun first second => first.1 < second.1)
      (last : ∀ key, Option.Rel Tells (members.reverse.lookup key) (values.lookup key)) :
      Tells (.object members) (.object values)

theorem lookup_cons_if (key other : String) (value : Json) (rest : List (String × Json)) :
    ((key, value) :: rest).lookup other = if other = key then some value else rest.lookup other := by
  rw [List.lookup_cons]
  by_cases same : other = key
  · rw [if_pos same, beq_iff_eq.mpr same]
  · rw [if_neg same, beq_eq_false_iff_ne.mpr same]

theorem lookup_insertMember (key other : String) (value : Json) (held : List (String × Json)) :
    (insertMember key value held).lookup other =
      if other = key then some value else held.lookup other := by
  induction held with
  | nil => exact lookup_cons_if key other value []
  | cons first rest induction =>
      rcases first with ⟨held, content⟩
      rw [insertMember]
      split
      · exact lookup_cons_if key other value _
      · split
        · rename_i taken
          rw [lookup_cons_if, lookup_cons_if, taken]
          by_cases same : other = held
          · rw [if_pos same, if_pos same]
          · rw [if_neg same, if_neg same, if_neg same]
        · rename_i apart
          rw [lookup_cons_if, lookup_cons_if, induction]
          by_cases here : other = held
          · have elsewhere : other ≠ key := fun same => apart (same.symm.trans here)
            rw [if_pos here, if_neg elsewhere, if_pos here]
          · rw [if_neg here, if_neg here]

/-- Under each key the last member counts, and what was held before counts where there is none. -/
theorem lookup_sortMembers (other : String) (held members : List (String × Json)) :
    (sortMembers held members).lookup other =
      ((members.reverse.lookup other).map sorted).or (held.lookup other) := by
  induction members generalizing held with
  | nil => simp [sortMembers]
  | cons member rest induction =>
      rcases member with ⟨key, value⟩
      rw [sortMembers, induction, lookup_insertMember, List.reverse_cons, List.lookup_append,
        lookup_cons_if, List.lookup_nil]
      by_cases same : other = key
      · cases rest.reverse.lookup other <;> simp [same]
      · cases rest.reverse.lookup other <;> simp [same]

theorem mem_sortMembers {held members : List (String × Json)} {member : String × Json}
    (among : member ∈ sortMembers held members) :
    member ∈ held ∨ ∃ source ∈ members, member = (source.1, source.2.sorted) := by
  induction members generalizing held with
  | nil => exact .inl among
  | cons first rest induction =>
      rcases induction among with before | ⟨source, later, same⟩
      · rcases mem_insertMember before with same | before
        · exact .inr ⟨first, .head _, same⟩
        · exact .inl before
      · exact .inr ⟨source, .tail _ later, same⟩

theorem AreSorted.sortMembers {held members : List (String × Json)} (before : AreSorted held)
    (sorted : ∀ member ∈ members, member.2.sorted.isSorted = true) :
    AreSorted (sortMembers held members) := by
  induction members generalizing held with
  | nil => exact before
  | cons first rest induction =>
      rw [List.forall_mem_cons] at sorted
      exact induction (before.insertMember sorted.1 first.1) sorted.2

theorem AreSorted.nil : AreSorted [] := ⟨List.Pairwise.nil, fun _ among => by cases among⟩

mutual

theorem isSorted_sorted : ∀ document : Json, document.sorted.isSorted = true
  | .null | .flag _ | .whole _ | .real _ | .text _ => rfl
  | .list items => isSorted_sortItems items
  | .object members => (AreSorted.nil.sortMembers (isSorted_values members)).object

theorem isSorted_sortItems : ∀ items : List Json,
    everywhereItems hasSortedKeys (sortItems items) = true
  | [] => rfl
  | item :: items => by
      rw [sortItems, everywhereItems, isSorted_sortItems items, Bool.and_true]
      exact isSorted_sorted item

theorem isSorted_values : ∀ members : List (String × Json),
    ∀ member ∈ members, member.2.sorted.isSorted = true
  | [], _, among => by cases among
  | (key, value) :: members, other, among => by
      rcases List.mem_cons.mp among with same | later
      · rw [same]
        exact isSorted_sorted value
      · exact isSorted_values members other later

end

theorem relates_lookup {members : List (String × Json)} {key : String}
    (each : ∀ member ∈ members, Tells member.2 member.2.sorted) :
    Option.Rel Tells (members.lookup key) ((members.lookup key).map sorted) := by
  induction members with
  | nil => exact .none
  | cons member rest induction =>
      rw [List.forall_mem_cons] at each
      rw [List.lookup_cons]
      cases key == member.1 with
      | true => exact .some each.1
      | false => exact induction each.2

mutual

theorem tells_sorted : ∀ document : Json, Tells document document.sorted
  | .null => .null
  | .flag isSet => .flag isSet
  | .whole number => .whole number
  | .real number => .real number
  | .text words => .text words
  | .list items => .list (tells_sortItems items)
  | .object members => by
      refine .object (AreSorted.nil.sortMembers (isSorted_values members)).keys fun key => ?_
      rw [lookup_sortMembers, List.lookup_nil, Option.or_none]
      exact relates_lookup fun member among =>
        tells_values members member (List.mem_reverse.mp among)

theorem tells_sortItems : ∀ items : List Json, List.Forall₂ Tells items (sortItems items)
  | [] => .nil
  | item :: items => .cons (tells_sorted item) (tells_sortItems items)

theorem tells_values : ∀ members : List (String × Json),
    ∀ member ∈ members, Tells member.2 member.2.sorted
  | [], _, among => by cases among
  | (key, value) :: members, other, among => by
      rcases List.mem_cons.mp among with same | later
      · rw [same]
        exact tells_sorted value
      · exact tells_values members other later

end

mutual

/-- Sorting nests nothing deeper. -/
theorem depth_sorted_le : ∀ document : Json, document.sorted.depth ≤ document.depth
  | .null | .flag _ | .whole _ | .real _ | .text _ => Nat.le_refl _
  | .list items => Nat.succ_le_succ (depth_sortItems_le items)
  | .object members => by
      refine Nat.succ_le_succ (depthMembers_le fun member among => ?_)
      rcases mem_sortMembers among with before | ⟨source, given, rfl⟩
      · cases before
      · exact depth_values_le members source given

theorem depth_sortItems_le : ∀ items : List Json, depthItems (sortItems items) ≤ depthItems items
  | [] => Nat.le_refl _
  | item :: items => by
      have first := depth_sorted_le item
      have rest := depth_sortItems_le items
      rw [sortItems, depthItems, depthItems]
      omega

theorem depth_values_le : ∀ members : List (String × Json),
    ∀ member ∈ members, member.2.sorted.depth ≤ depthMembers members
  | [], _, among => by cases among
  | (key, value) :: members, other, among => by
      rw [depthMembers]
      rcases List.mem_cons.mp among with same | later
      · rw [same]
        exact Nat.le_trans (depth_sorted_le value) (Nat.le_max_left _ _)
      · exact Nat.le_trans (depth_values_le members other later) (Nat.le_max_right _ _)

end

mutual

theorem isIntegral_sorted : ∀ {document : Json}, document.isIntegral = true →
    document.sorted.isIntegral = true
  | .null, integral | .flag _, integral | .whole _, integral | .real _, integral
  | .text _, integral => integral
  | .list items, integral => isIntegral_sortItems integral
  | .object members, integral => by
      rw [isIntegral, everywhere, Bool.and_eq_true] at integral
      rw [Json.sorted, isIntegral, everywhere, Bool.and_eq_true]
      refine ⟨rfl, everywhereMembers_iff.mpr fun member among => ?_⟩
      rcases mem_sortMembers among with before | ⟨source, given, rfl⟩
      · cases before
      · exact isIntegral_values integral.2 source given

theorem isIntegral_sortItems : ∀ {items : List Json},
    everywhereItems isExactNumber items = true →
      everywhereItems isExactNumber (sortItems items) = true
  | [], _ => rfl
  | item :: items, integral => by
      rw [everywhereItems, Bool.and_eq_true] at integral
      rw [sortItems, everywhereItems, isIntegral_sortItems integral.2, Bool.and_true]
      exact isIntegral_sorted integral.1

theorem isIntegral_values : ∀ {members : List (String × Json)},
    everywhereMembers isExactNumber members = true →
      ∀ member ∈ members, member.2.sorted.isIntegral = true
  | [], _, _, among => by cases among
  | (key, value) :: members, integral, other, among => by
      rw [everywhereMembers, Bool.and_eq_true] at integral
      rcases List.mem_cons.mp among with same | later
      · rw [same]
        exact isIntegral_sorted integral.1
      · exact isIntegral_values integral.2 other later

end

end Json

end Bringup
