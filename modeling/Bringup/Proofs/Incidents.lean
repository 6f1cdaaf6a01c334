import Bringup.Shutdown
import Mathlib.Data.List.Pairwise
import Mathlib.Data.List.TakeWhile
import Mathlib.Tactic.Tauto

namespace Bringup

/-! What happens to families of shutdown handles.

A history tells which handles of which family were opened and dropped, which receivers
subscribed and asked, and when the family was triggered. What a family has to answer follows
from its own part of the history. -/

namespace Shutdown

/-! ## What happens to families -/

inductive Incident where
  | opened (handle : Nat)
  | dropped (handle : Nat)
  | triggered
  | subscribed (receiver : Nat)
  | unsubscribed (receiver : Nat)
  | asked (receiver : Nat)
deriving DecidableEq, Repr

structure Entry where
  family : Nat
  incident : Incident
deriving DecidableEq, Repr

namespace Board

/-- What an act is, and to which family; nothing if its handle or receiver is not there. -/
def entry? (board : Board) : Act → Option Entry
  | .clone handle =>
      (board.family? handle).map fun family => ⟨family, .opened board.handles.length⟩
  | .unrelated handle =>
      (board.family? handle).map fun _ => ⟨board.triggered.length, .opened board.handles.length⟩
  | .drop handle => (board.family? handle).map fun family => ⟨family, .dropped handle⟩
  | .trigger handle => (board.family? handle).map fun family => ⟨family, .triggered⟩
  | .subscribe handle =>
      (board.family? handle).map fun family => ⟨family, .subscribed board.receivers.length⟩
  | .unsubscribe number =>
      (board.receiver? number).map fun receiver => ⟨receiver.family, .unsubscribed number⟩
  | .tryReceive number =>
      (board.receiver? number).map fun receiver => ⟨receiver.family, .asked number⟩

def entries (board : Board) : List Act → List Entry
  | [] => []
  | act :: rest => (board.entry? act).toList ++ (board.perform act).2.entries rest

end Board

def history (acts : List Act) : List Entry := ⟨0, .opened 0⟩ :: Board.entries {} acts

def own (family : Nat) (history : List Entry) : List Incident :=
  (history.filter (·.family = family)).map (·.incident)

example : own 1 (history [.unrelated 0, .subscribe 1, .trigger 0, .subscribe 0, .tryReceive 0]) =
    [.opened 1, .subscribed 0, .asked 0] := by decide

/-! ## What follows from it -/

def Incident.opener? : Incident → Option Nat
  | .opened handle => some handle
  | _ => none

def Incident.subscriber? : Incident → Option Nat
  | .subscribed receiver => some receiver
  | _ => none

def Entry.subscriber? (entry : Entry) : Option Nat := entry.incident.subscriber?

def handlesLeft (own : List Incident) : List Nat :=
  (own.filterMap Incident.opener?).filter fun handle => .dropped handle ∉ own

def receiversLeft (own : List Incident) : List Nat :=
  (own.filterMap Incident.subscriber?).filter fun receiver => .unsubscribed receiver ∉ own

/-- Whether a receiver had subscribed when the family was first triggered, and has not asked
since. -/
def Owed (receiver : Nat) (own : List Incident) : Prop :=
  .triggered ∈ own ∧ .subscribed receiver ∈ own.takeWhile (· ≠ .triggered) ∧
    .asked receiver ∉ own.dropWhile (· ≠ .triggered)

instance (receiver : Nat) (own : List Incident) : Decidable (Owed receiver own) :=
  inferInstanceAs (Decidable (_ ∧ _))

def answer (receiver : Nat) (own : List Incident) : Result :=
  if Owed receiver own then .signal else if handlesLeft own = [] then .closed else .empty

example : answer 0 [.opened 0, .subscribed 0, .asked 0, .triggered, .subscribed 1, .dropped 0] =
    .signal := by decide

example : answer 1 [.opened 0, .subscribed 0, .asked 0, .triggered, .subscribed 1, .dropped 0] =
    .closed := by decide

section

variable {own : List Incident} {number : Nat}

theorem mem_handlesLeft :
    number ∈ handlesLeft own ↔ .opened number ∈ own ∧ .dropped number ∉ own := by
  have opens : number ∈ own.filterMap Incident.opener? ↔ .opened number ∈ own := by
    rw [List.mem_filterMap]
    constructor
    · rintro ⟨incident, member, opens⟩
      cases incident <;> cases opens
      exact member
    · exact fun member => ⟨_, member, rfl⟩
  rw [handlesLeft, List.mem_filter, opens, decide_eq_true_iff]

theorem mem_filterMap_subscriber? :
    number ∈ own.filterMap Incident.subscriber? ↔ .subscribed number ∈ own := by
  rw [List.mem_filterMap]
  constructor
  · rintro ⟨incident, member, subscribes⟩
    cases incident <;> cases subscribes
    exact member
  · exact fun member => ⟨_, member, rfl⟩

theorem mem_receiversLeft :
    number ∈ receiversLeft own ↔ .subscribed number ∈ own ∧ .unsubscribed number ∉ own := by
  rw [receiversLeft, List.mem_filter, mem_filterMap_subscriber?, decide_eq_true_iff]

theorem Owed.subscribed (owed : Owed number own) : .subscribed number ∈ own :=
  (List.takeWhile_sublist _).subset owed.2.1

theorem owed_parted {before since : List Incident} (silent : .triggered ∉ before) :
    Owed number (before ++ .triggered :: since) ↔
      .subscribed number ∈ before ∧ .asked number ∉ since := by
  have passed : ∀ incident ∈ before, decide (incident ≠ .triggered) = true :=
    fun incident member => decide_eq_true fun same => silent (same ▸ member)
  rw [Owed, List.takeWhile_append_of_pos passed, List.dropWhile_append_of_pos passed]
  simp

/-- Only the first trigger makes a receiver owed, and only asking ends it. -/
theorem owed_snoc (incident : Incident) :
    Owed number (own ++ [incident]) ↔
      if incident = .triggered ∧ .triggered ∉ own then .subscribed number ∈ own
      else Owed number own ∧ incident ≠ .asked number := by
  by_cases triggered : .triggered ∈ own
  · rw [if_neg fun first => first.2 triggered]
    rcases List.eq_append_cons_of_mem triggered with ⟨before, since, rfl, silent⟩
    rw [List.append_assoc, List.cons_append, owed_parted silent, owed_parted silent,
      List.mem_append, List.mem_singleton, not_or, and_assoc, ne_comm]
  · by_cases triggers : incident = .triggered
    · subst triggers
      rw [if_pos ⟨rfl, triggered⟩, owed_parted triggered]
      simp
    · rw [if_neg fun first => triggers first.1]
      simp [Owed, triggered, Ne.symm triggers]

/-- A receiver that has asked after the trigger is never owed a signal again. -/
theorem Owed.not_after (owed : Owed number own) (later : List Incident) :
    ¬Owed number (own ++ .asked number :: later) := by
  rcases List.eq_append_cons_of_mem owed.1 with ⟨before, since, rfl, silent⟩
  rw [List.append_assoc, List.cons_append, owed_parted silent]
  simp

end

section

variable {family number : Nat} {history : List Entry} {entry : Entry}

theorem own_snoc : own family (history ++ [entry]) =
    if entry.family = family then own family history ++ [entry.incident]
    else own family history := by
  unfold own
  by_cases here : entry.family = family <;> simp [List.filter_append, here]

theorem own_append (family : Nat) (history later : List Entry) :
    own family (history ++ later) = own family history ++ own family later := by
  simp [own]

theorem own_cons (family : Nat) (incident : Incident) (later : List Entry) :
    own family (⟨family, incident⟩ :: later) = incident :: own family later := by
  simp [own]

theorem mem_own {incident : Incident} :
    incident ∈ own family history ↔ ⟨family, incident⟩ ∈ history := by
  constructor
  · intro member
    rcases List.mem_map.mp member with ⟨entry, kept, rfl⟩
    rcases List.mem_filter.mp kept with ⟨happened, same⟩
    cases of_decide_eq_true same
    exact happened
  · intro member
    exact List.mem_map.mpr ⟨_, List.mem_filter.mpr ⟨member, decide_eq_true rfl⟩, rfl⟩

theorem mem_own_snoc {incident : Incident} :
    incident ∈ own family (history ++ [entry]) ↔
      incident ∈ own family history ∨ entry = ⟨family, incident⟩ := by
  rw [mem_own, mem_own, List.mem_append, List.mem_singleton, eq_comm (b := entry)]

theorem mem_handlesLeft_snoc :
    number ∈ handlesLeft (own family (history ++ [entry])) ↔
      (number ∈ handlesLeft (own family history) ∨
        entry = ⟨family, .opened number⟩ ∧ .dropped number ∉ own family history) ∧
          entry ≠ ⟨family, .dropped number⟩ := by
  simp only [mem_handlesLeft, mem_own_snoc]
  tauto

theorem mem_receiversLeft_snoc :
    number ∈ receiversLeft (own family (history ++ [entry])) ↔
      (number ∈ receiversLeft (own family history) ∨
        entry = ⟨family, .subscribed number⟩ ∧ .unsubscribed number ∉ own family history) ∧
          entry ≠ ⟨family, .unsubscribed number⟩ := by
  simp only [mem_receiversLeft, mem_own_snoc]
  tauto

theorem owed_own_snoc :
    Owed number (own family (history ++ [entry])) ↔
      if entry = ⟨family, .triggered⟩ ∧ .triggered ∉ own family history then
        .subscribed number ∈ own family history
      else Owed number (own family history) ∧ entry ≠ ⟨family, .asked number⟩ := by
  rcases entry with ⟨another, incident⟩
  rw [own_snoc]
  by_cases here : another = family
  · simp [here, owed_snoc]
  · simp [here]

/-- A receiver has one family if no number was given twice. -/
theorem family_unique (distinct : (history.filterMap Entry.subscriber?).Nodup)
    {another : Nat} (first : .subscribed number ∈ own family history)
    (second : .subscribed number ∈ own another history) : family = another := by
  by_contra different
  have symmetric : Std.Symm fun one other : Entry =>
      ∀ number, one.subscriber? = some number →
        ∀ another, other.subscriber? = some another → number ≠ another :=
    ⟨fun _ _ apart _ given _ other => (apart _ other _ given).symm⟩
  have apart := (List.pairwise_filterMap.mp distinct).forall (mem_own.mp first)
    (mem_own.mp second) (by simp [different])
  exact apart number rfl number rfl rfl

theorem distinct_own (distinct : (history.filterMap Entry.subscriber?).Nodup)
    (family : Nat) : ((own family history).filterMap Incident.subscriber?).Nodup := by
  rw [own, List.filterMap_map]
  exact distinct.sublist (List.filter_sublist.filterMap _)

end

end Shutdown

end Bringup
