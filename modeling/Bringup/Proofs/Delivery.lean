import Bringup.Proofs.Broadcast
import Bringup.Proofs.Incidents
import Mathlib.Data.List.Nodup
import Mathlib.Data.List.Perm.Basic

namespace Bringup

/-! A shutdown signal is delivered once.

Boards follow what happens (`Board.Follows`), and hubs tell what boards tell. So the answers of
a family are those that follow from what happened to it, and what happened to other families has
no part in them. -/

namespace Shutdown

/-! ## What acts do -/

namespace Board

variable {board next : Board} {entry : Entry}

inductive Takes (board : Board) : Entry → Board → Prop
  | clones {family handle : Nat} (found : board.family? handle = some family) :
      Takes board ⟨family, .opened board.handles.length⟩
        { board with handles := board.handles ++ [some family] }
  | founds :
      Takes board ⟨board.triggered.length, .opened board.handles.length⟩
        { board with
          triggered := board.triggered ++ [false]
          handles := board.handles ++ [some board.triggered.length] }
  | drops {family handle : Nat} (found : board.family? handle = some family) :
      Takes board ⟨family, .dropped handle⟩
        { board with handles := board.handles.set handle none }
  | triggers {family handle : Nat} (found : board.family? handle = some family) :
      Takes board ⟨family, .triggered⟩ (board.trigger family)
  | subscribes {family handle : Nat} (found : board.family? handle = some family) :
      Takes board ⟨family, .subscribed board.receivers.length⟩
        { board with receivers := board.receivers ++ [some { family }] }
  | unsubscribes {number : Nat} {receiver : Receiver}
      (found : board.receiver? number = some receiver) :
      Takes board ⟨receiver.family, .unsubscribed number⟩
        { board with receivers := board.receivers.set number none }
  | asks {number : Nat} {receiver : Receiver}
      (found : board.receiver? number = some receiver) :
      Takes board ⟨receiver.family, .asked number⟩
        { board with receivers :=
            board.receivers.set number (some { receiver with hasSignal := false }) }

theorem perform_still {act : Act} (nothing : board.entry? act = none) :
    (board.perform act).2 = board := by
  cases act with
  | clone handle | unrelated handle | drop handle | trigger handle | subscribe handle =>
      rw [perform, Option.map_eq_none_iff.mp nothing]
  | tryReceive number => rw [perform, Option.map_eq_none_iff.mp nothing]
  | unsubscribe number =>
      exact congrArg ({ board with receivers := · })
        (set_none_of_absent (Option.map_eq_none_iff.mp nothing))

theorem receive_receivers {number : Nat} {receiver : Receiver}
    (found : board.receiver? number = some receiver) :
    (board.receive number receiver).2 = { board with
      receivers := board.receivers.set number (some { receiver with hasSignal := false }) } := by
  unfold receive
  split
  · rfl
  · rename_i nothing
    have same : board.receivers.set number (some { receiver with hasSignal := false }) =
        board.receivers := by
      rcases List.getElem?_eq_some_iff.mp (Option.join_eq_some_iff.mp found) with ⟨within, stands⟩
      have taken : ({ receiver with hasSignal := false } : Receiver) = receiver := by
        rw [← Bool.eq_false_iff.mpr nothing]
      rw [taken, ← stands, List.set_getElem_self]
    split <;> rw [same]

theorem perform_takes {act : Act} (happened : board.entry? act = some entry) :
    board.Takes entry (board.perform act).2 := by
  cases act with
  | clone handle =>
      rcases Option.map_eq_some_iff.mp happened with ⟨family, found, rfl⟩
      rw [perform, found]
      exact .clones found
  | unrelated handle =>
      rcases Option.map_eq_some_iff.mp happened with ⟨family, found, rfl⟩
      rw [perform, found]
      exact .founds
  | drop handle =>
      rcases Option.map_eq_some_iff.mp happened with ⟨family, found, rfl⟩
      rw [perform, found]
      exact .drops found
  | trigger handle =>
      rcases Option.map_eq_some_iff.mp happened with ⟨family, found, rfl⟩
      rw [perform, found]
      exact .triggers found
  | subscribe handle =>
      rcases Option.map_eq_some_iff.mp happened with ⟨family, found, rfl⟩
      rw [perform, found]
      exact .subscribes found
  | unsubscribe number =>
      rcases Option.map_eq_some_iff.mp happened with ⟨receiver, found, rfl⟩
      exact .unsubscribes found
  | tryReceive number =>
      rcases Option.map_eq_some_iff.mp happened with ⟨receiver, found, rfl⟩
      rw [perform, found]
      exact receive_receivers found ▸ .asks found

/-! ### Readings of changed boards -/

section

variable {entries : List (Option α)} {entry : Option α}

theorem join_set {position : Nat} (within : position < entries.length) (other : Nat) :
    ((entries.set position entry)[other]?).join =
      if other = position then entry else (entries[other]?).join := by
  rw [List.getElem?_set]
  split
  · rename_i same
    rw [if_pos same.symm]
    rfl
  · rename_i different
    rw [if_neg (Ne.symm different)]

theorem join_append (other : Nat) :
    ((entries ++ [entry])[other]?).join =
      if other = entries.length then entry else (entries[other]?).join := by
  rw [List.getElem?_append]
  split
  · rename_i within
    rw [if_neg (Nat.ne_of_lt within)]
  · rename_i past
    have beyond := Nat.le_of_not_lt past
    split
    · rename_i last
      simp [last]
    · rename_i different
      have further : 1 ≤ other - entries.length := by omega
      rw [List.getElem?_eq_none beyond, List.getElem?_eq_none (by simpa using further)]

theorem lt_of_join {position : Nat} {value : α}
    (found : (entries[position]?).join = some value) : position < entries.length :=
  (List.getElem?_eq_some_iff.mp (Option.join_eq_some_iff.mp found)).1

end

/-- The handles are those that were opened and not dropped. -/
structure FollowsHandles (board : Board) (history : List Entry) : Prop where
  bound : ∀ family handle, .opened handle ∈ own family history ∨
    .dropped handle ∈ own family history → handle < board.handles.length
  left : ∀ family handle,
    board.family? handle = some family ↔ handle ∈ handlesLeft (own family history)

structure FollowsFlags (board : Board) (history : List Entry) : Prop where
  families : ∀ entry ∈ history, entry.family < board.triggered.length
  triggered : ∀ family, board.isTriggered family = true ↔ .triggered ∈ own family history

/-- The receivers are those that subscribed and did not unsubscribe, and hold a signal if they
are owed one. -/
structure FollowsReceivers (board : Board) (history : List Entry) : Prop where
  bound : ∀ family number, .subscribed number ∈ own family history ∨
    .unsubscribed number ∈ own family history → number < board.receivers.length
  left : ∀ number receiver, board.receiver? number = some receiver →
    number ∈ receiversLeft (own receiver.family history)
  holds : ∀ family number, number ∈ receiversLeft (own family history) →
    board.receiver? number = some ⟨family, decide (Owed number (own family history))⟩
  distinct : (history.filterMap Entry.subscriber?).Nodup

structure Follows (board : Board) (history : List Entry) : Prop where
  handles : board.FollowsHandles history
  flags : board.FollowsFlags history
  receivers : board.FollowsReceivers history

section

variable {history : List Entry} {family : Nat}

/-! ### Handles -/

theorem FollowsHandles.still {incident : Incident} (follows : board.FollowsHandles history)
    (same : next.handles = board.handles)
    (other : ∀ handle, incident ≠ .opened handle ∧ incident ≠ .dropped handle) :
    next.FollowsHandles (history ++ [⟨family, incident⟩]) where
  bound another handle happened := by
    rw [same]
    refine follows.bound another handle ?_
    simpa [mem_own_snoc, other handle] using happened
  left another handle := by
    rw [family?, same]
    refine (follows.left another handle).trans ?_
    simp [mem_handlesLeft_snoc, other handle]

theorem FollowsHandles.open (follows : board.FollowsHandles history)
    (handles : next.handles = board.handles ++ [some family]) :
    next.FollowsHandles (history ++ [⟨family, .opened board.handles.length⟩]) where
  bound another handle happened := by
    have bound := follows.bound another handle
    rw [handles, List.length_append]
    simp only [mem_own_snoc, Entry.mk.injEq, Incident.opened.injEq, reduceCtorEq, and_false,
      or_false] at happened
    rcases happened with (before | ⟨_, rfl⟩) | before
    · exact Nat.lt_add_right 1 (bound (.inl before))
    · exact Nat.lt_succ_self _
    · exact Nat.lt_add_right 1 (bound (.inr before))
  left another handle := by
    have bound := follows.bound another handle
    rw [family?, handles, join_append]
    by_cases new : handle = board.handles.length
    · subst new
      have unopened : board.handles.length ∉ handlesLeft (own another history) :=
        fun before => Nat.lt_irrefl _ (bound (.inl (mem_handlesLeft.mp before).1))
      have undropped : .dropped board.handles.length ∉ own another history :=
        fun before => Nat.lt_irrefl _ (bound (.inr before))
      rw [if_pos rfl]
      simp [mem_handlesLeft_snoc, unopened, undropped]
    · rw [if_neg new]
      refine (follows.left another handle).trans ?_
      simp [mem_handlesLeft_snoc, Ne.symm new]

theorem FollowsHandles.drop {handle : Nat} (follows : board.FollowsHandles history)
    (found : board.family? handle = some family)
    (handles : next.handles = board.handles.set handle none) :
    next.FollowsHandles (history ++ [⟨family, .dropped handle⟩]) where
  bound another other happened := by
    have bound := follows.bound another other
    rw [handles, List.length_set]
    simp only [mem_own_snoc, Entry.mk.injEq, Incident.dropped.injEq, reduceCtorEq, and_false,
      or_false] at happened
    rcases happened with before | before | ⟨_, rfl⟩
    · exact bound (.inl before)
    · exact bound (.inr before)
    · exact lt_of_join found
  left another other := by
    have knows := follows.left another other
    rw [family?, handles, join_set (lt_of_join found)]
    by_cases same : other = handle
    · subst same
      rw [found, Option.some.injEq] at knows
      rw [if_pos rfl]
      simp [mem_handlesLeft_snoc, ← knows]
    · rw [if_neg same]
      refine knows.trans ?_
      simp [mem_handlesLeft_snoc, Ne.symm same]

/-! ### Flags -/

theorem FollowsFlags.still {incident : Incident} (follows : board.FollowsFlags history)
    (same : ∀ family, next.isTriggered family = board.isTriggered family)
    (within : family < next.triggered.length ∧
      board.triggered.length ≤ next.triggered.length)
    (other : incident ≠ .triggered) :
    next.FollowsFlags (history ++ [⟨family, incident⟩]) where
  families entry member := by
    rcases List.mem_append.mp member with before | last
    · exact Nat.lt_of_lt_of_le (follows.families entry before) within.2
    · cases List.mem_singleton.mp last
      exact within.1
  triggered another := by
    rw [same, follows.triggered, mem_own_snoc]
    simp [other]

/-- A family that is new was not triggered, like one that is not there. -/
theorem isTriggered_append (board : Board) (handles : List (Option Nat)) (family : Nat) :
    ({ board with triggered := board.triggered ++ [false], handles } : Board).isTriggered family =
      board.isTriggered family := by
  simp only [isTriggered, List.getD_eq_getElem?_getD, List.getElem?_append]
  split
  · rfl
  · rename_i past
    rw [List.getElem?_eq_none (Nat.le_of_not_lt past)]
    cases family - board.triggered.length <;> rfl

theorem isTriggered_trigger (within : family < board.triggered.length) (other : Nat) :
    (board.trigger family).isTriggered other = true ↔
      board.isTriggered other = true ∨ family = other := by
  unfold Board.trigger
  split
  · rename_i triggered
    constructor
    · exact .inl
    · rintro (before | rfl)
      · exact before
      · exact triggered
  · rw [isTriggered, List.getD_eq_getElem?_getD, List.getElem?_set]
    by_cases here : family = other
    · simp [here, here ▸ within]
    · simp [here, isTriggered]

theorem FollowsFlags.trigger (follows : board.FollowsFlags history)
    (within : family < board.triggered.length) :
    (board.trigger family).FollowsFlags (history ++ [⟨family, .triggered⟩]) where
  families entry member := by
    have length : (board.trigger family).triggered.length = board.triggered.length := by
      unfold Board.trigger
      split
      · rfl
      · exact List.length_set
    rw [length]
    rcases List.mem_append.mp member with before | last
    · exact follows.families entry before
    · cases List.mem_singleton.mp last
      exact within
  triggered another := by
    rw [isTriggered_trigger within, follows.triggered, mem_own_snoc]
    simp

/-! ### Receivers -/

theorem FollowsReceivers.distinct_snoc {incident : Incident}
    (follows : board.FollowsReceivers history) (none : incident.subscriber? = none) :
    ((history ++ [Entry.mk family incident]).filterMap Entry.subscriber?).Nodup := by
  simpa [Entry.subscriber?, none] using follows.distinct

theorem FollowsReceivers.still {incident : Incident} (follows : board.FollowsReceivers history)
    (same : next.receivers = board.receivers) (silent : incident ≠ .triggered)
    (other : ∀ number, incident ≠ .subscribed number ∧ incident ≠ .unsubscribed number ∧
      incident ≠ .asked number) :
    next.FollowsReceivers (history ++ [⟨family, incident⟩]) where
  bound another number happened := by
    rw [same]
    refine follows.bound another number ?_
    simpa [mem_own_snoc, other number] using happened
  left number receiver found := by
    rw [receiver?, same] at found
    simpa [mem_receiversLeft_snoc, other number] using follows.left number receiver found
  holds another number left := by
    rw [receiver?, same]
    simp only [mem_receiversLeft_snoc, owed_own_snoc, Entry.mk.injEq, silent, other number,
      and_false, false_and, or_false, ne_eq, not_false_eq_true, and_true, if_false] at left ⊢
    exact follows.holds another number left
  distinct := by
    refine follows.distinct_snoc ?_
    cases incident with
    | subscribed number => exact absurd rfl (other number).1
    | _ => rfl

theorem send_family (family : Nat) (receiver : Receiver) :
    (send family receiver).family = receiver.family := by
  unfold send
  split <;> rfl

theorem receiver?_trigger (number : Nat) :
    (board.trigger family).receiver? number =
      if board.isTriggered family then board.receiver? number
      else (board.receiver? number).map (send family) := by
  unfold Board.trigger
  split
  · rfl
  · rw [receiver?, List.getElem?_map, receiver?]
    cases board.receivers[number]? with
    | none => rfl
    | some receiver => cases receiver <;> rfl

theorem FollowsReceivers.trigger (follows : board.FollowsReceivers history)
    (flags : board.FollowsFlags history) :
    (board.trigger family).FollowsReceivers (history ++ [⟨family, .triggered⟩]) where
  bound another number happened := by
    have length : (board.trigger family).receivers.length = board.receivers.length := by
      unfold Board.trigger
      split
      · rfl
      · exact List.length_map _
    rw [length]
    refine follows.bound another number ?_
    simpa [mem_own_snoc] using happened
  left number receiver found := by
    rw [receiver?_trigger] at found
    simp only [mem_receiversLeft_snoc, Entry.mk.injEq, reduceCtorEq, and_false, false_and,
      or_false, ne_eq, not_false_eq_true, and_true]
    split at found
    · exact follows.left number receiver found
    · rcases Option.map_eq_some_iff.mp found with ⟨before, stood, rfl⟩
      rw [send_family]
      exact follows.left number before stood
  holds another number left := by
    simp only [mem_receiversLeft_snoc, Entry.mk.injEq, reduceCtorEq, and_false, false_and,
      or_false, ne_eq, not_false_eq_true, and_true] at left
    have subscribed := (mem_receiversLeft.mp left).1
    have known := flags.triggered family
    rw [receiver?_trigger, follows.holds another number left]
    simp only [owed_own_snoc, Entry.mk.injEq, reduceCtorEq, and_true, and_false, ne_eq,
      not_false_eq_true]
    by_cases here : family = another
    · subst here
      by_cases triggered : board.isTriggered family = true
      · simp [triggered, known.mp triggered]
      · simp [triggered, ← known, subscribed, send]
    · simp [here, send, Ne.symm here]
  distinct := follows.distinct_snoc rfl

theorem FollowsReceivers.subscribe (follows : board.FollowsReceivers history)
    (receivers : next.receivers = board.receivers ++ [some { family := family }]) :
    next.FollowsReceivers (history ++ [⟨family, .subscribed board.receivers.length⟩]) where
  bound another number happened := by
    have bound := follows.bound another number
    rw [receivers, List.length_append]
    simp only [mem_own_snoc, Entry.mk.injEq, Incident.subscribed.injEq, reduceCtorEq, and_false,
      or_false] at happened
    rcases happened with (before | ⟨_, rfl⟩) | before
    · exact Nat.lt_add_right 1 (bound (.inl before))
    · exact Nat.lt_succ_self _
    · exact Nat.lt_add_right 1 (bound (.inr before))
  left number receiver found := by
    rw [receiver?, receivers, join_append] at found
    rw [mem_receiversLeft_snoc]
    split at found
    · rename_i new
      cases found
      subst new
      refine ⟨.inr ⟨rfl, fun before => ?_⟩, by simp⟩
      exact Nat.lt_irrefl _ (follows.bound family _ (.inr before))
    · exact ⟨.inl (follows.left number receiver found), by simp⟩
  holds another number left := by
    rw [receiver?, receivers, join_append]
    simp only [mem_receiversLeft_snoc, owed_own_snoc, Entry.mk.injEq, Incident.subscribed.injEq,
      reduceCtorEq, and_false, false_and, ne_eq, not_false_eq_true, and_true, if_false] at left ⊢
    by_cases new : number = board.receivers.length
    · subst new
      have unknown : .subscribed board.receivers.length ∉ own another history :=
        fun before => Nat.lt_irrefl _ (follows.bound another _ (.inl before))
      have unowed : ¬Owed board.receivers.length (own another history) :=
        fun owed => unknown owed.subscribed
      rcases left with before | ⟨⟨rfl, _⟩, _⟩
      · exact absurd (mem_receiversLeft.mp before).1 unknown
      · simp [unowed]
    · rw [if_neg new]
      rcases left with before | ⟨⟨_, same⟩, _⟩
      · exact follows.holds another number before
      · exact absurd same.symm new
  distinct := by
    rw [List.filterMap_append]
    refine List.nodup_append.mpr ⟨follows.distinct, List.nodup_singleton _, ?_⟩
    intro number before last new same
    cases List.mem_singleton.mp new
    cases same
    rcases List.mem_filterMap.mp before with ⟨⟨family, incident⟩, happened, subscribes⟩
    cases incident <;> cases subscribes
    exact Nat.lt_irrefl _ (follows.bound family _ (.inl (mem_own.mpr happened)))

theorem FollowsReceivers.unsubscribe {number : Nat} {receiver : Receiver}
    (follows : board.FollowsReceivers history)
    (found : board.receiver? number = some receiver)
    (receivers : next.receivers = board.receivers.set number none) :
    next.FollowsReceivers (history ++ [⟨receiver.family, .unsubscribed number⟩]) where
  bound another other happened := by
    have bound := follows.bound another other
    rw [receivers, List.length_set]
    simp only [mem_own_snoc, Entry.mk.injEq, Incident.unsubscribed.injEq, reduceCtorEq,
      and_false, or_false] at happened
    rcases happened with before | before | ⟨_, rfl⟩
    · exact bound (.inl before)
    · exact bound (.inr before)
    · exact lt_of_join found
  left other another stands := by
    rw [receiver?, receivers, join_set (lt_of_join found)] at stands
    split at stands
    · cases stands
    · rename_i different
      rw [mem_receiversLeft_snoc]
      exact ⟨.inl (follows.left other another stands), by simp [Ne.symm different]⟩
  holds another other left := by
    rw [receiver?, receivers, join_set (lt_of_join found)]
    simp only [mem_receiversLeft_snoc, owed_own_snoc, Entry.mk.injEq,
      Incident.unsubscribed.injEq, reduceCtorEq, and_false, false_and, or_false, ne_eq,
      not_false_eq_true, and_true, if_false] at left ⊢
    have stood := follows.holds another other left.1
    by_cases same : other = number
    · subst same
      rw [found] at stood
      cases stood
      exact absurd ⟨rfl, rfl⟩ left.2
    · rw [if_neg same]
      exact stood
  distinct := follows.distinct_snoc rfl

theorem FollowsReceivers.ask {number : Nat} {receiver : Receiver}
    (follows : board.FollowsReceivers history)
    (found : board.receiver? number = some receiver)
    (receivers : next.receivers =
      board.receivers.set number (some { receiver with hasSignal := false })) :
    next.FollowsReceivers (history ++ [⟨receiver.family, .asked number⟩]) where
  bound another other happened := by
    rw [receivers, List.length_set]
    refine follows.bound another other ?_
    simpa [mem_own_snoc] using happened
  left other another stands := by
    rw [receiver?, receivers, join_set (lt_of_join found)] at stands
    simp only [mem_receiversLeft_snoc, Entry.mk.injEq, reduceCtorEq, and_false, false_and,
      or_false, ne_eq, not_false_eq_true, and_true]
    split at stands
    · rename_i same
      subst same
      cases stands
      exact follows.left other receiver found
    · exact follows.left other another stands
  holds another other left := by
    rw [receiver?, receivers, join_set (lt_of_join found)]
    simp only [mem_receiversLeft_snoc, owed_own_snoc, Entry.mk.injEq, Incident.asked.injEq,
      reduceCtorEq, and_false, false_and, or_false, ne_eq, not_false_eq_true, and_true,
      if_false] at left ⊢
    have stood := follows.holds another other left
    by_cases same : other = number
    · subst same
      rw [found] at stood
      cases stood
      simp
    · rw [if_neg same]
      refine stood.trans ?_
      simp [Ne.symm same]
  distinct := follows.distinct_snoc rfl

/-! ### Boards -/

theorem Follows.take (follows : board.Follows history) (takes : board.Takes entry next) :
    next.Follows (history ++ [entry]) := by
  have known : ∀ {family handle}, board.family? handle = some family →
      family < board.triggered.length := by
    intro family handle found
    have opened := (mem_handlesLeft.mp ((follows.handles.left family handle).mp found)).1
    exact follows.flags.families _ (mem_own.mp opened)
  have listened : ∀ {number receiver}, board.receiver? number = some receiver →
      receiver.family < board.triggered.length := by
    intro number receiver found
    have listens := follows.receivers.left number receiver found
    exact follows.flags.families _ (mem_own.mp (mem_receiversLeft.mp listens).1)
  cases takes with
  | clones found =>
      exact ⟨follows.handles.open rfl,
        follows.flags.still (fun _ => rfl) ⟨known found, Nat.le_refl _⟩ (by simp),
        follows.receivers.still rfl (by simp) (by simp)⟩
  | founds =>
      exact ⟨follows.handles.open rfl,
        follows.flags.still (board.isTriggered_append _) (by simp) (by simp),
        follows.receivers.still rfl (by simp) (by simp)⟩
  | drops found =>
      exact ⟨follows.handles.drop found rfl,
        follows.flags.still (fun _ => rfl) ⟨known found, Nat.le_refl _⟩ (by simp),
        follows.receivers.still rfl (by simp) (by simp)⟩
  | triggers found =>
      refine ⟨follows.handles.still ?_ (by simp), follows.flags.trigger (known found),
        follows.receivers.trigger follows.flags⟩
      unfold Board.trigger
      split <;> rfl
  | subscribes found =>
      exact ⟨follows.handles.still rfl (by simp),
        follows.flags.still (fun _ => rfl) ⟨known found, Nat.le_refl _⟩ (by simp),
        follows.receivers.subscribe rfl⟩
  | unsubscribes found =>
      exact ⟨follows.handles.still rfl (by simp),
        follows.flags.still (fun _ => rfl) ⟨listened found, Nat.le_refl _⟩ (by simp),
        follows.receivers.unsubscribe found rfl⟩
  | asks found =>
      exact ⟨follows.handles.still rfl (by simp),
        follows.flags.still (fun _ => rfl) ⟨listened found, Nat.le_refl _⟩ (by simp),
        follows.receivers.ask found rfl⟩

theorem Follows.entries (follows : board.Follows history) (acts : List Act) :
    (board.after acts).Follows (history ++ board.entries acts) := by
  induction acts generalizing board history with
  | nil => rwa [Board.entries, List.append_nil]
  | cons act rest induction =>
      have step : (board.perform act).2.Follows (history ++ (board.entry? act).toList) := by
        cases happened : board.entry? act with
        | none =>
            rw [perform_still happened, Option.toList_none, List.append_nil]
            exact follows
        | some entry => exact follows.take (perform_takes happened)
      rw [Board.entries, ← List.append_assoc]
      exact induction step

theorem follows_initial : Follows {} [⟨0, .opened 0⟩] := by
  refine ⟨⟨?_, ?_⟩, ⟨?_, ?_⟩, ⟨?_, ?_, ?_, ?_⟩⟩
  · intro family handle happened
    have first : family = 0 ∧ handle = 0 := by simpa [mem_own] using happened
    exact first.2 ▸ Nat.zero_lt_one
  · intro family handle
    cases handle with
    | zero => simp [family?, mem_handlesLeft, mem_own, eq_comm]
    | succ handle => simp [family?, mem_handlesLeft, mem_own]
  · intro entry member
    cases List.mem_singleton.mp member
    exact Nat.zero_lt_one
  · intro family
    cases family <;> simp [isTriggered, mem_own]
  · simp [mem_own]
  · intro number receiver found
    cases found
  · simp [mem_receiversLeft, mem_own]
  · decide

theorem follows_after (acts : List Act) : (after {} acts).Follows (Shutdown.history acts) :=
  follows_initial.entries acts

/-! ## Answers -/

theorem countP_eq_length_filter_range (entries : List (Option α)) (test : α → Bool) :
    entries.countP (·.any test) =
      ((List.range entries.length).filter fun position =>
        (entries[position]?).join.any test).length := by
  have listed : entries =
      (List.range entries.length).map fun position => (entries[position]?).join := by
    refine List.ext_getElem (by simp) fun position within _ => ?_
    simp [List.getElem?_eq_getElem within]
  conv_lhs => rw [listed]
  rw [List.countP_map, List.countP_eq_length_filter]
  rfl

theorem Follows.receiverCount (follows : board.Follows history) (family : Nat) :
    board.receiverCount family = (receiversLeft (own family history)).length := by
  rw [Board.receiverCount, countP_eq_length_filter_range]
  refine List.Perm.length_eq ((List.perm_ext_iff_of_nodup ?_ ?_).mpr fun number => ?_)
  · exact List.nodup_range.filter _
  · exact (distinct_own follows.receivers.distinct family).filter _
  · rw [List.mem_filter, List.mem_range]
    constructor
    · rintro ⟨_, there⟩
      cases found : (board.receivers[number]?).join with
      | none =>
          rw [found] at there
          cases there
      | some receiver =>
          rw [found] at there
          exact of_decide_eq_true there ▸ follows.receivers.left number receiver found
    · intro left
      have found := follows.receivers.holds family number left
      refine ⟨lt_of_join found, ?_⟩
      rw [receiver?] at found
      simp [found]

theorem Follows.isOpen (follows : board.Follows history) (family : Nat) :
    board.isOpen family = true ↔ handlesLeft (own family history) ≠ [] := by
  rw [Board.isOpen, List.contains_iff_mem, List.mem_iff_getElem?]
  constructor
  · rintro ⟨handle, stands⟩
    have left := (follows.handles.left family handle).mp (Option.join_eq_some_iff.mpr stands)
    exact List.ne_nil_of_mem left
  · intro occupied
    rcases List.exists_mem_of_ne_nil _ occupied with ⟨handle, left⟩
    exact ⟨handle, Option.join_eq_some_iff.mp ((follows.handles.left family handle).mpr left)⟩

theorem Follows.answers (follows : board.Follows history) {number : Nat}
    (left : number ∈ receiversLeft (own family history)) :
    (board.perform (.tryReceive number)).1 = answer number (own family history) := by
  have opened := follows.isOpen family
  rw [perform, follows.receivers.holds family number left, answer]
  simp only [receive, decide_eq_true_eq]
  by_cases owed : Owed number (own family history)
  · rw [if_pos owed, if_pos owed]
  · rw [if_neg owed, if_neg owed]
    by_cases deserted : handlesLeft (own family history) = []
    · have closed : ¬board.isOpen family = true := fun opens => opened.mp opens deserted
      rw [if_neg closed, if_pos deserted]
    · rw [if_pos (opened.mpr deserted), if_neg deserted]

theorem entries_append (board : Board) (acts later : List Act) :
    board.entries (acts ++ later) = board.entries acts ++ (board.after acts).entries later := by
  induction acts generalizing board with
  | nil => rfl
  | cons act rest induction =>
      rw [List.cons_append, entries, induction, entries, List.append_assoc]
      rfl

theorem Follows.owed (follows : board.Follows history) {number : Nat}
    (told : (board.perform (.tryReceive number)).1 = .signal) :
    ∃ family, number ∈ receiversLeft (own family history) ∧
      Owed number (own family history) := by
  cases found : board.receiver? number with
  | none =>
      rw [perform, found] at told
      cases told
  | some receiver =>
      have left := follows.receivers.left number receiver found
      refine ⟨receiver.family, left, ?_⟩
      by_contra unowed
      rw [follows.answers left, answer, if_neg unowed] at told
      split at told <;> cases told

theorem signal_once {acts : List Act} {number : Nat} (later : List Act)
    (told : ((after {} acts).perform (.tryReceive number)).1 = .signal) :
    ((after {} (acts ++ .tryReceive number :: later)).perform (.tryReceive number)).1 ≠
      .signal := by
  intro again
  rcases (follows_after acts).owed told with ⟨family, left, owed⟩
  rcases (follows_after _).owed again with ⟨another, remaining, still⟩
  have asked : entry? (after {} acts) (.tryReceive number) =
      some ⟨family, .asked number⟩ := by
    rw [ entry?, (follows_after acts).receivers.holds family number left]
    rfl
  have goes : Shutdown.history (acts ++ .tryReceive number :: later) =
      Shutdown.history acts ++ ⟨family, .asked number⟩ ::
        ((after {} acts).perform (.tryReceive number)).2.entries later := by
    rw [Shutdown.history, entries_append, entries, asked]
    rfl
  have same : another = family := by
    refine family_unique (follows_after _).receivers.distinct still.subscribed ?_
    rw [goes, own_append]
    exact List.mem_append_left _ owed.subscribed
  rw [same, goes, own_append, own_cons] at still
  exact owed.not_after _ still

end

end Board

/-! ## Hubs -/

namespace Hub

structure Answers (hub : Hub) (history : List Entry) : Prop where
  handles : ∀ handle family,
    hub.family? handle = some family ↔ handle ∈ handlesLeft (own family history)
  isTriggered : ∀ handle family, hub.family? handle = some family →
    (hub.isTriggered family = true ↔ .triggered ∈ own family history)
  receiverCount : ∀ handle family, hub.family? handle = some family →
    hub.receiverCount family = (receiversLeft (own family history)).length
  tryReceive : ∀ number family, number ∈ receiversLeft (own family history) →
    (hub.perform (.tryReceive number)).1 = .told (answer number (own family history))

/-- Whether two hubs tell the handles and receivers of a family the same. -/
structure SameFor (family : Nat) (first second : Hub) : Prop where
  handles : ∀ handle, first.family? handle = some family ↔ second.family? handle = some family
  overview : ∀ handle, first.family? handle = some family →
    first.isTriggered family = second.isTriggered family ∧
      first.receiverCount family = second.receiverCount family
  tryReceive : ∀ number listener, first.listener? number = some listener →
    listener.family = family →
    (first.perform (.tryReceive number)).1 = (second.perform (.tryReceive number)).1

/-- What is promised to those who perform acts on a hub. -/
structure Delivers (acts : List Act) : Prop where
  /-- Reports and overviews are those of a board with one bit per receiver. -/
  shown : (performAll {} acts).map shown = (Board.performAll {} acts).map Board.shown
  answers : (after {} acts).Answers (history acts)
  /-- A receiver that was told the signal is not told it again. -/
  once : ∀ number later, ((after {} acts).perform (.tryReceive number)).1 = .told .signal →
    ((after {} (acts ++ .tryReceive number :: later)).perform (.tryReceive number)).1 ≠
      .told .signal
  /-- What happens to other families makes no difference. -/
  apart : ∀ others family, own family (history others) = own family (history acts) →
    SameFor family (after {} others) (after {} acts)

theorem after_sound (acts : List Act) :
    (after {} acts).Sound ∧ (after {} acts).board = Board.after {} acts :=
  Sound.initial.after acts

theorem answers_after (acts : List Act) : (after {} acts).Answers (history acts) := by
  rcases after_sound acts with ⟨sound, same⟩
  have follows := Board.follows_after acts
  rw [← same] at follows
  refine ⟨?_, ?_, ?_, ?_⟩
  · exact fun handle family => follows.handles.left family handle
  · intro _ family _
    rw [← board_isTriggered]
    exact follows.flags.triggered family
  · intro handle family found
    rw [← board_receiverCount sound (sound.handles family (mem_handles found))]
    exact follows.receiverCount family
  · intro number family left
    rw [(sound.perform (.tryReceive number)).report, follows.answers left]

theorem Answers.sameFor {first second : Hub} {one other : List Entry} {family : Nat}
    (firstAnswers : first.Answers one) (secondAnswers : second.Answers other)
    (same : own family one = own family other)
    (listens : ∀ number listener, first.listener? number = some listener →
      number ∈ receiversLeft (own listener.family one)) : SameFor family first second := by
  have handles : ∀ handle,
      first.family? handle = some family ↔ second.family? handle = some family := by
    intro handle
    rw [firstAnswers.handles, secondAnswers.handles, same]
  refine ⟨handles, ?_, ?_⟩
  · intro handle found
    have found' := (handles handle).mp found
    refine ⟨?_, ?_⟩
    · rw [Bool.eq_iff_iff, firstAnswers.isTriggered handle family found,
        secondAnswers.isTriggered handle family found', same]
    · rw [firstAnswers.receiverCount handle family found,
        secondAnswers.receiverCount handle family found', same]
  · rintro number listener found rfl
    have left := listens number listener found
    rw [firstAnswers.tryReceive number _ left, same,
      secondAnswers.tryReceive number _ (same ▸ left)]

/-- Whatever is done to shutdown handles and receivers, signals are delivered once. -/
theorem delivers (acts : List Act) : Delivers acts := by
  refine ⟨Sound.initial.performAll acts, answers_after acts, ?_, ?_⟩
  · intro number later told again
    have reads : ∀ acts, ((after {} acts).perform (.tryReceive number)).1 = .told
        ((Board.after {} acts).perform (.tryReceive number)).1 := by
      intro acts
      rcases after_sound acts with ⟨sound, same⟩
      rw [(sound.perform (.tryReceive number)).report, same]
    rw [reads] at told again
    exact Board.signal_once later (Report.told.inj told) (Report.told.inj again)
  · intro others family same
    refine (answers_after others).sameFor (answers_after acts) same ?_
    intro number listener found
    have reading := board_receiver? (after {} others) number
    rw [found, (after_sound others).2] at reading
    exact (Board.follows_after others).receivers.left number _ reading

end Hub

end Shutdown

end Bringup
