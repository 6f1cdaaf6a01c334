import Bringup.Shutdown.Hub
import Mathlib.Data.List.Basic

namespace Bringup

/-! A hub tells what a board tells.

At most one message is ever sent in a family (`Hub.Tallied.sent`), so that a place in its
channel is worth one bit: whether the receiver is still before that message. Read in this way a
hub is a board (`Hub.board`), each act does the same to both, and nobody ever lags behind. -/

namespace Shutdown

def Channel.Keeps (transform : Channel → Channel) : Prop :=
  ∀ channel, (transform channel).capacity = channel.capacity ∧
    (transform channel).sent = channel.sent

/-- An entry that is dropped already, or was never there, is not changed by dropping it. -/
theorem set_none_of_absent {entries : List (Option α)} {number : Nat}
    (absent : (entries[number]?).join = none) : entries.set number none = entries := by
  refine List.ext_getElem? fun position => ?_
  rw [List.getElem?_set]
  split
  · rename_i same
    subst same
    split
    · rename_i within
      rw [List.getElem?_eq_getElem within] at absent ⊢
      exact congrArg some absent.symm
    · rename_i past
      exact (List.getElem?_eq_none (Nat.le_of_not_lt past)).symm
  · rfl

namespace Hub

def sent (hub : Hub) (family : Nat) : Nat := (hub.family family).channel.sent

def receiver (hub : Hub) (listener : Listener) : Receiver where
  family := listener.family
  hasSignal := listener.place < hub.sent listener.family

def board (hub : Hub) : Board where
  triggered := hub.families.map (·.isTriggered)
  handles := hub.handles
  receivers := hub.listeners.map fun listener => listener.map hub.receiver

def isIn (family : Nat) (listener : Option Listener) : Bool :=
  listener.any fun listener => listener.family = family

/-- The counts of a channel are right, and its message is sent by the first trigger. -/
structure Tallied (hub : Hub) (family : Nat) : Prop where
  capacity : (hub.family family).channel.capacity = 1
  sent : hub.sent family ≤ if hub.isTriggered family then 1 else 0
  senders : (hub.family family).channel.senders = hub.handles.count (some family)
  receivers : hub.receiverCount family = hub.listeners.countP (isIn family)

structure Sound (hub : Hub) : Prop where
  tallied : ∀ family < hub.families.length, hub.Tallied family
  handles : ∀ family, some family ∈ hub.handles → family < hub.families.length
  listeners : ∀ listener, some listener ∈ hub.listeners →
    listener.family < hub.families.length ∧ listener.place ≤ hub.sent listener.family

theorem Sound.initial : Sound {} where
  tallied family inside := by
    cases Nat.lt_one_iff.mp inside
    exact ⟨rfl, by decide, rfl, rfl⟩
  handles family member := by
    cases Option.some.inj (List.mem_singleton.mp member)
    exact Nat.zero_lt_one
  listeners listener member := by cases member

variable {hub : Hub}

/-! ## Readings -/

theorem mem_handles {handle family : Nat} (found : hub.family? handle = some family) :
    some family ∈ hub.handles := by
  rw [family?, Option.join_eq_some_iff] at found
  exact List.mem_of_getElem? found

theorem mem_listeners {number : Nat} {listener : Listener}
    (found : hub.listener? number = some listener) : some listener ∈ hub.listeners := by
  rw [listener?, Option.join_eq_some_iff] at found
  exact List.mem_of_getElem? found

theorem board_family? (hub : Hub) (handle : Nat) :
    hub.board.family? handle = hub.family? handle := rfl

theorem board_receiver? (hub : Hub) (number : Nat) :
    hub.board.receiver? number = (hub.listener? number).map hub.receiver := by
  rw [Board.receiver?, board, List.getElem?_map, listener?]
  cases hub.listeners[number]? with
  | none => rfl
  | some listener => cases listener <;> rfl

theorem board_isTriggered (hub : Hub) (family : Nat) :
    hub.board.isTriggered family = hub.isTriggered family := by
  rw [Board.isTriggered, board, isTriggered, Hub.family, List.getD_eq_getElem?_getD,
    List.getElem?_map, List.getD_eq_getElem?_getD]
  cases hub.families[family]? <;> rfl

theorem board_receiverCount (sound : hub.Sound) {family : Nat}
    (inside : family < hub.families.length) :
    hub.board.receiverCount family = hub.receiverCount family := by
  rw [(sound.tallied family inside).receivers, Board.receiverCount, board, List.countP_map]
  congr 1
  funext listener
  cases listener <;> rfl

theorem board_isOpen (sound : hub.Sound) {family : Nat} (inside : family < hub.families.length) :
    hub.board.isOpen family = true ↔ (hub.family family).channel.senders ≠ 0 := by
  rw [Board.isOpen, List.contains_iff_mem, (sound.tallied family inside).senders,
    Nat.ne_zero_iff_zero_lt, List.count_pos_iff]
  rfl

theorem overview_board (sound : hub.Sound) : hub.board.overview = hub.overview := by
  refine List.map_congr_left fun handle member => ?_
  cases handle with
  | none => rfl
  | some family =>
      rw [Option.map_some, Option.map_some, board_isTriggered,
        board_receiverCount sound (sound.handles family member)]

/-! ## Changes to one family -/

theorem family_change {family : Nat} (inside : family < hub.families.length)
    (transform : Family → Family) (other : Nat) :
    (hub.change family transform).family other =
      if other = family then transform (hub.family other) else hub.family other := by
  simp only [Hub.family, change, List.getD_eq_getElem?_getD, List.getElem?_modify]
  split
  · rename_i same
    subst same
    simp [List.getElem?_eq_getElem inside]
  · rename_i different
    simp [Ne.symm different]

/-- What came of a change to one family is sound if that family is counted right, the others
are counted as before and the listeners stand where messages are. -/
theorem Sound.change {next : Hub} {family : Nat} {transform : Family → Family}
    (sound : hub.Sound) (inside : family < hub.families.length)
    (families : next.families = (hub.change family transform).families)
    (own : next.Tallied family)
    (counts : ∀ other, other ≠ family →
      next.handles.count (some other) = hub.handles.count (some other) ∧
        next.listeners.countP (isIn other) = hub.listeners.countP (isIn other))
    (handles : ∀ other, some other ∈ next.handles → other = family ∨ some other ∈ hub.handles)
    (listeners : ∀ listener, some listener ∈ next.listeners →
      (listener.family = family ∨ some listener ∈ hub.listeners) ∧
        listener.place ≤ next.sent listener.family) : next.Sound := by
  have length : next.families.length = hub.families.length := by
    rw [families]
    exact List.length_modify ..
  have same : ∀ other, other ≠ family → next.family other = hub.family other := by
    intro other different
    have changed := family_change inside transform other
    rw [if_neg different] at changed
    rw [← changed, Hub.family, families]
    rfl
  refine ⟨?_, ?_, ?_⟩
  · intro other within
    by_cases here : other = family
    · exact here ▸ own
    · have tallied := sound.tallied other (length ▸ within)
      have counted := counts other here
      refine ⟨?_, ?_, ?_, ?_⟩
      · rw [same other here]
        exact tallied.capacity
      · rw [sent, isTriggered, same other here]
        exact tallied.sent
      · rw [same other here, counted.1]
        exact tallied.senders
      · rw [receiverCount, same other here, counted.2]
        exact tallied.receivers
  · intro other member
    rw [length]
    rcases handles other member with rfl | before
    · exact inside
    · exact sound.handles other before
  · intro listener member
    rcases listeners listener member with ⟨rfl | before, within⟩
    · exact ⟨length ▸ inside, within⟩
    · exact ⟨length ▸ (sound.listeners listener before).1, within⟩

/-! ## Acts that send nothing -/

variable {family : Nat} {transform : Channel → Channel}

theorem sent_onChannel (inside : family < hub.families.length)
    (keeps : Channel.Keeps transform) : (hub.onChannel family transform).sent = hub.sent := by
  funext other
  rw [sent, onChannel, family_change inside]
  split
  · exact (keeps _).2
  · rfl

theorem isTriggered_onChannel (hub : Hub) (family : Nat) (transform : Channel → Channel) :
    (hub.onChannel family transform).families.map (·.isTriggered) =
      hub.families.map (·.isTriggered) := by
  refine List.ext_getElem? fun position => ?_
  simp only [onChannel, change, List.getElem?_map, List.getElem?_modify]
  cases hub.families[position]? with
  | none => rfl
  | some shared => split <;> rfl

theorem receiver_congr {first second : Hub} (same : first.sent = second.sent) :
    first.receiver = second.receiver := by
  funext listener
  rw [receiver, receiver, same]

/-- The own counts after a change of a channel that sends nothing. -/
theorem Tallied.onChannel {handles : List (Option Nat)} {listeners : List (Option Listener)}
    (tallied : hub.Tallied family) (inside : family < hub.families.length)
    (keeps : Channel.Keeps transform)
    (senders : (transform (hub.family family).channel).senders = handles.count (some family))
    (receivers : (transform (hub.family family).channel).receivers =
      listeners.countP (isIn family)) :
    ({ hub.onChannel family transform with handles, listeners } : Hub).Tallied family := by
  have changed : (hub.onChannel family transform).family family =
      (hub.family family).onChannel transform := by
    rw [Hub.onChannel, family_change inside, if_pos rfl]
  refine ⟨?_, ?_, ?_, ?_⟩
  · refine Eq.trans ?_ tallied.capacity
    rw [← (keeps (hub.family family).channel).1]
    exact congrArg (·.channel.capacity) changed
  · have same : (hub.onChannel family transform).isTriggered family =
        hub.isTriggered family := congrArg (·.isTriggered) changed
    have kept : (hub.onChannel family transform).sent family = hub.sent family :=
      congrFun (sent_onChannel inside keeps) family
    have bound := tallied.sent
    rw [← same, ← kept] at bound
    exact bound
  · exact (congrArg (·.channel.senders) changed).trans senders
  · exact (congrArg (·.channel.receivers) changed).trans receivers

theorem board_onChannel (inside : family < hub.families.length)
    (keeps : Channel.Keeps transform) (handles : List (Option Nat))
    (listeners : List (Option Listener)) :
    ({ hub.onChannel family transform with handles, listeners } : Hub).board =
      { hub.board with
        handles
        receivers := listeners.map fun listener => listener.map hub.receiver } := by
  have same : ({ hub.onChannel family transform with handles, listeners } : Hub).receiver =
      hub.receiver := receiver_congr (sent_onChannel inside keeps)
  simp only [board, same, isTriggered_onChannel]

/-! ## Acts on hub and board -/

/-- Whether what an act does to a hub is what an act does to its board. -/
structure Agrees (step : Report × Hub) (counterpart : Result × Board) : Prop where
  report : step.1 = .told counterpart.1
  board : step.2.board = counterpart.2
  sound : step.2.Sound

theorem Agrees.still (sound : hub.Sound) (result : Result) :
    Agrees (.told result, hub) (result, hub.board) := ⟨rfl, rfl, sound⟩

theorem Sound.withHandle {handle : Nat} {use : Nat → Result × Hub}
    {counterpart : Nat → Result × Board} (sound : hub.Sound)
    (agrees : ∀ family, hub.family? handle = some family → family < hub.families.length →
      Agrees (.told (use family).1, (use family).2) (counterpart family)) :
    Agrees (hub.withHandle handle use)
      (match hub.board.family? handle with
      | none => (.noHandle, hub.board)
      | some family => counterpart family) := by
  rw [board_family?, Hub.withHandle]
  cases found : hub.family? handle with
  | none => exact .still sound .noHandle
  | some family => exact agrees family found (sound.handles family (mem_handles found))

/-- Listeners that stood at messages still do if no channel has gone on. -/
theorem Sound.places {next : Hub} (sound : hub.Sound) (same : next.sent = hub.sent)
    {listener : Listener} (member : some listener ∈ hub.listeners) :
    listener.place ≤ next.sent listener.family := by
  rw [same]
  exact (sound.listeners listener member).2

theorem Sound.clone (sound : hub.Sound) (handle : Nat) :
    Agrees (hub.perform (.clone handle)) (hub.board.perform (.clone handle)) := by
  refine sound.withHandle fun family found inside => ?_
  have keeps : Channel.Keeps .addSender := fun channel => ⟨rfl, rfl⟩
  have tallied := sound.tallied family inside
  refine ⟨rfl, board_onChannel inside keeps _ _, ?_⟩
  refine sound.change inside rfl (tallied.onChannel inside keeps ?_ ?_) ?_ ?_ ?_
  · rw [List.count_append, ← tallied.senders]
    simp [Channel.addSender]
  · exact tallied.receivers
  · intro other different
    exact ⟨by simp [List.count_append, different.symm], rfl⟩
  · intro other member
    rcases List.mem_append.mp member with before | last
    · exact .inr before
    · exact .inl (Option.some.inj (List.mem_singleton.mp last))
  · intro listener member
    exact ⟨.inr member, sound.places (sent_onChannel inside keeps) member⟩

theorem Sound.drop (sound : hub.Sound) (handle : Nat) :
    Agrees (hub.perform (.drop handle)) (hub.board.perform (.drop handle)) := by
  refine sound.withHandle fun family found inside => ?_
  have keeps : Channel.Keeps .dropSender := fun channel => ⟨rfl, rfl⟩
  have tallied := sound.tallied family inside
  have stands := Option.join_eq_some_iff.mp found
  rcases List.getElem?_eq_some_iff.mp stands with ⟨within, held⟩
  refine ⟨rfl, board_onChannel inside keeps _ _, ?_⟩
  refine sound.change inside rfl (tallied.onChannel inside keeps ?_ ?_) ?_ ?_ ?_
  · simp [List.count_set within, held, Channel.dropSender, tallied.senders]
  · exact tallied.receivers
  · intro other different
    exact ⟨by simp [List.count_set within, held, different.symm], rfl⟩
  · intro other member
    rcases List.mem_or_eq_of_mem_set member with before | new
    · exact .inr before
    · cases new
  · intro listener member
    exact ⟨.inr member, sound.places (sent_onChannel inside keeps) member⟩

theorem Sound.subscribe (sound : hub.Sound) (handle : Nat) :
    Agrees (hub.perform (.subscribe handle)) (hub.board.perform (.subscribe handle)) := by
  refine sound.withHandle fun family found inside => ?_
  have keeps : Channel.Keeps .subscribe := fun channel => ⟨rfl, rfl⟩
  have tallied := sound.tallied family inside
  refine ⟨?_, ?_, ?_⟩
  · simp [board]
  · refine (board_onChannel inside keeps hub.handles _).trans ?_
    simp [board, receiver, sent]
  refine sound.change inside rfl (tallied.onChannel inside keeps ?_ ?_) ?_ ?_ ?_
  · exact tallied.senders
  · rw [List.countP_append, ← tallied.receivers]
    simp [Channel.subscribe, isIn, receiverCount]
  · intro other different
    exact ⟨rfl, by simp [isIn, different.symm]⟩
  · exact fun other member => .inr member
  · intro listener member
    rcases List.mem_append.mp member with before | last
    · exact ⟨.inr before, sound.places (sent_onChannel inside keeps) before⟩
    · cases Option.some.inj (List.mem_singleton.mp last)
      exact ⟨.inl rfl, Nat.le_of_eq (congrFun (sent_onChannel inside keeps) family).symm⟩

theorem Sound.withListener {number : Nat} {missing : Result} {use : Listener → Report × Hub}
    {counterpart : Result × Board} (sound : hub.Sound)
    (absent : hub.listener? number = none → counterpart = (missing, hub.board))
    (agrees : ∀ listener, hub.listener? number = some listener →
      Agrees (use listener) counterpart) :
    Agrees (hub.withListener number missing use) counterpart := by
  unfold Hub.withListener
  cases found : hub.listener? number with
  | none =>
      rw [absent found]
      exact .still sound missing
  | some listener => exact agrees listener found

theorem Sound.unsubscribe (sound : hub.Sound) (number : Nat) :
    Agrees (hub.perform (.unsubscribe number)) (hub.board.perform (.unsubscribe number)) := by
  refine sound.withListener ?_ fun listener found => ?_
  · intro absent
    have same : hub.board.receivers.set number none = hub.board.receivers := by
      refine set_none_of_absent ?_
      have reading := hub.board_receiver? number
      rwa [absent] at reading
    rw [Board.perform, same]
  have member := mem_listeners found
  have inside := (sound.listeners listener member).1
  have keeps : Channel.Keeps .unsubscribe := fun channel => ⟨rfl, rfl⟩
  have tallied := sound.tallied listener.family inside
  have stands := Option.join_eq_some_iff.mp found
  rcases List.getElem?_eq_some_iff.mp stands with ⟨within, held⟩
  refine ⟨rfl, ?_, ?_⟩
  · refine (board_onChannel inside keeps hub.handles _).trans ?_
    simp [Board.perform, board, List.map_set]
  refine sound.change inside rfl (tallied.onChannel inside keeps ?_ ?_) ?_ ?_ ?_
  · exact tallied.senders
  · rw [List.countP_set within, ← tallied.receivers, held]
    simp [Channel.unsubscribe, isIn, receiverCount]
  · intro other different
    exact ⟨rfl, by simp [List.countP_set within, held, isIn, different.symm]⟩
  · exact fun other member => .inr member
  · intro other member
    rcases List.mem_or_eq_of_mem_set member with before | new
    · exact ⟨.inr before, sound.places (sent_onChannel inside keeps) before⟩
    · cases new

/-! ## A family of its own -/

/-- A number that no family has reads as that of a new family. -/
theorem family_append (hub : Hub) (handles : List (Option Nat)) :
    ({ hub with families := hub.families ++ [{}], handles } : Hub).family = hub.family := by
  funext number
  simp only [Hub.family, List.getD_eq_getElem?_getD, List.getElem?_append]
  split
  · rfl
  · rename_i past
    rw [List.getElem?_eq_none (Nat.le_of_not_lt past)]
    cases number - hub.families.length <;> rfl

theorem Sound.unrelated (sound : hub.Sound) (handle : Nat) :
    Agrees (hub.perform (.unrelated handle)) (hub.board.perform (.unrelated handle)) := by
  refine sound.withHandle fun _ _ _ => ?_
  have same := hub.family_append (hub.handles ++ [some hub.families.length])
  have kept : ({ hub with
      families := hub.families ++ [{}]
      handles := hub.handles ++ [some hub.families.length] } : Hub).sent = hub.sent := by
    funext family
    rw [sent, same, sent]
  refine ⟨rfl, ?_, ?_, ?_, ?_⟩
  · simp [board, receiver_congr kept]
  · intro family inside
    rw [List.length_append] at inside
    rcases Nat.lt_succ_iff_lt_or_eq.mp inside with before | rfl
    · have tallied := sound.tallied family before
      refine ⟨?_, ?_, ?_, ?_⟩
      · rw [same]
        exact tallied.capacity
      · rw [kept, isTriggered, same]
        exact tallied.sent
      · rw [same, tallied.senders]
        simp [Nat.ne_of_gt before]
      · rw [receiverCount, same]
        exact tallied.receivers
    · have fresh : hub.family hub.families.length = {} := by simp [Hub.family]
      refine ⟨?_, ?_, ?_, ?_⟩
      · rw [same, fresh]
      · rw [kept, sent, fresh]
        exact Nat.zero_le _
      · have none : hub.handles.count (some hub.families.length) = 0 :=
          List.count_eq_zero.mpr fun member => Nat.lt_irrefl _ (sound.handles _ member)
        simp [same, fresh, none]
      · rw [receiverCount, same, fresh]
        refine (List.countP_eq_zero.mpr fun listener member within => ?_).symm
        cases listener with
        | none => cases within
        | some listener =>
            have inside := (sound.listeners listener member).1
            rw [of_decide_eq_true within] at inside
            exact Nat.lt_irrefl _ inside
  · intro family member
    rw [List.length_append]
    rcases List.mem_append.mp member with before | last
    · exact Nat.lt_add_right 1 (sound.handles family before)
    · cases Option.some.inj (List.mem_singleton.mp last)
      exact Nat.lt_succ_self _
  · intro listener member
    rw [List.length_append]
    exact ⟨Nat.lt_add_right 1 (sound.listeners listener member).1, sound.places kept member⟩

/-! ## Sending and receiving -/

theorem change_of_fixed {family : Nat} {transform : Family → Family}
    (inside : family < hub.families.length)
    (fixed : transform (hub.family family) = hub.family family) :
    hub.change family transform = hub := by
  have same : hub.families.modify family transform = hub.families := by
    refine List.ext_getElem? fun position => ?_
    rw [List.getElem?_modify]
    by_cases here : family = position
    · subst here
      have stands : hub.families[family]? = some (hub.family family) := by
        simp [Hub.family, List.getElem?_eq_getElem inside]
      simp [stands, fixed]
    · simp [here]
  rw [change, same]

theorem isTriggered_trigger (shared : Family) : shared.trigger.isTriggered = true := by
  unfold Family.trigger
  split
  · assumption
  · rfl

theorem Sound.firstTrigger (sound : hub.Sound) {family : Nat}
    (inside : family < hub.families.length) (first : hub.isTriggered family = false) :
    (hub.change family .trigger).board = hub.board.trigger family ∧
      (hub.change family .trigger).Sound := by
  have tallied := sound.tallied family inside
  have silent : hub.sent family = 0 := by
    have bound := tallied.sent
    rw [first] at bound
    exact Nat.le_zero.mp bound
  have changed : (hub.change family .trigger).family family =
      { channel := (hub.family family).channel.send, isTriggered := true } := by
    rw [family_change inside, if_pos rfl, Family.trigger]
    exact if_neg (by rw [← isTriggered, first]; exact Bool.false_ne_true)
  have others : ∀ other, other ≠ family →
      (hub.change family .trigger).sent other = hub.sent other := by
    intro other different
    rw [sent, family_change inside, if_neg different, sent]
  have own : (hub.change family .trigger).sent family =
      if hub.receiverCount family = 0 then 0 else 1 := by
    rw [sent, changed, Channel.send, receiverCount]
    split
    · exact silent
    · exact congrArg (· + 1) silent
  have heard : ∀ listener, some listener ∈ hub.listeners →
      (hub.change family .trigger).receiver listener =
        Board.send family (hub.receiver listener) := by
    intro listener member
    by_cases here : listener.family = family
    · have place := (sound.listeners listener member).2
      rw [here, silent] at place
      have counted : hub.receiverCount family ≠ 0 := by
        rw [tallied.receivers]
        exact Nat.ne_of_gt (List.countP_pos_iff.mpr ⟨_, member, decide_eq_true here⟩)
      rw [if_neg counted] at own
      simp [receiver, Board.send, here, own, Nat.le_zero.mp place]
    · simp [receiver, Board.send, here, others listener.family here]
  refine ⟨?_, ?_⟩
  · have untriggered : ¬hub.board.isTriggered family = true := by
      rw [board_isTriggered, first]
      exact Bool.false_ne_true
    have flags : (hub.families.modify family .trigger).map (·.isTriggered) =
        (hub.families.map (·.isTriggered)).set family true := by
      refine List.ext_getElem? fun position => ?_
      simp only [List.getElem?_map, List.getElem?_modify, List.getElem?_set, List.length_map]
      by_cases here : family = position
      · subst here
        simp [inside, isTriggered_trigger]
      · simp [here]
    have receivers : hub.listeners.map (Option.map (hub.change family .trigger).receiver) =
        (hub.listeners.map (Option.map hub.receiver)).map (Option.map (Board.send family)) := by
      rw [List.map_map]
      refine List.map_congr_left fun listener member => ?_
      cases listener with
      | none => rfl
      | some listener => exact congrArg some (heard listener member)
    rw [Board.trigger, if_neg untriggered]
    exact congr (congrArg (Board.mk · hub.handles ·) flags) receivers
  · refine sound.change inside rfl ⟨?_, ?_, ?_, ?_⟩ ?_ ?_ ?_
    · rw [changed, Channel.send]
      split <;> exact tallied.capacity
    · rw [own, isTriggered, changed, if_pos rfl]
      split <;> decide
    · rw [changed, Channel.send]
      split <;> exact tallied.senders
    · rw [receiverCount, changed, Channel.send]
      split <;> exact tallied.receivers
    · exact fun other _ => ⟨rfl, rfl⟩
    · exact fun other member => .inr member
    · intro listener member
      refine ⟨.inr member, ?_⟩
      have place := (sound.listeners listener member).2
      by_cases here : listener.family = family
      · rw [here, silent] at place
        exact Nat.le_trans place (Nat.zero_le _)
      · rwa [others listener.family here]

theorem Sound.trigger (sound : hub.Sound) (handle : Nat) :
    Agrees (hub.perform (.trigger handle)) (hub.board.perform (.trigger handle)) := by
  refine sound.withHandle fun family _ inside => ?_
  cases known : hub.isTriggered family with
  | false =>
      have triggered := sound.firstTrigger inside known
      exact ⟨rfl, triggered.1, triggered.2⟩
  | true =>
      have still : hub.change family .trigger = hub :=
        change_of_fixed inside (if_pos known)
      have same : hub.board.trigger family = hub.board :=
        if_pos ((hub.board_isTriggered family).trans known)
      rw [same]
      exact ⟨rfl, congrArg board still, still.symm ▸ sound⟩

theorem countP_set_same {entries : List α} {test : α → Bool} {position : Nat} {entry : α}
    (within : position < entries.length) (same : test entry = test entries[position]) :
    (entries.set position entry).countP test = entries.countP test := by
  have flags : (entries.set position entry).map test = entries.map test := by
    rw [List.map_set, same, ← List.getElem_map test (h := by simpa using within),
      List.set_getElem_self]
  have counted : ∀ entries : List α, entries.countP test = (entries.map test).countP id := by
    intro entries
    rw [List.countP_map]
    rfl
  rw [counted, flags, ← counted]

/-- A receiver that is behind all messages finds none. -/
theorem Sound.receive_nothing (sound : hub.Sound) {number : Nat} {listener : Listener}
    (found : hub.listener? number = some listener)
    (taken : listener.place = hub.sent listener.family) :
    Agrees (hub.receive number listener)
      (hub.board.receive number (hub.receiver listener)) := by
  have inside := (sound.listeners listener (mem_listeners found)).1
  have opened := board_isOpen sound inside
  rcases List.getElem?_eq_some_iff.mp (Option.join_eq_some_iff.mp found) with ⟨within, held⟩
  have back : hub.listeners.set number (some listener) = hub.listeners := by
    rw [← held]
    exact List.set_getElem_self within
  have reception : (hub.family listener.family).channel.receive listener.place =
      (if (hub.family listener.family).channel.senders = 0 then .closed else .empty,
        listener.place) := if_pos taken
  have received : hub.receive number listener =
      (if (hub.family listener.family).channel.senders = 0 then .told .closed
        else .told .empty, hub) := by
    simp only [Hub.receive, reception, back]
    split <;> rfl
  have nothing : (hub.receiver listener).hasSignal = false := by simp [receiver, taken]
  rw [received, Board.receive, nothing]
  split
  · rename_i deserted
    have closed : hub.board.isOpen (hub.receiver listener).family = false :=
      Bool.eq_false_iff.mpr fun opens => opened.mp opens deserted
    rw [closed]
    exact .still sound .closed
  · rename_i occupied
    have opens : hub.board.isOpen (hub.receiver listener).family = true := opened.mpr occupied
    rw [opens]
    exact .still sound .empty

/-- A receiver that is before the only message of its family takes it. -/
theorem Sound.receive_message (sound : hub.Sound) {number : Nat} {listener : Listener}
    (found : hub.listener? number = some listener) (place : listener.place = 0)
    (messages : hub.sent listener.family = 1) :
    Agrees (hub.receive number listener)
      (hub.board.receive number (hub.receiver listener)) := by
  have inside := (sound.listeners listener (mem_listeners found)).1
  have tallied := sound.tallied listener.family inside
  rcases List.getElem?_eq_some_iff.mp (Option.join_eq_some_iff.mp found) with ⟨within, held⟩
  have reception : (hub.family listener.family).channel.receive listener.place =
      (.message, 1) := by
    have sent : (hub.family listener.family).channel.sent = 1 := messages
    simp [Channel.receive, place, sent, tallied.capacity]
  have waiting : (hub.receiver listener).hasSignal = true := by
    simp [receiver, place, messages]
  have counts : ∀ family, (hub.listeners.set number (some { listener with place := 1 })).countP
      (isIn family) = hub.listeners.countP (isIn family) := by
    intro family
    refine countP_set_same within ?_
    rw [held]
    rfl
  rw [Hub.receive, reception, Board.receive, waiting]
  refine ⟨rfl, ?_, ?_⟩
  · have same : ∀ listeners, ({ hub with listeners } : Hub).receiver = hub.receiver :=
      fun _ => receiver_congr rfl
    simp [board, same, List.map_set, receiver, messages]
  · have unchanged : hub.families = (hub.change listener.family id).families :=
      (List.modify_id ..).symm
    refine sound.change inside unchanged ?_ ?_ ?_ ?_
    · exact ⟨tallied.capacity, tallied.sent, tallied.senders,
        tallied.receivers.trans (counts listener.family).symm⟩
    · exact fun other _ => ⟨rfl, counts other⟩
    · exact fun other member => .inr member
    · intro other member
      rcases List.mem_or_eq_of_mem_set member with before | new
      · exact ⟨.inr before, (sound.listeners other before).2⟩
      · cases Option.some.inj new
        exact ⟨.inl rfl, Nat.le_of_eq messages.symm⟩

theorem Sound.receive (sound : hub.Sound) {number : Nat} {listener : Listener}
    (found : hub.listener? number = some listener) :
    Agrees (hub.receive number listener)
      (hub.board.receive number (hub.receiver listener)) := by
  rcases sound.listeners listener (mem_listeners found) with ⟨inside, place⟩
  by_cases taken : listener.place = hub.sent listener.family
  · exact sound.receive_nothing found taken
  · have bound := (sound.tallied listener.family inside).sent
    have first : listener.place = 0 ∧ hub.sent listener.family = 1 := by
      split at bound <;> omega
    exact sound.receive_message found first.1 first.2

theorem Sound.tryReceive (sound : hub.Sound) (number : Nat) :
    Agrees (hub.perform (.tryReceive number)) (hub.board.perform (.tryReceive number)) := by
  have reading := hub.board_receiver? number
  refine sound.withListener ?_ fun listener found => ?_
  · intro absent
    rw [absent] at reading
    rw [Board.perform, reading]
    rfl
  · rw [found] at reading
    rw [Board.perform, reading]
    exact sound.receive found

theorem Sound.perform (sound : hub.Sound) (act : Act) :
    Agrees (hub.perform act) (hub.board.perform act) := by
  cases act with
  | clone handle => exact sound.clone handle
  | unrelated handle => exact sound.unrelated handle
  | drop handle => exact sound.drop handle
  | trigger handle => exact sound.trigger handle
  | subscribe handle => exact sound.subscribe handle
  | unsubscribe number => exact sound.unsubscribe number
  | tryReceive number => exact sound.tryReceive number

/-! ## Runs -/

def shown (step : Report × Hub) : Report × List (Option (Bool × Nat)) := (step.1, step.2.overview)

def after (hub : Hub) (acts : List Act) : Hub :=
  acts.foldl (fun hub act => (hub.perform act).2) hub

end Hub

namespace Board

def shown (step : Result × Board) : Report × List (Option (Bool × Nat)) :=
  (.told step.1, step.2.overview)

def after (board : Board) (acts : List Act) : Board :=
  acts.foldl (fun board act => (board.perform act).2) board

end Board

namespace Hub

variable {hub : Hub}

theorem Sound.performAll (sound : hub.Sound) (acts : List Act) :
    (hub.performAll acts).map shown = (hub.board.performAll acts).map Board.shown := by
  induction acts generalizing hub with
  | nil => rfl
  | cons act rest induction =>
      have agrees := sound.perform act
      have same : shown (hub.perform act) = Board.shown (hub.board.perform act) := by
        rw [shown, Board.shown, agrees.report, ← agrees.board, overview_board agrees.sound]
      simp only [Hub.performAll, Board.performAll, List.map_cons, same, induction agrees.sound,
        agrees.board]

theorem Sound.after (sound : hub.Sound) (acts : List Act) :
    (hub.after acts).Sound ∧ (hub.after acts).board = hub.board.after acts := by
  induction acts generalizing hub with
  | nil => exact ⟨sound, rfl⟩
  | cons act rest induction =>
      have agrees := sound.perform act
      have further := induction agrees.sound
      rw [agrees.board] at further
      exact further

end Hub

end Shutdown

end Bringup
