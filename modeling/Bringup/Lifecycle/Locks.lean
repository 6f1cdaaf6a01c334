import Bringup.Lifecycle.Threads

namespace Bringup

/-! Both locks, taken and given back.

In `System` a section under the lock of the bookkeeping is one step of its thread. Here a
thread first takes that lock, then goes through the section and then gives the lock back,
and other threads may take steps in between. Either lock can be taken whenever nobody holds
it; it makes no difference whether its last holder panicked. -/

namespace Phase

def isSection : Phase → Bool
  | registering _ _ | visiting _ | starting _ | stopping _ => true
  | acting performance => !performance.requests.isEmpty
  | booking _ _ .succeeded => true
  | booking _ _ _ | leaving _ => false

end Phase

namespace Place

def isSection : Place α → Bool
  | beginning _ => true
  | holding _ phase => phase.isSection
  | idle | waiting _ _ | applying _ | answering _ _ => false

end Place

/-- Where a thread stands to a section: it has nothing to do with one, it has taken the lock,
or it has come to the end and is yet to give the lock back. -/
inductive Stand where
  | outside
  | before
  | behind
deriving DecidableEq, Repr

structure Guarded (α : Type) where
  system : System α
  /-- The thread that holds the lock of the bookkeeping. -/
  keeper : Option Nat := none
  stand : Nat → Stand := fun _ => .outside

namespace Guarded

def fresh (world : World) : Guarded α where
  system := .fresh world

def turn (guarded : Guarded α) (thread : Nat) (stand : Stand) : Guarded α :=
  { guarded with
    stand := fun other => if other = thread then stand else guarded.stand other }

@[simp] theorem turn_system (guarded : Guarded α) (thread : Nat) (stand : Stand) :
    (guarded.turn thread stand).system = guarded.system := rfl

@[simp] theorem turn_keeper (guarded : Guarded α) (thread : Nat) (stand : Stand) :
    (guarded.turn thread stand).keeper = guarded.keeper := rfl

@[simp] theorem turn_same (guarded : Guarded α) (thread : Nat) (stand : Stand) :
    (guarded.turn thread stand).stand thread = stand := by
  simp [turn]

theorem turn_other (guarded : Guarded α) {thread other : Nat} (stand : Stand)
    (different : other ≠ thread) :
    (guarded.turn thread stand).stand other = guarded.stand other := by
  simp [turn, different]

inductive Step (plays : Action → Nat → Script → Prop) :
    Guarded α → Nat → Option (Happening α) → Guarded α → Prop
  | locks {guarded thread} (outside : guarded.stand thread = .outside)
      (comes : (guarded.system.place thread).isSection = true) (free : guarded.keeper = none) :
      Step plays guarded thread none
        ({ guarded with keeper := some thread }.turn thread .before)
  | passes {guarded thread happening next} (before : guarded.stand thread = .before)
      (step : System.Step plays guarded.system thread happening next) :
      Step plays guarded thread (some happening)
        ({ guarded with system := next }.turn thread .behind)
  | unlocks {guarded thread} (behind : guarded.stand thread = .behind) :
      Step plays guarded thread none ({ guarded with keeper := none }.turn thread .outside)
  | moves {guarded thread happening next} (outside : guarded.stand thread = .outside)
      (apart : (guarded.system.place thread).isSection = false)
      (step : System.Step plays guarded.system thread happening next) :
      Step plays guarded thread (some happening) { guarded with system := next }

inductive Run (plays : Action → Nat → Script → Prop) :
    Guarded α → Trace α → Guarded α → Prop
  | nil (guarded) : Run plays guarded [] guarded
  | snoc {first trace middle happened last} (run : Run plays first trace middle)
      (thread : Nat) (step : Step plays middle thread happened last) :
      Run plays first (trace ++ (happened.map fun happening => (thread, happening)).toList) last

def IsBusy (guarded : Guarded α) (thread : Nat) : Prop :=
  guarded.system.place thread ≠ .idle ∨ guarded.stand thread ≠ .outside

end Guarded

end Bringup
