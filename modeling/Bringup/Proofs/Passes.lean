import Bringup.Proofs.Walking

namespace Bringup

/-! Why a walk ends.

The list of steps can grow with every pass of a walk, so the distance to its end is no bound. What
a pass uses up is a step together with all that the calls of its action can still register, to
whatever depth and whether or not the names are taken (`Service.Pass.ahead_lt`). So there are only
so many passes, the last of which ends the walk, and each calls one action at most
(`Service.initializeAll_ends`). -/

namespace Service

/-- A pass after which a walk goes on: the step that stands at the position is completed, or its
action is called and succeeds. -/
inductive Pass (service : Service) (position : Nat) : Service → Prop
  | skips {step : Step} (stands : service.manager.steps[position]? = some step)
      (done : step.completed = true) : Pass service position service
  | runs {step : Step} {next : Service} (stands : service.manager.steps[position]? = some step)
      (pending : step.completed = false)
      (ran : service.runStep position step = (.returned (.ok ()), next)) :
      Pass service position next

/-- The pass that ends a walk: no step stands at the position, or its action is called and does
not succeed. -/
inductive Halts (service : Service) (position : Nat) : Walked → Prop
  | arrives (past : service.manager.steps[position]? = none) :
      Halts service position
        (.returned (.ok ()), (service.setReady true).log (.bootstrapComplete position))
  | stops {step : Step} {fault : InitError} {next : Service}
      (stands : service.manager.steps[position]? = some step) (pending : step.completed = false)
      (ran : service.runStep position step = (.returned (.error fault), next)) :
      Halts service position (.returned (.error fault), next.setReady false)
  | panics {step : Step} {message : String} {next : Service}
      (stands : service.manager.steps[position]? = some step) (pending : step.completed = false)
      (ran : service.runStep position step = (.panicked message, next)) :
      Halts service position (.panicked message, next)

inductive Passes (first : Service) : Nat → Service → Prop
  | nil : Passes first 0 first
  | snoc {position : Nat} {service next : Service} (passes : Passes first position service)
      (pass : service.Pass position next) : Passes first (position + 1) next

variable {first service next : Service} {position : Nat}

/-- Every pass leaves less ahead: at most the steps behind this one, and what this one has
registered, which it cannot register again. -/
theorem Pass.ahead_lt (pass : service.Pass position next) :
    next.manager.ahead (position + 1) < service.manager.ahead position := by
  cases pass with
  | skips stands done =>
      rw [ahead_of_stands stands]
      omega
  | runs stands pending ran =>
      have less := runStep_ahead service position _ stands
      rwa [ran] at less

theorem Passes.bounded (passes : first.Passes position service) :
    position + service.manager.ahead position ≤ first.manager.ahead 0 := by
  induction passes with
  | nil => exact Nat.le_of_eq (Nat.zero_add _)
  | snoc _ pass induction =>
      have less := pass.ahead_lt
      omega

theorem walk_halts (passes : first.Passes position service) :
    ∃ reached last, first.Passes reached last ∧ last.Halts reached (service.walk position) := by
  fun_induction walk service position with
  | case1 service position past => exact ⟨_, _, passes, .arrives past⟩
  | case2 service position step stands done induction =>
      exact induction (passes.snoc (.skips stands done))
  | case3 service position step stands pending message next ran =>
      exact ⟨_, _, passes, .panics stands (by simpa using pending) ran⟩
  | case4 service position step stands pending fault next ran =>
      exact ⟨_, _, passes, .stops stands (by simpa using pending) ran⟩
  | case5 service position step stands pending next ran induction =>
      exact induction (passes.snoc (.runs stands (by simpa using pending) ran))

/-- Whatever the actions register and however their calls end: each pass of a call that initializes
leaves less ahead of it, so after at most as many passes as were ahead of the first position one
of them ends the walk. Until then it has called the action of each step at most once, and hence no
more actions than there are steps when it comes back. -/
theorem initializeAll_ends (service : Service) :
    (∀ {position : Nat} {middle next : Service}, middle.Pass position next →
      next.manager.ahead (position + 1) < middle.manager.ahead position) ∧
    (∃ position last, service.Passes position last ∧ last.Halts position service.initializeAll ∧
      position ≤ service.manager.ahead 0) ∧
    ∃ trials : List Trial,
      service.initializeAll.2.world.journal.calls =
        service.world.journal.calls ++ trials.map Trial.call ∧
      (∀ trial ∈ trials, service.initializeAll.2.manager.roster[trial.position]? =
        some (trial.step.name, trial.step.action)) ∧
      (trials.map Trial.position).Nodup ∧
      trials.length ≤ service.initializeAll.2.manager.steps.length := by
  refine ⟨Pass.ahead_lt, ?_, ?_⟩
  · rcases walk_halts (.nil : service.Passes 0 service) with ⟨position, last, passes, halts⟩
    have bounded := passes.bounded
    exact ⟨position, last, passes, halts, by omega⟩
  · rcases (walk_comes (.start service)).due with ⟨trials, follows, ordered, _⟩
    refine ⟨trials, follows.trail.calls, follows.stood, ?_, ?_⟩
    · exact ordered.sublist.nodup (List.nodup_range.filter _)
    · have fewer := ordered.length_le
      have due := List.length_filter_le (fun position => !service.manager.isDone position)
        (List.range service.initializeAll.2.manager.steps.length)
      rw [List.length_map] at fewer
      rw [List.length_range] at due
      exact Nat.le_trans fewer due

end Service

end Bringup
