import Mathlib.Data.Option.Basic
import Mathlib.Data.List.Basic

/-!
# Partial step systems and their permitted runs

A concurrent program is described by a partial function that takes a state and
an action, the choice of which agent moves and of what its environment answers,
to the next state.  A run follows any list of enabled actions.  A permitted run
additionally meets a side condition, evaluated in the state before each step.

The file proves the two induction rules used for every safety argument, and
connects the relational runs with an executable interpreter so that a concrete
schedule can be replayed by evaluation.  Two constructions build new systems
from a given one: an observer who writes up its steps, and two copies of it that
move together.
-/

namespace SpeechModules

namespace StepSystem

variable {State Action : Type*}

/-- The states reached from `initial` by a run all of whose steps meet
`permits` in the state before the step. -/
inductive PermittedReach (step : State → Action → Option State)
    (permits : State → Action → Prop) (initial : State) : State → Prop
  | start : PermittedReach step permits initial initial
  | next {before after : State} {action : Action}
      (reached : PermittedReach step permits initial before)
      (permitted : permits before action)
      (stepped : step before action = some after) :
      PermittedReach step permits initial after

/-- The states reached from `initial` by any run. -/
def Reach (step : State → Action → Option State) (initial : State) :
    State → Prop :=
  PermittedReach step (fun _ _ => True) initial

section Induction

variable {step : State → Action → Option State}
  {permits : State → Action → Prop} {initial : State}

/-- The invariant rule: what holds at the start and is kept by every permitted
step holds in every state a permitted run reaches. -/
theorem PermittedReach.invariant {holds : State → Prop}
    (atStart : holds initial)
    (preserved : ∀ before action after, holds before →
      permits before action → step before action = some after → holds after)
    {state : State} (reached : PermittedReach step permits initial state) :
    holds state := by
  induction reached with
  | start => exact atStart
  | next _ permitted stepped ih =>
      exact preserved _ _ _ ih permitted stepped

/-- The invariant rule relative to facts already known of the reached states. -/
theorem PermittedReach.invariant_of_known {known holds : State → Prop}
    (knownOf : ∀ state, PermittedReach step permits initial state →
      known state)
    (atStart : holds initial)
    (preserved : ∀ before action after, known before → holds before →
      permits before action → step before action = some after → holds after)
    {state : State} (reached : PermittedReach step permits initial state) :
    holds state := by
  induction reached with
  | start => exact atStart
  | next earlier permitted stepped ih =>
      exact preserved _ _ _ (knownOf _ earlier) ih permitted stepped

end Induction

section Replay

variable (step : State → Action → Option State)
  (permits : State → Action → Prop)

/-- Follow a list of actions, stopping at the first one that is not enabled. -/
def replay : State → List Action → Option State
  | state, [] => some state
  | state, action :: actions =>
      match step state action with
      | none => none
      | some after => replay after actions

/-- Follow a list of actions, stopping at the first one that is not enabled or
not permitted. -/
def replayPermitted [∀ state action, Decidable (permits state action)] :
    State → List Action → Option State
  | state, [] => some state
  | state, action :: actions =>
      if permits state action then
        match step state action with
        | none => none
        | some after => replayPermitted after actions
      else none

variable {step permits}

theorem permittedReach_of_replayPermitted
    [∀ state action, Decidable (permits state action)]
    {initial state last : State} {actions : List Action}
    (reached : PermittedReach step permits initial state)
    (replayed : replayPermitted step permits state actions = some last) :
    PermittedReach step permits initial last := by
  induction actions generalizing state with
  | nil =>
      simp only [replayPermitted, Option.some.injEq] at replayed
      exact replayed ▸ reached
  | cons action actions ih =>
      simp only [replayPermitted] at replayed
      split at replayed
      next permitted =>
        cases stepped : step state action with
        | none => simp [stepped] at replayed
        | some after =>
            rw [stepped] at replayed
            exact ih (.next reached permitted stepped) replayed
      next => cases replayed

theorem reach_of_replay {initial state last : State} {actions : List Action}
    (reached : Reach step initial state)
    (replayed : replay step state actions = some last) :
    Reach step initial last := by
  induction actions generalizing state with
  | nil =>
      simp only [replay, Option.some.injEq] at replayed
      exact replayed ▸ reached
  | cons action actions ih =>
      simp only [replay] at replayed
      cases stepped : step state action with
      | none => simp [stepped] at replayed
      | some after =>
          rw [stepped] at replayed
          exact ih (.next reached trivial stepped) replayed

end Replay

section Exhibit

variable (step : State → Action → Option State) (initial : State)
  (actions : List Action) (test : State → Bool)

/-- A schedule that replays to a state passing `test` exhibits a reachable
state passing it. -/
theorem exists_reach_of_replay
    (passed : (replay step initial actions).any test = true) :
    ∃ state, Reach step initial state ∧ test state = true := by
  cases replayed : replay step initial actions with
  | none => simp [replayed] at passed
  | some last =>
      refine ⟨last, reach_of_replay .start replayed, ?_⟩
      simpa [replayed] using passed

/-- The permitted counterpart of `exists_reach_of_replay`. -/
theorem exists_permittedReach_of_replay (permits : State → Action → Prop)
    [∀ state action, Decidable (permits state action)]
    (passed :
      (replayPermitted step permits initial actions).any test = true) :
    ∃ state, PermittedReach step permits initial state ∧
      test state = true := by
  cases replayed : replayPermitted step permits initial actions with
  | none => simp [replayed] at passed
  | some last =>
      refine ⟨last, permittedReach_of_replayPermitted .start replayed, ?_⟩
      simpa [replayed] using passed

end Exhibit

section Observer

variable {Log : Type*}

/-- A step system watched by an observer, who writes up every step. -/
def watched (step : State → Action → Option State)
    (note : State → Action → Log → Log) :
    State × Log → Action → Option (State × Log)
  | (state, log), action =>
      (step state action).map fun after => (after, note state action log)

variable {step : State → Action → Option State}
  {note : State → Action → Log → Log} {initial : State} {log : Log}

theorem watched_eq {before after : State × Log} {action : Action}
    (stepped : watched step note before action = some after) :
    step before.1 action = some after.1 ∧
      after.2 = note before.1 action before.2 := by
  obtain ⟨next, inner, rfl⟩ := Option.map_eq_some_iff.mp stepped
  exact ⟨inner, rfl⟩

/-- The observer does not influence what is watched. -/
theorem PermittedReach.unwatched {permits : State → Action → Prop}
    {permitsWatched : State × Log → Action → Prop}
    (permitted : ∀ state action, permitsWatched state action →
      permits state.1 action)
    {state : State × Log}
    (reached : PermittedReach (watched step note) permitsWatched
      (initial, log) state) :
    PermittedReach step permits initial state.1 := by
  induction reached with
  | start => exact .start
  | next _ allowed stepped ih =>
      exact .next ih (permitted _ _ allowed) (watched_eq stepped).1

end Observer

section TwoRuns

variable {Choice : Type*}

/-- Two copies of a step system, driven by the two actions that a choice stands
for. -/
def lockstep (step : State → Action → Option State)
    (first second : Choice → Action) :
    State × State → Choice → Option (State × State)
  | (state, other), choice =>
      (step state (first choice)).bind fun after =>
        (step other (second choice)).map fun otherAfter => (after, otherAfter)

theorem lockstep_eq {step : State → Action → Option State}
    {first second : Choice → Action} {before after : State × State}
    {choice : Choice}
    (stepped : lockstep step first second before choice = some after) :
    step before.1 (first choice) = some after.1 ∧
      step before.2 (second choice) = some after.2 := by
  obtain ⟨next, firstStepped, rest⟩ := Option.bind_eq_some_iff.mp stepped
  obtain ⟨otherNext, secondStepped, rfl⟩ := Option.map_eq_some_iff.mp rest
  exact ⟨firstStepped, secondStepped⟩

end TwoRuns

end StepSystem

end SpeechModules
