import Mathlib.Algebra.GroupWithZero.Nat
import Mathlib.Data.Option.Basic
import Mathlib.Order.OrderIsoNat

/-!
# Runs of executable transition functions

A system is a partial step function on an explicit state; an action carries
everything the environment decides.  Finite runs are folds of the step over a
list of actions, so a concrete history can be evaluated.  The rules below
package the two inductions every development over such a system needs: an
invariant along guarded runs, and a rank that bounds the length of runs.
-/

namespace Foundation

variable {State Action : Type*}

/-- Run a list of actions; `none` as soon as one of them is not enabled. -/
def exec (step : State → Action → Option State) :
    State → List Action → Option State
  | state, [] => some state
  | state, action :: actions =>
      match step state action with
      | none => none
      | some next => exec step next actions

/-- Every step of the run meets `guard`, judged on the state before it. -/
def Along (step : State → Action → Option State)
    (guard : State → Action → Prop) : State → List Action → Prop
  | _, [] => True
  | state, action :: actions =>
      guard state action ∧
        match step state action with
        | none => True
        | some next => Along step guard next actions

instance decidableAlong (step : State → Action → Option State)
    (guard : State → Action → Prop)
    [guardDecidable : ∀ state action, Decidable (guard state action)] :
    ∀ state actions, Decidable (Along step guard state actions)
  | _, [] => isTrue trivial
  | state, action :: actions =>
      @instDecidableAnd _ _ (guardDecidable state action)
        (match step state action with
        | none => isTrue trivial
        | some next => decidableAlong step guard next actions)

section Rules

variable {step : State → Action → Option State}

theorem exec_cons_eq_some {state final : State} {action : Action}
    {actions : List Action} :
    exec step state (action :: actions) = some final ↔
      ∃ next, step state action = some next ∧
        exec step next actions = some final := by
  cases result : step state action with
  | none => simp [exec, result]
  | some next => simp [exec, result]

theorem exec_append_eq_some {state final : State} {past later : List Action} :
    exec step state (past ++ later) = some final ↔
      ∃ middle, exec step state past = some middle ∧
        exec step middle later = some final := by
  induction past generalizing state with
  | nil => simp [exec]
  | cons action past induction =>
      rw [List.cons_append, exec_cons_eq_some]
      constructor
      · rintro ⟨next, stepped, rest⟩
        obtain ⟨middle, before, after⟩ := induction.mp rest
        exact ⟨middle, exec_cons_eq_some.mpr ⟨next, stepped, before⟩, after⟩
      · rintro ⟨middle, before, after⟩
        obtain ⟨next, stepped, rest⟩ := exec_cons_eq_some.mp before
        exact ⟨next, stepped, induction.mpr ⟨middle, rest, after⟩⟩

theorem along_cons {guard : State → Action → Prop} {state next : State}
    {action : Action} {actions : List Action}
    (guarded : Along step guard state (action :: actions))
    (stepped : step state action = some next) :
    guard state action ∧ Along step guard next actions := by
  simpa [Along, stepped] using guarded

/-- The invariant rule: what every guarded step preserves holds at the end of
every guarded run. -/
theorem exec_invariant_along {guard : State → Action → Prop}
    {invariant : State → Prop}
    (preserved : ∀ state action next, invariant state → guard state action →
      step state action = some next → invariant next)
    {state final : State} {actions : List Action}
    (start : invariant state)
    (guarded : Along step guard state actions)
    (run : exec step state actions = some final) : invariant final := by
  induction actions generalizing state with
  | nil =>
      cases run
      exact start
  | cons action actions induction =>
      obtain ⟨next, stepped, rest⟩ := exec_cons_eq_some.mp run
      obtain ⟨here, later⟩ := along_cons guarded stepped
      exact induction (preserved state action next start here stepped)
        later rest

/-- What an invariant and the guard give at every step holds along the run. -/
theorem along_of_invariant {guard sound : State → Action → Prop}
    {invariant : State → Prop}
    (here : ∀ state action, invariant state → guard state action →
      sound state action)
    (preserved : ∀ state action next, invariant state → guard state action →
      step state action = some next → invariant next)
    {state : State} {actions : List Action} (start : invariant state)
    (guarded : Along step guard state actions) :
    Along step sound state actions := by
  induction actions generalizing state with
  | nil => trivial
  | cons action actions induction =>
      obtain ⟨guardHere, later⟩ := guarded
      refine ⟨here state action start guardHere, ?_⟩
      cases stepped : step state action with
      | none => trivial
      | some next =>
          rw [stepped] at later
          exact induction (preserved state action next start guardHere stepped)
            later

/-- Two properties of a step that agree wherever an invariant of the run holds
agree along the run. -/
theorem along_congr {first second : State → Action → Prop}
    {invariant : State → Prop} {state : State} {actions : List Action}
    (same : ∀ state, ∀ action ∈ actions, invariant state →
      (first state action ↔ second state action))
    (preserved : ∀ state, ∀ action ∈ actions, ∀ next, invariant state →
      step state action = some next → invariant next)
    (start : invariant state) :
    Along step first state actions ↔ Along step second state actions := by
  induction actions generalizing state with
  | nil => exact Iff.rfl
  | cons action actions induction =>
      have here := same state action List.mem_cons_self start
      unfold Along
      cases stepped : step state action with
      | none => simp only [here]
      | some next =>
          have later := induction
            (fun state action member => same state action
              (List.mem_cons_of_mem _ member))
            (fun state action member => preserved state action
              (List.mem_cons_of_mem _ member))
            (preserved state action List.mem_cons_self next start stepped)
          simp only [here, later]

theorem along_true (state : State) (actions : List Action) :
    Along step (fun _ _ => True) state actions := by
  induction actions generalizing state with
  | nil => trivial
  | cons action actions induction =>
      refine ⟨trivial, ?_⟩
      cases result : step state action with
      | none => trivial
      | some next => exact induction next

theorem exec_invariant {invariant : State → Prop}
    (preserved : ∀ state action next, invariant state →
      step state action = some next → invariant next)
    {state final : State} {actions : List Action}
    (start : invariant state)
    (run : exec step state actions = some final) : invariant final :=
  exec_invariant_along
    (fun state action next holds _ stepped =>
      preserved state action next holds stepped)
    start (along_true state actions) run

/-- The rule for properties of the past: what every guarded step preserves
while the past grows by its action holds of the whole run. -/
theorem exec_history_along {guard : State → Action → Prop}
    {holds : List Action → State → Prop}
    (preserved : ∀ past state action next, holds past state →
      guard state action → step state action = some next →
        holds (past ++ [action]) next)
    {state final : State} {past actions : List Action}
    (start : holds past state)
    (guarded : Along step guard state actions)
    (run : exec step state actions = some final) :
    holds (past ++ actions) final := by
  induction actions generalizing past state with
  | nil =>
      cases run
      rwa [List.append_nil]
  | cons action actions induction =>
      obtain ⟨next, stepped, rest⟩ := exec_cons_eq_some.mp run
      obtain ⟨here, later⟩ := along_cons guarded stepped
      rw [List.append_cons]
      exact induction (preserved past state action next start here stepped)
        later rest

theorem exec_history {holds : List Action → State → Prop}
    (preserved : ∀ past state action next, holds past state →
      step state action = some next → holds (past ++ [action]) next)
    {state final : State} {actions : List Action}
    (start : holds [] state)
    (run : exec step state actions = some final) : holds actions final :=
  exec_history_along
    (fun past state action next known _ stepped =>
      preserved past state action next known stepped)
    start (along_true state actions) run

/-- A rank that pays for every step bounds the cost of every run. -/
theorem exec_cost_add_rank_le {cost : Action → Nat} {rank : State → Nat}
    (pays : ∀ state action next,
      step state action = some next → cost action + rank next ≤ rank state)
    {state final : State} {actions : List Action}
    (run : exec step state actions = some final) :
    (actions.map cost).sum + rank final ≤ rank state := by
  induction actions generalizing state with
  | nil =>
      cases run
      simp
  | cons action actions induction =>
      obtain ⟨next, stepped, rest⟩ := exec_cons_eq_some.mp run
      have later := induction rest
      have paid := pays state action next stepped
      simp only [List.map_cons, List.sum_cons]
      omega

/-- A rank in a well-founded order that drops in every step leaves no room
for an infinite run. -/
theorem no_infinite_run {Rank : Type*} [Preorder Rank] [WellFoundedLT Rank]
    {rank : State → Rank}
    (drops : ∀ state action next,
      step state action = some next → rank next < rank state)
    (trace : Nat → State) :
    ¬ ∀ index, ∃ action,
      step (trace index) action = some (trace (index + 1)) := by
  intro infinite
  apply not_strictAnti_of_wellFoundedLT (fun index => rank (trace index))
  apply strictAnti_nat_of_succ_lt
  intro index
  obtain ⟨action, stepped⟩ := infinite index
  exact drops _ action _ stepped

end Rules

end Foundation
