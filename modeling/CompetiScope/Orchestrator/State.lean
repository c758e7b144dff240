import CompetiScope.Schema.Run

/-!
# Graph state

`orchestrator/state.py`: the lists and counters every node of the analysis
graph reads and writes, next to the run record.
-/

namespace CompetiScope

open Foundation

/-- One slice of the fan-out. -/
structure Branch where
  dimension : String
  competitor : String
  deriving DecidableEq

/-- `GraphState`; an absent list reads as the empty one. -/
structure GraphState where
  dimensions : List String := []
  targetCompetitors : List String := []
  completedCollectorBranches : List Branch := []
  completedAnalystBranches : List Branch := []
  redoKind : Option RedoKind := none
  collectQaAttempts : Nat := 0
  analystQaAttempts : Nat := 0
  finalQaAttempts : Nat := 0
  finalQaLimitReached : Bool := false
  deriving DecidableEq

/-- `values or fallback`. -/
def orElse (values fallback : List String) : List String :=
  if values = [] then fallback else values

@[simp] theorem orElse_nil (fallback : List String) :
    orElse [] fallback = fallback :=
  rfl

theorem orElse_of_ne_nil {values : List String} (nonempty : values ≠ [])
    (fallback : List String) : orElse values fallback = values :=
  if_neg nonempty

@[simp] theorem orElse_self (values : List String) :
    orElse values values = values := by
  unfold orElse
  split <;> rfl

@[simp] theorem orElse_orElse (values fallback : List String) :
    orElse (orElse values fallback) fallback = orElse values fallback := by
  by_cases empty : values = []
  · simp [empty]
  · simp [orElse_of_ne_nil empty]

/-- The product of `_send_collectors` and `_send_analysts`. -/
def branchesOf (dimensions competitors : List String) : List Branch :=
  dimensions.flatMap fun dimension =>
    competitors.map fun competitor =>
      { dimension := dimension
        competitor := competitor }

@[simp] theorem mem_branchesOf {dimensions competitors : List String}
    {branch : Branch} :
    branch ∈ branchesOf dimensions competitors ↔
      branch.dimension ∈ dimensions ∧ branch.competitor ∈ competitors := by
  simp only [branchesOf, List.mem_flatMap, List.mem_map]
  constructor
  · rintro ⟨dimension, dimensionMember, competitor, competitorMember, rfl⟩
    exact ⟨dimensionMember, competitorMember⟩
  · rintro ⟨dimensionMember, competitorMember⟩
    exact ⟨_, dimensionMember, _, competitorMember, rfl⟩

/-- Every slice of a plan. -/
def AnalysisPlan.branches (plan : AnalysisPlan) : List Branch :=
  branchesOf plan.dimensions plan.competitors

/-- The branches a dispatch node sends out under this state. -/
def GraphState.dispatched (state : GraphState) (plan : AnalysisPlan) :
    List Branch :=
  branchesOf (orElse state.dimensions plan.dimensions)
    (orElse state.targetCompetitors plan.competitors)

end CompetiScope
