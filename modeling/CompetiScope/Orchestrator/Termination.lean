import Mathlib.Data.Prod.Lex
import CompetiScope.Foundation.NestedRank
import CompetiScope.Foundation.Transition
import CompetiScope.Orchestrator.Graph

/-!
# Termination of the analysis graph

The three loops of the graph are nested: a redo after the final QA starts the
phase counters again, and a retry of a phase re-enters an earlier node.  The
rank reads the remaining attempts as digits, the final ones first, followed by
the height of the node.
-/

namespace CompetiScope

open Foundation

/-- Nodes in the order of the graph's edges; retries and redos climb. -/
def Position.height : Position → Nat
  | .redoRouter => 19
  | .planner => 18
  | .plannerHitl => 17
  | .plannerReview => 16
  | .dispatch .collect => 15
  | .fanOut .collect _ => 14
  | .join .collect => 13
  | .surveyInterview => 12
  | .phaseQa .collect => 11
  | .dispatch .analyst => 10
  | .fanOut .analyst _ => 9
  | .join .analyst => 8
  | .phaseQa .analyst => 7
  | .comparator => 6
  | .reflector => 5
  | .writer => 4
  | .qa => 3
  | .qaHitl => 2
  | .qaReview => 1
  | .finished => 0

theorem Position.height_lt (position : Position) : position.height < 20 := by
  cases position with
  | dispatch phase => cases phase <;> decide
  | fanOut phase pending => cases phase <;> simp [height]
  | join phase => cases phase <;> decide
  | phaseQa phase => cases phase <;> decide
  | _ => decide

/-- The nodes at which a retry or a redo re-enters the graph. -/
def Position.IsLoopHead (position : Position) : Prop :=
  ∃ kind, redoEntry kind = position

/-- Branches of a fan-out that still have to run. -/
def Position.pendingBranches : Position → Nat
  | .fanOut _ pending => pending.length
  | _ => 0

/-! ## The rank of a run -/

namespace GraphRun

def maxIterations (run : GraphRun) : Nat :=
  run.record.detail.maxIterations

/-- The measure over the three counters and the position. -/
def loopRank (run : GraphRun) : Nat :=
  nestedRank 20 (run.maxIterations + 1)
    (run.maxIterations - run.state.finalQaAttempts)
    (run.maxIterations - run.state.collectQaAttempts)
    (run.maxIterations - run.state.analystQaAttempts)
    run.position.height

/-- No counter went down and the limit stayed. -/
structure KeepsAttempts (before after : GraphRun) : Prop where
  maxIterations : after.maxIterations = before.maxIterations
  final : before.state.finalQaAttempts ≤ after.state.finalQaAttempts
  collect : before.state.collectQaAttempts ≤ after.state.collectQaAttempts
  analyst : before.state.analystQaAttempts ≤ after.state.analystQaAttempts

theorem loopRank_lt_of_height {before after : GraphRun}
    (keeps : before.KeepsAttempts after)
    (lower : after.position.height < before.position.height) :
    after.loopRank < before.loopRank := by
  unfold loopRank
  rw [keeps.maxIterations]
  exact nestedRank_lt_of_height (Nat.sub_le_sub_left keeps.final _)
    (Nat.sub_le_sub_left keeps.collect _)
    (Nat.sub_le_sub_left keeps.analyst _) lower

/-- The rank of a run is below twenty nodes for every setting of the three
counters. -/
theorem loopRank_lt (run : GraphRun) :
    run.loopRank < 20 * (run.maxIterations + 1) ^ 3 := by
  apply nestedRank_lt_pow
  · omega
  · omega
  · omega
  · exact run.position.height_lt

end GraphRun

/-- Node visits of one answer: the branches of a fan-out belong to the visit
of their dispatch node. -/
def Answer.nodeVisits : Answer → Nat
  | .branch _ _ => 0
  | _ => 1

def nodeVisits (answers : List Answer) : Nat :=
  (answers.map Answer.nodeVisits).sum

/-! ## Every step goes down -/

private theorem redoEntry_height_lt (kind : RedoKind) :
    (redoEntry kind).height < Position.height .redoRouter := by
  cases kind <;> decide

private theorem workNode_height_lt {run : GraphRun}
    {node successor : Position} {state : GraphState}
    (work : WorkNode run node successor state) :
    successor.height < node.height := by
  cases work with
  | join phase => cases phase <;> decide
  | _ => decide

private theorem workNode_keepsAttempts {run : GraphRun}
    {node successor : Position} {state : GraphState}
    (work : WorkNode run node successor state) (record : RunRecord)
    (same : record.detail.maxIterations = run.maxIterations) :
    run.KeepsAttempts
      { run with
        position := successor
        state := state
        record := record } := by
  cases work with
  | _ => exact ⟨same, Nat.le_refl _, Nat.le_refl _, Nat.le_refl _⟩

private theorem phaseQaState_keepsAttempts (run : GraphRun) (phase : Phase)
    (blockers : List QCIssue) {after : GraphRun}
    (same : after.maxIterations = run.maxIterations)
    (state : after.state = phaseQaState run.state run.plan phase blockers) :
    run.KeepsAttempts after := by
  refine ⟨same, ?_, ?_, ?_⟩
  all_goals
    rw [state]
    unfold phaseQaState
    split
  all_goals
    cases phase <;> simp [GraphState.setAttempts, GraphState.attempts]

/-- A retry spends one attempt of its phase. -/
private theorem retry_loopRank_lt {run after : GraphRun} {phase : Phase}
    (same : after.maxIterations = run.maxIterations)
    (final : after.state.finalQaAttempts = run.state.finalQaAttempts)
    (attempt : after.state.attempts phase = run.state.attempts phase + 1)
    (outer : phase = .analyst →
      after.state.collectQaAttempts = run.state.collectQaAttempts)
    (left : run.state.attempts phase + 1 < run.maxIterations) :
    after.loopRank < run.loopRank := by
  unfold GraphRun.loopRank
  rw [same, final]
  have height := after.position.height_lt
  cases phase with
  | collect =>
      simp only [GraphState.attempts] at attempt left
      apply nestedRank_lt_of_middle
      · omega
      · omega
      · exact height
  | analyst =>
      simp only [GraphState.attempts] at attempt left
      rw [outer rfl]
      apply nestedRank_lt_of_inner
      · omega
      · exact height

private theorem dispatched_height_lt (run : GraphRun) (phase : Phase) :
    (run.dispatched phase).position.height <
      Position.height (.dispatch phase) := by
  unfold GraphRun.dispatched
  cases run.state.dispatched run.plan with
  | nil => cases phase <;> simp [Position.height]
  | cons first rest => cases phase <;> simp [Position.height]

private theorem written_height_lt (run : GraphRun) (product : WorkProduct)
    (failed : Bool) :
    (run.written product failed).position.height <
      Position.height .writer := by
  simp only [GraphRun.written]
  split <;> split <;> decide

private theorem branchDone_loopRank_le (run : GraphRun) {phase : Phase}
    {pending : List Branch} (branch : Branch) (product : WorkProduct)
    (here : run.position = .fanOut phase pending) :
    (run.branchDone phase pending branch product).loopRank ≤
      run.loopRank := by
  have height : (run.branchDone phase pending branch product).position.height ≤
      run.position.height := by
    rw [here]
    unfold GraphRun.branchDone
    cases pending.erase branch with
    | nil => cases phase <;> simp [Position.height]
    | cons first rest => cases phase <;> simp [Position.height]
  cases phase with
  | collect =>
      exact nestedRank_mono (Nat.le_refl _) (Nat.le_refl _) (Nat.le_refl _)
        height
  | analyst =>
      exact nestedRank_mono (Nat.le_refl _) (Nat.le_refl _) (Nat.le_refl _)
        height

/-- A branch shortens its fan-out. -/
private theorem branchDone_pending_lt (run : GraphRun) {phase : Phase}
    {pending : List Branch} {branch : Branch} (product : WorkProduct)
    (member : branch ∈ pending) :
    (run.branchDone phase pending branch product).position.pendingBranches <
      pending.length := by
  have shorter := List.length_erase_of_mem member
  have nonempty := List.length_pos_of_mem member
  unfold GraphRun.branchDone
  cases rest : pending.erase branch with
  | nil => exact nonempty
  | cons first others =>
      simp only [Position.pendingBranches]
      rw [rest] at shorter
      omega

private theorem height_pos_of_ne_finished {position : Position}
    (running : position ≠ .finished) : 0 < position.height := by
  cases position with
  | finished => exact (running rfl).elim
  | dispatch phase => cases phase <;> decide
  | fanOut phase pending => cases phase <;> simp [Position.height]
  | join phase => cases phase <;> decide
  | phaseQa phase => cases phase <;> decide
  | _ => decide

section

variable [PyRuntime]

private theorem phaseQaNode_loopRank_lt (run : GraphRun) (phase : Phase)
    (findings : List QCIssue) (product : WorkProduct)
    (here : run.position = .phaseQa phase) :
    (phaseQaNode run phase findings product).loopRank < run.loopRank := by
  have same : (phaseQaNode run phase findings product).maxIterations =
      run.maxIterations :=
    (phaseQaNode_sameSettings run phase findings product).maxIterations
  have keeps := phaseQaState_keepsAttempts run phase
    (phaseBlockers findings phase) same rfl
  have position := phaseQaNode_position run phase findings product
  split at position
  · apply GraphRun.loopRank_lt_of_height keeps
    rw [position, here]
    cases phase <;> decide
  · next blocked =>
      split at position
      · apply GraphRun.loopRank_lt_of_height keeps
        rw [position, here]
        cases phase <;> decide
      · next left =>
          have state : (phaseQaNode run phase findings product).state =
              phaseQaState run.state run.plan phase
                (phaseBlockers findings phase) := rfl
          refine @retry_loopRank_lt _ _ phase same ?_ ?_ ?_ ?_
          · rw [state, phaseQaState, if_neg blocked]
            cases phase <;> rfl
          · rw [state, phaseQaState, if_neg blocked]
            cases phase <;> rfl
          · rintro rfl
            rw [state, phaseQaState, if_neg blocked]
            rfl
          · exact Nat.not_le.mp left

/-- The final decision ends the graph or spends one of its attempts. -/
private theorem finalDecision_loopRank_lt (run : GraphRun)
    (request : HitlResumeRequest) (open' : 0 < run.position.height) :
    (finalDecision run request).loopRank < run.loopRank := by
  unfold finalDecision
  split
  · exact GraphRun.loopRank_lt_of_height
      ⟨rfl, Nat.le_refl _, Nat.le_refl _, Nat.le_refl _⟩ open'
  · next record state node =>
      obtain ⟨route, stepped, rfl⟩ := qaHitlNode_eq_ok node
      have same : record.detail.maxIterations = run.maxIterations :=
        (realQaHitlStep_log stepped).2
      rw [same]
      cases route with
      | none =>
          exact GraphRun.loopRank_lt_of_height
            ⟨same, Nat.le_refl _, Nat.le_refl _, Nat.le_refl _⟩ open'
      | some route =>
          by_cases exhausted :
              run.maxIterations ≤ run.state.finalQaAttempts
          · simp only [finalQaRouteState, exhausted, if_true]
            exact GraphRun.loopRank_lt_of_height
              ⟨same, Nat.le_refl _, Nat.le_refl _, Nat.le_refl _⟩ open'
          · simp only [finalQaRouteState, exhausted, if_false]
            unfold GraphRun.loopRank GraphRun.maxIterations
            unfold GraphRun.maxIterations at exhausted same
            rw [same]
            apply nestedRank_lt_of_outer
            · exact Nat.sub_lt_sub_left (Nat.not_le.mp exhausted)
                (Nat.lt_succ_self _)
            · omega
            · omega
            · exact Position.height_lt _

/-- A branch of a fan-out never raises the rank; every other step lowers
it. -/
theorem stepOf_loopRank {run next : GraphRun} {answer : Answer}
    (step : StepOf run answer next) :
    answer.nodeVisits + next.loopRank ≤ run.loopRank := by
  have descends : ∀ (after : GraphRun) {node : Position}
      (successor : Position),
      run.KeepsAttempts after → run.position = node →
      after.position = successor → successor.height < node.height →
      1 + after.loopRank ≤ run.loopRank := by
    intro after node successor keeps here there lower
    have dropped := GraphRun.loopRank_lt_of_height keeps
      (by rw [here, there]; exact lower)
    omega
  have unchanged : ∀ after : GraphRun,
      after.maxIterations = run.maxIterations →
      after.state.finalQaAttempts = run.state.finalQaAttempts →
      after.state.collectQaAttempts = run.state.collectQaAttempts →
      after.state.analystQaAttempts = run.state.analystQaAttempts →
      run.KeepsAttempts after := by
    intro after same final collect analyst
    exact ⟨same, final.ge, collect.ge, analyst.ge⟩
  cases step with
  | raised here =>
      exact descends _ _ (unchanged _ rfl rfl rfl rfl) rfl rfl
        (height_pos_of_ne_finished here)
  | routed here =>
      exact descends _ _ (unchanged _ rfl rfl rfl rfl) here rfl
        (redoEntry_height_lt _)
  | planned discovered here found =>
      exact descends _ .plannerHitl (unchanged _ rfl rfl rfl rfl) here rfl
        (by decide)
  | planPassed here =>
      exact descends _ (.dispatch .collect) (unchanged _ rfl rfl rfl rfl)
        here rfl (by decide)
  | planSuspended here =>
      exact descends _ .plannerReview (unchanged _ rfl rfl rfl rfl) here rfl
        (by decide)
  | planReviewed request here =>
      exact descends _ (.dispatch .collect) (unchanged _ rfl rfl rfl rfl)
        here rfl (by decide)
  | dispatched phase here =>
      exact descends _ _ (unchanged _ rfl rfl rfl rfl) here rfl
        (dispatched_height_lt run phase)
  | @branchDone phase pending branch product here member =>
      rw [Answer.nodeVisits, Nat.zero_add]
      exact branchDone_loopRank_le run branch product here
  | worked product here work =>
      exact descends _ _ (workNode_keepsAttempts work _ rfl) here rfl
        (workNode_height_lt work)
  | phaseJudged phase findings product here =>
      have lower := phaseQaNode_loopRank_lt run phase findings product here
      simp only [Answer.nodeVisits]
      omega
  | written product failed here =>
      have same : (run.written product failed).maxIterations =
          run.maxIterations := by
        cases failed <;> rfl
      exact descends _ _ (unchanged _ same rfl rfl rfl) here rfl
        (written_height_lt run product failed)
  | judged findings product here =>
      exact descends _ .qaHitl (unchanged _ rfl rfl rfl rfl) here rfl
        (by decide)
  | finalPassed here =>
      have lower := finalDecision_loopRank_lt run { decision := .accept }
        (by rw [here]; decide)
      simp only [Answer.nodeVisits]
      omega
  | finalSuspended here =>
      exact descends _ .qaReview (unchanged _ rfl rfl rfl rfl) here rfl
        (by decide)
  | finalReviewed request here =>
      have lower := finalDecision_loopRank_lt run.resumed request
        (by simp only [GraphRun.resumed, here]; decide)
      have resumed : run.resumed.loopRank = run.loopRank := rfl
      simp only [Answer.nodeVisits]
      omega

/-- The measure of one step, the branches of a fan-out included. -/
def GraphRun.measure (run : GraphRun) : Nat ×ₗ Nat :=
  toLex (run.loopRank, run.position.pendingBranches)

theorem graphStep_measure_lt (run : GraphRun) (answer : Answer)
    (next : GraphRun) (stepped : graphStep run answer = some next) :
    next.measure < run.measure := by
  have step := graphStep_cases stepped
  have paid := stepOf_loopRank step
  unfold GraphRun.measure
  rw [Prod.Lex.toLex_lt_toLex]
  cases visits : answer.nodeVisits with
  | succ count =>
      left
      omega
  | zero =>
      cases step with
      | @branchDone phase pending branch product here member =>
          have kept := branchDone_loopRank_le run branch product here
          rcases Nat.lt_or_eq_of_le kept with lower | same
          · exact .inl lower
          · refine .inr ⟨same, ?_⟩
            rw [here]
            exact branchDone_pending_lt run product member
      | _ => cases visits

private theorem isLoopHead_first_visit {run next : GraphRun} {answer : Answer}
    (head : run.position.IsLoopHead)
    (stepped : graphStep run answer = some next) :
    answer.nodeVisits = 1 := by
  cases graphStep_cases stepped with
  | branchDone product here member =>
      obtain ⟨kind, entry⟩ := head
      rw [here] at entry
      cases kind <;> cases entry
  | _ => rfl

/-- Every run of the real and of the scoped graph is finite, whatever the
agents and the reviewer answer; the number of its node visits is bounded, and
between two loop heads the measure over the three counters and the position
goes down. -/
theorem analysisGraph_boundedExecution (run : GraphRun) :
    (∀ trace : Nat → GraphRun, trace 0 = run →
        ¬ ∀ index, ∃ answer,
          graphStep (trace index) answer = some (trace (index + 1))) ∧
      (∀ answers final, exec graphStep run answers = some final →
        nodeVisits answers ≤ 20 * (run.maxIterations + 1) ^ 3) ∧
      ∀ answers final, exec graphStep run answers = some final →
        answers ≠ [] → run.position.IsLoopHead → final.position.IsLoopHead →
        final.loopRank < run.loopRank := by
  have pays : ∀ state answer next, graphStep state answer = some next →
      answer.nodeVisits + next.loopRank ≤ state.loopRank :=
    fun state answer next stepped => stepOf_loopRank (graphStep_cases stepped)
  refine ⟨?_, ?_, ?_⟩
  · intro trace _
    exact no_infinite_run graphStep_measure_lt trace
  · intro answers final ran
    have cost := exec_cost_add_rank_le pays ran
    have bound := run.loopRank_lt
    unfold nodeVisits
    omega
  · intro answers final ran nonempty head _
    cases answers with
    | nil => exact (nonempty rfl).elim
    | cons answer answers =>
        obtain ⟨next, stepped, rest⟩ := exec_cons_eq_some.mp ran
        have first := pays run answer next stepped
        have later := exec_cost_add_rank_le pays rest
        rw [isLoopHead_first_visit head stepped] at first
        omega

end

end CompetiScope
