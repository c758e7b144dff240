import CompetiScope.Orchestrator.RedoPreparation
import CompetiScope.Orchestrator.State

/-!
# The final QA checkpoint

`_real_qa_hitl_step`, `_prepare_graph_redo_from_qa` and
`_final_qa_route_state`: the decision taken on the findings, the redo it
prepares and the route the graph follows.
-/

namespace CompetiScope

open Foundation

/-- `_maybe_interrupt` applies the dimensions of the reviewer's answer. -/
def applyReviewedDimensions (detail : RunDetail)
    (request : HitlResumeRequest) : RunDetail :=
  if request.dimensions = [] then detail
  else
    { detail with
      plan := { detail.plan with dimensions := request.dimensions } }

/-- The record on which `_real_qa_hitl_step` acts on the decision. -/
def reviewedRecord (record : RunRecord) (request : HitlResumeRequest) :
    RunRecord :=
  { record with
    detail :=
      { applyReviewedDimensions record.detail request with
        currentNode := some "qa_hitl" } }

theorem applyReviewedDimensions_frame (detail : RunDetail)
    (request : HitlResumeRequest) :
    applyReviewedDimensions detail request =
      { detail with
        plan := (applyReviewedDimensions detail request).plan } := by
  unfold applyReviewedDimensions
  split <;> rfl

/-- The settings and the report are not part of an answer. -/
structure SameBookkeeping (before after : RunRecord) : Prop where
  revisions : after.detail.revisions = before.detail.revisions
  maxIterations : after.detail.maxIterations = before.detail.maxIterations
  reportMd : after.detail.reportMd = before.detail.reportMd
  pendingGraphRedo : after.pendingGraphRedo = before.pendingGraphRedo

theorem reviewedRecord_sameBookkeeping (record : RunRecord)
    (request : HitlResumeRequest) :
    SameBookkeeping record (reviewedRecord record request) := by
  rw [reviewedRecord, applyReviewedDimensions_frame]
  exact ⟨rfl, rfl, rfl, rfl⟩

/-- The record of a redo refused because the recorded revisions used up the
limit. -/
def revisionLimitRecord (record : RunRecord) : RunRecord :=
  { record with
    detail :=
      { record.detail with
        status := .failed
        currentNode := some "qa_hitl" } }

/-- The scope a prepared redo hands to the graph. -/
structure RedoRoute where
  kind : RedoKind
  dimensions : List String
  targetCompetitors : List String
  deriving DecidableEq

section

variable [PyRuntime]

/-- The pending slot written for a selection with first issue `primary`. -/
def pendingRedo (detail : RunDetail) (primary : QCIssue)
    (others : List QCIssue) (autoContinue : Bool) : PendingGraphRedo :=
  let scope := mergeRedoScopes primary others
  { iteration := detail.revisions.length + 1
    stage := scope.kind
    redoScope := scope
    redoScopes := (primary :: others).map (·.redoScope)
    beforeMd := detail.reportMd
    issueIds := (primary :: others).map (·.id)
    qaIssueIdsBefore := detail.qaFindings.map (·.id)
    issueCountBefore := detail.qaFindings.length
    structuredTargets := structuredRedoTargets (primary :: others)
    autoContinue := autoContinue }

/-- `_prepare_graph_redo_from_qa`; no route means `end`. -/
def prepareGraphRedoFromQa (record : RunRecord) :
    Except RedoError (RunRecord × Option RedoRoute) :=
  let detail := record.detail
  if detail.qaFindings = [] then .ok (record, none)
  else if detail.redoLimitReached then
    .ok (revisionLimitRecord record, none)
  else
    match selectRedoIssues detail [] with
    | [] => .error .emptySelection
    | primary :: others =>
        let scope := mergeRedoScopes primary others
        match prepareRedoScopeInputs detail scope with
        | .error error => .error error
        | .ok prepared =>
            .ok
              ({ detail := prepared.detail
                 pendingGraphRedo := some
                   (pendingRedo detail primary others false) },
                some
                  { kind := scope.kind
                    dimensions := prepared.dimensions
                    targetCompetitors := prepared.targetCompetitors })

/-- `_real_qa_hitl_step` once the reviewer has answered. -/
def realQaHitlStep (record : RunRecord) (request : HitlResumeRequest) :
    Except RedoError (RunRecord × Option RedoRoute) :=
  let reviewed := reviewedRecord record request
  match request.decision with
  | .forcePass =>
      .ok
        ({ reviewed with detail := { reviewed.detail with qaFindings := [] } },
          none)
  | .redo => prepareGraphRedoFromQa reviewed
  | .accept => .ok (reviewed, none)
  | .modifyPlan => .ok (reviewed, none)

/-- `_final_qa_route_state`: a prepared route is refused once the graph has
used up its own attempts. -/
def finalQaRouteState (state : GraphState) (maxIterations : Nat)
    (route : Option RedoRoute) : GraphState :=
  match route with
  | none =>
      { state with
        redoKind := none
        finalQaLimitReached := false }
  | some route =>
      if maxIterations ≤ state.finalQaAttempts then
        { state with
          redoKind := none
          finalQaLimitReached := true }
      else
        { state with
          dimensions := route.dimensions
          targetCompetitors := route.targetCompetitors
          redoKind := some route.kind
          collectQaAttempts := 0
          analystQaAttempts := 0
          finalQaAttempts := state.finalQaAttempts + 1
          finalQaLimitReached := false }

/-- The `qa_hitl` node. -/
def qaHitlNode (record : RunRecord) (state : GraphState)
    (request : HitlResumeRequest) :
    Except RedoError (RunRecord × GraphState) :=
  match realQaHitlStep record request with
  | .error error => .error error
  | .ok (next, route) =>
      .ok (next, finalQaRouteState state next.detail.maxIterations route)

/-! ## What a decision can do -/

/-- How `_prepare_graph_redo_from_qa` can return: without findings, at the
revision limit, or with a prepared redo. -/
inductive PreparesRedo (record : RunRecord) :
    RunRecord → Option RedoRoute → Prop where
  | noFindings (findings : record.detail.qaFindings = []) :
      PreparesRedo record record none
  | limitReached (findings : record.detail.qaFindings ≠ [])
      (limit : record.detail.redoLimitReached = true) :
      PreparesRedo record (revisionLimitRecord record) none
  | prepared {primary : QCIssue} {others : List QCIssue}
      {redo : PreparedRedo}
      (findings : record.detail.qaFindings ≠ [])
      (limit : record.detail.redoLimitReached = false)
      (selected : selectRedoIssues record.detail [] = primary :: others)
      (inputs : prepareRedoScopeInputs record.detail
        (mergeRedoScopes primary others) = .ok redo) :
      PreparesRedo record
        { detail := redo.detail
          pendingGraphRedo := some
            (pendingRedo record.detail primary others false) }
        (some
          { kind := (mergeRedoScopes primary others).kind
            dimensions := redo.dimensions
            targetCompetitors := redo.targetCompetitors })

theorem prepareGraphRedoFromQa_cases {record next : RunRecord}
    {route : Option RedoRoute}
    (result : prepareGraphRedoFromQa record = .ok (next, route)) :
    PreparesRedo record next route := by
  unfold prepareGraphRedoFromQa at result
  by_cases findings : record.detail.qaFindings = []
  · simp only [findings, if_true, Except.ok.injEq, Prod.mk.injEq] at result
    obtain ⟨rfl, rfl⟩ := result
    exact .noFindings findings
  · simp only [findings, if_false] at result
    cases limit : record.detail.redoLimitReached with
    | true =>
        simp only [limit, if_true, Except.ok.injEq, Prod.mk.injEq] at result
        obtain ⟨rfl, rfl⟩ := result
        exact .limitReached findings limit
    | false =>
        simp only [limit, Bool.false_eq_true, if_false] at result
        split at result
        · cases result
        · next primary others selected =>
            split at result
            · cases result
            · next redo inputs =>
                simp only [Except.ok.injEq, Prod.mk.injEq] at result
                obtain ⟨rfl, rfl⟩ := result
                exact .prepared findings limit selected inputs

theorem qaHitlNode_eq_ok {record next : RunRecord} {state after : GraphState}
    {request : HitlResumeRequest}
    (result : qaHitlNode record state request = .ok (next, after)) :
    ∃ route, realQaHitlStep record request = .ok (next, route) ∧
      after = finalQaRouteState state next.detail.maxIterations route := by
  unfold qaHitlNode at result
  split at result
  · cases result
  · next route stepped =>
      simp only [Except.ok.injEq, Prod.mk.injEq] at result
      obtain ⟨rfl, rfl⟩ := result
      exact ⟨route, stepped, rfl⟩

/-- A decision to redo acts on the reviewed record. -/
theorem redo_preparesReviewed {record next : RunRecord}
    {route : Option RedoRoute} {request : HitlResumeRequest}
    (decided : request.decision = .redo)
    (stepped : realQaHitlStep record request = .ok (next, route)) :
    PreparesRedo (reviewedRecord record request) next route := by
  apply prepareGraphRedoFromQa_cases
  simp only [realQaHitlStep, decided] at stepped
  exact stepped

/-- Any other decision starts nothing. -/
theorem realQaHitlStep_other {record next : RunRecord}
    {route : Option RedoRoute} {request : HitlResumeRequest}
    (other : request.decision ≠ .redo)
    (stepped : realQaHitlStep record request = .ok (next, route)) :
    route = none ∧ SameBookkeeping record next := by
  have reviewed := reviewedRecord_sameBookkeeping record request
  cases decided : request.decision with
  | redo => exact (other decided).elim
  | accept =>
      simp only [realQaHitlStep, decided] at stepped
      cases stepped
      exact ⟨rfl, reviewed⟩
  | modifyPlan =>
      simp only [realQaHitlStep, decided] at stepped
      cases stepped
      exact ⟨rfl, reviewed⟩
  | forcePass =>
      simp only [realQaHitlStep, decided] at stepped
      cases stepped
      exact ⟨rfl, reviewed.revisions, reviewed.maxIterations,
        reviewed.reportMd, reviewed.pendingGraphRedo⟩

/-- No decision touches the revisions or their limit. -/
theorem realQaHitlStep_log {record next : RunRecord}
    {route : Option RedoRoute} {request : HitlResumeRequest}
    (stepped : realQaHitlStep record request = .ok (next, route)) :
    next.detail.revisions = record.detail.revisions ∧
      next.detail.maxIterations = record.detail.maxIterations := by
  have reviewed := reviewedRecord_sameBookkeeping record request
  by_cases decided : request.decision = .redo
  · rw [← reviewed.maxIterations, ← reviewed.revisions]
    cases redo_preparesReviewed decided stepped with
    | noFindings findings => exact ⟨rfl, rfl⟩
    | limitReached findings limit => exact ⟨rfl, rfl⟩
    | prepared findings limit selected inputs =>
        have same := prepareRedoScopeInputs_sameSettings inputs
        exact ⟨same.revisions, same.maxIterations⟩
  · have same := (realQaHitlStep_other decided stepped).2
    exact ⟨same.revisions, same.maxIterations⟩

end

end CompetiScope
