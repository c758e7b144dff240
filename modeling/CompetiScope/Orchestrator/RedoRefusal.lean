import CompetiScope.Orchestrator.FinalQa

/-!
# Refused redo decisions

A redo decision is refused when there is nothing to redo, when the recorded
revisions reach the limit, or when the graph has used up its own attempts.
Only the first two are decided before the redo has been prepared.
-/

namespace CompetiScope

open Foundation

/-- The outputs of the run are untouched and no redo is pending. -/
structure LeavesRunIntact (before after : RunRecord) : Prop where
  rawSources : after.detail.rawSources = before.detail.rawSources
  competitorKbs : after.detail.competitorKbs = before.detail.competitorKbs
  competitorKnowledge :
    after.detail.competitorKnowledge = before.detail.competitorKnowledge
  comparisonMatrix :
    after.detail.comparisonMatrix = before.detail.comparisonMatrix
  reflections : after.detail.reflections = before.detail.reflections
  qaFindings : after.detail.qaFindings = before.detail.qaFindings
  reportMd : after.detail.reportMd = before.detail.reportMd
  noPendingRedo : after.pendingGraphRedo = none

/-- The refusal is decided before anything is prepared. -/
def RefusedBeforePreparation (detail : RunDetail) : Prop :=
  detail.qaFindings = [] ∨ detail.redoLimitReached = true

/-- Reviewing changes only the plan and the current node. -/
theorem reviewedRecord_intact (record : RunRecord)
    (request : HitlResumeRequest) (idle : record.pendingGraphRedo = none) :
    LeavesRunIntact record (reviewedRecord record request) := by
  unfold reviewedRecord
  rw [applyReviewedDimensions_frame]
  exact
    { rawSources := rfl
      competitorKbs := rfl
      competitorKnowledge := rfl
      comparisonMatrix := rfl
      reflections := rfl
      qaFindings := rfl
      reportMd := rfl
      noPendingRedo := idle }

theorem refusedBeforePreparation_reviewedRecord (record : RunRecord)
    (request : HitlResumeRequest) :
    RefusedBeforePreparation (reviewedRecord record request).detail ↔
      RefusedBeforePreparation record.detail := by
  unfold reviewedRecord
  rw [applyReviewedDimensions_frame]
  exact Iff.rfl

theorem revisionLimitRecord_intact {before record : RunRecord}
    (intact : LeavesRunIntact before record) :
    LeavesRunIntact before (revisionLimitRecord record) :=
  { rawSources := intact.rawSources
    competitorKbs := intact.competitorKbs
    competitorKnowledge := intact.competitorKnowledge
    comparisonMatrix := intact.comparisonMatrix
    reflections := intact.reflections
    qaFindings := intact.qaFindings
    reportMd := intact.reportMd
    noPendingRedo := intact.noPendingRedo }

private theorem finalQaRouteState_redoKind_eq_none {state : GraphState}
    {maxIterations : Nat} {route : RedoRoute} :
    (finalQaRouteState state maxIterations (some route)).redoKind = none ↔
      maxIterations ≤ state.finalQaAttempts := by
  unfold finalQaRouteState
  by_cases exhausted : maxIterations ≤ state.finalQaAttempts
  · simp [exhausted]
  · simp [exhausted]

section

variable [PyRuntime]

/-- A redo decision that ends at the graph's end leaves the run as it was
exactly when it was refused before preparation with nothing pending; any other
decision must not be refused by the graph's own attempts. -/
theorem refusedRedo_leavesRunIntact_iff {record next : RunRecord}
    {state after : GraphState} {request : HitlResumeRequest}
    (decided : request.decision = .redo)
    (node : qaHitlNode record state request = .ok (next, after)) :
    (after.redoKind = none → LeavesRunIntact record next) ↔
      (RefusedBeforePreparation record.detail ∧
          record.pendingGraphRedo = none) ∨
        (¬ RefusedBeforePreparation record.detail ∧
          state.finalQaAttempts < record.detail.maxIterations) := by
  obtain ⟨route, stepped, rfl⟩ := qaHitlNode_eq_ok node
  have prepares := redo_preparesReviewed decided stepped
  have maximum := (realQaHitlStep_log stepped).2
  rw [← refusedBeforePreparation_reviewedRecord record request, maximum]
  cases prepares with
  | noFindings findings =>
      have refused : RefusedBeforePreparation
          (reviewedRecord record request).detail := .inl findings
      constructor
      · intro intact
        exact .inl ⟨refused, (intact rfl).noPendingRedo⟩
      · rintro (⟨-, idle⟩ | ⟨open', -⟩) -
        · exact reviewedRecord_intact record request idle
        · exact (open' refused).elim
  | limitReached findings limit =>
      have refused : RefusedBeforePreparation
          (reviewedRecord record request).detail := .inr limit
      constructor
      · intro intact
        exact .inl ⟨refused, (intact rfl).noPendingRedo⟩
      · rintro (⟨-, idle⟩ | ⟨open', -⟩) -
        · exact revisionLimitRecord_intact
            (reviewedRecord_intact record request idle)
        · exact (open' refused).elim
  | prepared findings limit selected inputs =>
      have passed : ¬ RefusedBeforePreparation
          (reviewedRecord record request).detail := by
        rintro (noFindings | limitReached)
        · exact findings noFindings
        · rw [limit] at limitReached
          cases limitReached
      rw [finalQaRouteState_redoKind_eq_none]
      constructor
      · -- The pending slot is written before the graph counts its attempts.
        intro intact
        refine .inr ⟨passed, ?_⟩
        by_contra exhausted
        have noPending := (intact (Nat.not_lt.mp exhausted)).noPendingRedo
        cases noPending
      · rintro (⟨refused, -⟩ | ⟨-, attempts⟩) exhausted
        · exact (passed refused).elim
        · exact absurd exhausted (Nat.not_le.mpr attempts)

end

/-- A run without findings: the decision to redo is refused at once. -/
theorem refusedRedo_leavesRunIntact_noFindings :
    let plan : AnalysisPlan :=
      { competitors := ["Acme"]
        dimensions := ["pricing"] }
    let record : RunRecord :=
      { detail :=
          { id := "run-1"
            plan := plan
            rawSources :=
              [{ id := "S1", competitor := "Acme", dimension := "pricing" }] } }
    LeavesRunIntact record
      { detail := { record.detail with currentNode := some "qa_hitl" } } :=
  (@refusedRedo_leavesRunIntact_iff asciiRuntime _ _ {} _
    { decision := .redo } rfl rfl).mpr (.inl ⟨.inl rfl, rfl⟩) rfl

/-- Two attempts of the graph are used up while no revision has been recorded:
the whole run is emptied for a redo that the graph then refuses. -/
theorem refusedRedo_not_leavesRunIntact :
    ¬ ∀ (record next : RunRecord) (state after : GraphState)
        (request : HitlResumeRequest),
        request.decision = .redo →
        @qaHitlNode asciiRuntime record state request = .ok (next, after) →
        after.redoKind = none → LeavesRunIntact record next := by
  intro intact
  have emptied := intact
    { detail :=
        { id := "run-1"
          plan :=
            { competitors := ["Acme"]
              dimensions := ["pricing"] }
          maxIterations := 2
          hitlEnabled := true
          rawSources :=
            [{ id := "S1", competitor := "Acme", dimension := "pricing" }]
          reportMd := "Report [S1]"
          qaFindings :=
            [{ id := "Q1"
               severity := .blocker
               detectedBy := .coverage
               targetAgent := "orchestrator"
               redoScope := { kind := .full } }] }
      pendingGraphRedo := some
        { iteration := 1
          stage := .full
          redoScope := { kind := .full }
          redoScopes := [{ kind := .full }]
          beforeMd := "Draft"
          issueIds := ["Q1"]
          qaIssueIdsBefore := ["Q1"]
          issueCountBefore := 1 } }
    _ { finalQaAttempts := 2 } _ { decision := .redo } rfl rfl rfl
  have noSources := emptied.rawSources
  cases noSources

end CompetiScope
