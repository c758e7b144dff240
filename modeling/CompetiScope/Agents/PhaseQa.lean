import Mathlib.Data.String.Basic
import CompetiScope.Agents.KnowledgeSlots

/-!
# Phase QA: blockers, scope of a retry and routing

`_route_phase_qa` decides between passing on, retrying the phase for the
blocking dimensions and competitors, and failing the run.
-/

namespace CompetiScope

open Foundation

inductive Phase where
  | collect
  | analyst
  deriving DecidableEq

def Phase.targetAgent : Phase → String
  | collect => "collector"
  | analyst => "analyst"

def Phase.node : Phase → String
  | collect => "collect_qa"
  | analyst => "analyst_qa"

inductive PhaseRoute where
  | retry
  | pass
  | fail
  deriving DecidableEq

/-- The findings that block a phase. -/
def phaseBlockers (findings : List QCIssue) (phase : Phase) : List QCIssue :=
  findings.filter fun issue =>
    issue.severity = .blocker && issue.targetAgent = phase.targetAgent

/-- `_blocking_phase_issues`. -/
def blockingPhaseIssues (detail : RunDetail) (phase : Phase) : List QCIssue :=
  phaseBlockers detail.qaFindings phase

/-- The values of an optional target that are members of the plan. -/
def planTargets (target : QCIssue → Option String) (allowed : List String)
    (issues : List QCIssue) : List String :=
  (issues.filterMap target).filter (· ∈ allowed)

/-- `sorted(_issue_dimensions(...))`: every plan dimension when no blocker
names one. -/
def issueDimensions (plan : AnalysisPlan) (issues : List QCIssue) :
    List String :=
  let dimensions := planTargets (·.targetSubagent) plan.dimensions issues
  sortedSet (if dimensions = [] then plan.dimensions else dimensions)

/-- `sorted(_issue_target_competitors(...))`; empty means all of them. -/
def issueTargetCompetitors (plan : AnalysisPlan) (issues : List QCIssue) :
    List String :=
  sortedSet (planTargets (·.targetCompetitor) plan.competitors issues)

section

variable [PyRuntime]

/-- Sources dropped before a collect-phase retry. -/
def collectRetryRemoves (dimensions targets : List String)
    (source : RawSource) : Bool :=
  source.dimension ∈ dimensions &&
    (targets = [] ||
      targets.any fun competitor => sourceMatchesCompetitor source competitor)

/-- The clearing loop of a retry over its dimensions and competitors. -/
def clearRetryOutputs (dimensions targets : List String)
    (detail : RunDetail) : RunDetail :=
  dimensions.foldl (clearDimensionFor targets) detail

/-- Sources are only dropped by a collect retry. -/
def removeRetrySources (phase : Phase) (dimensions targets : List String)
    (detail : RunDetail) : RunDetail :=
  match phase with
  | .collect =>
      { detail with
        rawSources := detail.rawSources.filter fun source =>
          !collectRetryRemoves dimensions targets source }
  | .analyst => detail

/-- The run detail after a phase has been sent back. -/
def preparePhaseRetry (detail : RunDetail) (phase : Phase) : RunDetail :=
  let blockers := blockingPhaseIssues detail phase
  let dimensions := issueDimensions detail.plan blockers
  let targets := issueTargetCompetitors detail.plan blockers
  { clearRetryOutputs dimensions targets
      (removeRetrySources phase dimensions targets detail) with
    comparisonMatrix := none
    reflections := [] }

/-- `_route_phase_qa`. -/
def routePhaseQa (detail : RunDetail) (attempts : Nat) (phase : Phase) :
    RunDetail × PhaseRoute :=
  if blockingPhaseIssues detail phase = [] then
    ({ detail with qaFindings := [] }, .pass)
  else if detail.maxIterations ≤ attempts then
    ({ detail with status := .failed, currentNode := some phase.node }, .fail)
  else (preparePhaseRetry detail phase, .retry)

theorem clearRetryOutputs_sameSettings (dimensions targets : List String)
    (detail : RunDetail) :
    detail.SameSettings (clearRetryOutputs dimensions targets detail) :=
  RunDetail.SameSettings.foldl (clearDimensionFor_sameSettings targets)
    dimensions detail

theorem removeRetrySources_sameSettings (phase : Phase)
    (dimensions targets : List String) (detail : RunDetail) :
    detail.SameSettings
      (removeRetrySources phase dimensions targets detail) := by
  cases phase with
  | collect => exact ⟨rfl, rfl, rfl, rfl⟩
  | analyst => exact .refl detail

theorem preparePhaseRetry_sameSettings (detail : RunDetail) (phase : Phase) :
    detail.SameSettings (preparePhaseRetry detail phase) := by
  have cleared : ∀ dimensions targets, detail.SameSettings
      (clearRetryOutputs dimensions targets
        (removeRetrySources phase dimensions targets detail)) :=
    fun dimensions targets =>
      (removeRetrySources_sameSettings phase dimensions targets detail).trans
        (clearRetryOutputs_sameSettings dimensions targets _)
  have same := cleared
    (issueDimensions detail.plan (blockingPhaseIssues detail phase))
    (issueTargetCompetitors detail.plan (blockingPhaseIssues detail phase))
  exact ⟨same.plan, same.maxIterations, same.revisions, same.hitlEnabled⟩

theorem routePhaseQa_sameSettings (detail : RunDetail) (attempts : Nat)
    (phase : Phase) :
    detail.SameSettings (routePhaseQa detail attempts phase).1 := by
  unfold routePhaseQa
  split
  · exact ⟨rfl, rfl, rfl, rfl⟩
  · split
    · exact ⟨rfl, rfl, rfl, rfl⟩
    · exact preparePhaseRetry_sameSettings detail phase

end

end CompetiScope
