import CompetiScope.Orchestrator.FinalQa

/-!
# Revisions of a run

A redo is noted in the pending slot when it starts and becomes a revision when
its graph has ended.  A graph execution may start further redos before that,
and its end may start a scoped redo of its own.
-/

namespace CompetiScope

open Foundation

inductive GraphKind where
  | real
  | demo
  | scopedRedo
  deriving DecidableEq

/-- What runs for a run id.  `demoRedo` is the demo graph started by
`run_scoped_redo`, which keeps the redo in local variables until it returns. -/
inductive Activity where
  | idle
  | graph (kind : GraphKind)
  | demoRedo (pending : PendingGraphRedo)

/-- A run and the redos it started: the report just before each of those
whose graph has not ended, and of those that were executed to their end. -/
structure RevisionRun where
  record : RunRecord
  state : GraphState := {}
  activity : Activity
  inProgress : List String := []
  executed : List String := []

inductive RevisionAction where
  /-- A command to redo; `runScopedRedo` from outside. -/
  | requestRedo (preferredIssueIds : List String)
  /-- Nodes of the graph rewrite the outputs of the run. -/
  | work (outputs : RunDetail)
  /-- The final QA checkpoint is answered. -/
  | decide (request : HitlResumeRequest)
  /-- The graph reaches its end; the projection rewrites some outputs and the
  release gate is evaluated. -/
  | endGraph (synced : RunDetail) (gateAllowed : Bool)
  /-- The graph fails, with whatever it left in the slot. -/
  | failGraph (leftover : Option PendingGraphRedo)
  /-- The demo graph of a scoped redo stops at a review. -/
  | interruptDemo

/-- What nodes and projections may rewrite: everything but the settings and
the revisions. -/
def RunDetail.withOutputs (detail outputs : RunDetail) : RunDetail :=
  { outputs with
    id := detail.id
    executionMode := detail.executionMode
    maxIterations := detail.maxIterations
    autoRedoWarnEnabled := detail.autoRedoWarnEnabled
    hitlEnabled := detail.hitlEnabled
    revisions := detail.revisions }

/-- `build_revision_record` of `_record_revision`. -/
def revisionOf (pending : PendingGraphRedo) (detail : RunDetail) :
    RevisionRecord :=
  { iteration := pending.iteration
    stage := pending.stage
    targetSubagent := pending.redoScope.targetSubagent
    targetCompetitor := pending.redoScope.targetCompetitor
    targetCompetitors := pending.redoScope.targetCompetitors
    redoScopes := pending.redoScopes
    beforeMd := pending.beforeMd
    afterMd := detail.reportMd
    issueIds := pending.issueIds
    qaIssueIdsBefore := pending.qaIssueIdsBefore
    issueCountBefore := pending.issueCountBefore
    issueCountAfter := detail.qaFindings.length
    structuredTargets :=
      if pending.structuredTargets.entries ≠ [] then
        pending.structuredTargets
      else
        structuredRedoTargets
          (detail.qaFindings.filter (·.id ∈ pending.issueIds)) }

/-- `_record_pending_graph_redo`. -/
def recordPendingGraphRedo (record : RunRecord) : RunRecord :=
  match record.pendingGraphRedo with
  | none => record
  | some pending =>
      { detail :=
          { record.detail with
            revisions :=
              record.detail.revisions ++ [revisionOf pending record.detail] } }

/-- The tests of `_maybe_run_auto_redo`. -/
def autoRedoWanted (autoRedoEnabled : Bool) (detail : RunDetail) : Bool :=
  !detail.hitlEnabled && autoRedoEnabled &&
    detail.qaFindings.any (fun issue =>
      issue.severity = .blocker ||
        (detail.autoRedoWarnEnabled && issue.severity = .warn)) &&
    !detail.redoLimitReached

/-- The run once `_record_pending_graph_redo` has settled its redos. -/
def settle (run : RevisionRun) : RevisionRun :=
  { record := recordPendingGraphRedo run.record
    activity := .idle
    executed := run.executed ++ run.inProgress }

/-- The rest of a finalisation: the projection and the release gate. -/
def completeRun (run : RevisionRun) (synced : RunDetail)
    (gateAllowed : Bool) : RevisionRun :=
  { run with
    record :=
      { run.record with
        detail :=
          { run.record.detail.withOutputs synced with
            status :=
              if gateAllowed then .completed else .completedWithBlockers
            currentNode := none } } }

/-- Whether the end of a graph may start an automatic redo before the
projection: `_finalize_real_pipeline` always, `_finalize_scoped_redo_graph`
for a redo that continues automatically, `_finalize_demo_pipeline` never. -/
def continuesAutomatically (kind : GraphKind) (record : RunRecord) : Bool :=
  match kind with
  | .real => true
  | .demo => false
  | .scopedRedo => record.pendingGraphRedo.any (·.autoContinue)

/-- The end of a demo redo: the demo finalisation, then the redo kept in the
local variables is recorded. -/
def finalizeDemoRedo (pending : PendingGraphRedo) (synced : RunDetail)
    (gateAllowed : Bool) (run : RevisionRun) : RevisionRun :=
  let completed := completeRun (settle run) synced gateAllowed
  { completed with
    record := recordPendingGraphRedo
      { completed.record with pendingGraphRedo := some pending } }

/-- `run_pipeline` of a new run. -/
def pipelineStart (detail : RunDetail) : RevisionRun :=
  { record :=
      { detail := { detail with revisions := [], status := .running } }
    activity :=
      match detail.executionMode with
      | .real => .graph .real
      | .demo => .graph .demo }

section

variable [PyRuntime]

/-- The part of `run_scoped_redo` for a selection with first issue
`primary`: the demo graph runs first and the redo is noted afterwards, the
real graph starts with the redo in the slot. -/
def startScopedRedo (run : RevisionRun) (primary : QCIssue)
    (others : List QCIssue) (autoContinue : Bool) : RevisionRun :=
  match run.record.detail.executionMode with
  | .demo =>
      { run with
        record :=
          { run.record with
            detail := { run.record.detail with status := .running } }
        state := {}
        activity := .demoRedo
          (pendingRedo run.record.detail primary others autoContinue)
        inProgress := [run.record.detail.reportMd] }
  | .real =>
      match prepareRedoScopeInputs run.record.detail
          (mergeRedoScopes primary others) with
      | .error _ =>
          { run with
            record :=
              { detail :=
                  { run.record.detail with
                    status := .failed
                    currentNode := none }
                pendingGraphRedo := some
                  (pendingRedo run.record.detail primary others
                    autoContinue) }
            activity := .idle }
      | .ok prepared =>
          { run with
            record :=
              { detail := { prepared.detail with status := .running }
                pendingGraphRedo := some
                  (pendingRedo run.record.detail primary others
                    autoContinue) }
            state :=
              { dimensions := prepared.dimensions
                targetCompetitors := prepared.targetCompetitors
                redoKind := some (mergeRedoScopes primary others).kind }
            activity := .graph .scopedRedo
            inProgress := [run.record.detail.reportMd] }

/-- `run_scoped_redo` up to the start of its graph. -/
def runScopedRedo (run : RevisionRun) (preferredIssueIds : List String)
    (autoContinue : Bool) : RevisionRun :=
  if run.record.detail.redoLimitReached then
    { run with
      record :=
        { run.record with
          detail :=
            { run.record.detail with
              status := .completed
              currentNode := none } }
      activity := .idle }
  else if run.record.detail.qaFindings = [] then
    { run with activity := .idle }
  else
    match selectRedoIssues run.record.detail preferredIssueIds with
    | [] => { run with activity := .idle }
    | primary :: others => startScopedRedo run primary others autoContinue

/-- `_maybe_run_release_gate_auto_redo` after the projection. -/
def finishRun (autoRedoEnabled gateAllowed : Bool) (completed : RevisionRun) :
    RevisionRun :=
  if !gateAllowed && completed.record.detail.executionMode = .real &&
      autoRedoWanted autoRedoEnabled completed.record.detail then
    runScopedRedo completed [] true
  else completed

/-- The finalisation of a graph execution. -/
def finalizeGraph (autoRedoEnabled : Bool) (kind : GraphKind)
    (synced : RunDetail) (gateAllowed : Bool) (run : RevisionRun) :
    RevisionRun :=
  if continuesAutomatically kind run.record &&
      autoRedoWanted autoRedoEnabled (settle run).record.detail then
    runScopedRedo (settle run) [] true
  else
    finishRun autoRedoEnabled gateAllowed
      (completeRun (settle run) synced gateAllowed)

/-- The final QA checkpoint; a redo that the graph follows is in progress. -/
def decideFinalQa (run : RevisionRun) (request : HitlResumeRequest) :
    Option RevisionRun :=
  match qaHitlNode run.record run.state request with
  | .error _ => none
  | .ok (next, state) =>
      if next.detail.status = .failed then
        some { run with record := next, activity := .idle, inProgress := [] }
      else
        some
          { run with
            record := next
            state := state
            inProgress :=
              if state.redoKind.isSome then
                run.inProgress ++ [run.record.detail.reportMd]
              else run.inProgress }

def revisionStep (autoRedoEnabled : Bool) (run : RevisionRun) :
    RevisionAction → Option RevisionRun
  | .requestRedo preferredIssueIds =>
      match run.activity with
      | .idle => some (runScopedRedo run preferredIssueIds false)
      | _ => none
  | .work outputs =>
      match run.activity with
      | .idle => none
      | _ =>
          some
            { run with
              record :=
                { run.record with
                  detail := run.record.detail.withOutputs outputs } }
  | .decide request =>
      match run.activity with
      | .graph _ => decideFinalQa run request
      | _ => none
  | .endGraph synced gateAllowed =>
      match run.activity with
      | .idle => none
      | .graph kind =>
          some (finalizeGraph autoRedoEnabled kind synced gateAllowed run)
      | .demoRedo pending =>
          some (finalizeDemoRedo pending synced gateAllowed run)
  | .failGraph leftover =>
      match run.activity with
      | .idle => none
      | _ =>
          some
            { run with
              record := { run.record with pendingGraphRedo := leftover }
              activity := .idle
              inProgress := [] }
  | .interruptDemo =>
      match run.activity with
      | .demoRedo pending =>
          some
            { run with
              record := recordPendingGraphRedo
                { run.record with pendingGraphRedo := some pending }
              activity := .graph .demo }
      | _ => none

end

end CompetiScope
