import CompetiScope.Enterprise.EvidenceLifecycle
import CompetiScope.Schema.Monitoring

/-!
# Monitor jobs in the two stores

How the jobs are written, updated and marked with the runs of their cycles.
-/

namespace CompetiScope

open Foundation

namespace MonitorRunStatus

def value : MonitorRunStatus → String
  | .idle => "idle"
  | .running => "running"
  | .completed => "completed"
  | .interrupted => "interrupted"
  | .failed => "failed"

/-- The statuses that set `last_completed_at`. -/
def completes (backend : StoreBackend) : MonitorRunStatus → Bool
  | .completed => true
  | .failed => true
  | .interrupted => backend = .postgres
  | .idle => false
  | .running => false

end MonitorRunStatus

/-- What `record_monitor_job_run` is told of a run. -/
structure MonitorRunReport where
  status : MonitorRunStatus
  workflowId : Option String := none
  runId : Option String := none
  reportVersionId : Option String := none
  error : String := ""
  deriving DecidableEq

namespace MonitorJobRecord

/-- The job with the values an update gives. -/
def applyUpdate (job : MonitorJobRecord) (update : MonitorJobUpdateRequest)
    (now : Nat) : MonitorJobRecord :=
  { job with
    name := update.name.getD job.name
    dimensions := update.dimensions.getD job.dimensions
    schedule := update.schedule.getD job.schedule
    intervalSeconds := update.intervalSeconds.getD job.intervalSeconds
    maxCycles := update.maxCycles.getD job.maxCycles
    executionMode := update.executionMode.getD job.executionMode
    alertPolicy := update.alertPolicy.getD job.alertPolicy
    releasePolicy := update.releasePolicy.getD job.releasePolicy
    notificationTarget :=
      update.notificationTarget.getD job.notificationTarget
    status := update.status.getD job.status
    nextRunAt := update.nextRunAt.or job.nextRunAt
    metadata :=
      match update.metadata with
      | none => job.metadata
      | some metadata => job.metadata.update metadata
    updatedAt := now }

/-- The job with the run of a cycle. -/
def recordRun (backend : StoreBackend) (job : MonitorJobRecord)
    (report : MonitorRunReport) (now : Nat) : MonitorJobRecord :=
  { job with
    lastStatus := report.status
    lastWorkflowId := orText report.workflowId job.lastWorkflowId
    lastRunId := orText report.runId job.lastRunId
    lastReportVersionId :=
      orText report.reportVersionId job.lastReportVersionId
    lastError := report.error
    lastStartedAt :=
      if report.status = .running then some now else job.lastStartedAt
    lastCompletedAt :=
      if report.status.completes backend then some now
      else job.lastCompletedAt
    updatedAt := now }

end MonitorJobRecord

/-- `record_monitor_job_run` of the in-memory store; a job that is not there
is left alone. -/
def recordMonitorJobRun (now : Nat)
    (jobs : Table String MonitorJobRecord (·.id)) (monitorId : String)
    (report : MonitorRunReport) : Table String MonitorJobRecord (·.id) :=
  match jobs.get? monitorId with
  | none => jobs
  | some job => jobs.upsert (job.recordRun .memory report now)

end CompetiScope
