import CompetiScope.Schema.Enterprise

/-!
# Monitor jobs and notifications

The records of `schema/enterprise.py` that monitors and their alerts are kept
in.
-/

namespace CompetiScope

open Foundation

inductive MonitorJobStatus where
  | active
  | paused
  | disabled
  deriving DecidableEq

inductive MonitorRunStatus where
  | idle
  | running
  | completed
  | interrupted
  | failed
  deriving DecidableEq

inductive MonitorExecutionMode where
  | auto
  | demo
  | real
  deriving DecidableEq

inductive MonitorAlertPolicy where
  | allAnomalies
  | criticalOnly
  | none
  deriving DecidableEq

inductive MonitorReleasePolicy where
  | reviewRequired
  | manualOnly
  | autoPublishAllowed
  deriving DecidableEq

structure MonitorJobRecord where
  id : String
  workspaceId : String
  projectId : String
  name : String
  dimensions : List String := []
  competitorIds : List String := []
  schedule : String := "manual"
  intervalSeconds : Nat := 604800
  maxCycles : Nat := 1
  executionMode : MonitorExecutionMode := .auto
  alertPolicy : MonitorAlertPolicy := .allAnomalies
  releasePolicy : MonitorReleasePolicy := .reviewRequired
  notificationTarget : String := "in_app"
  status : MonitorJobStatus := .active
  lastStatus : MonitorRunStatus := .idle
  lastWorkflowId : Option String := none
  lastRunId : Option String := none
  lastReportVersionId : Option String := none
  lastError : String := ""
  lastStartedAt : Option Nat := none
  lastCompletedAt : Option Nat := none
  nextRunAt : Option Nat := none
  createdBy : Option String := none
  createdAt : Nat := 0
  updatedAt : Nat := 0
  metadata : Dict String MetadataValue := ∅
  deriving DecidableEq

structure MonitorJobUpdateRequest where
  name : Option String := none
  dimensions : Option (List String) := none
  schedule : Option String := none
  intervalSeconds : Option Nat := none
  maxCycles : Option Nat := none
  executionMode : Option MonitorExecutionMode := none
  alertPolicy : Option MonitorAlertPolicy := none
  releasePolicy : Option MonitorReleasePolicy := none
  notificationTarget : Option String := none
  status : Option MonitorJobStatus := none
  nextRunAt : Option Nat := none
  metadata : Option (Dict String MetadataValue) := none

inductive NotificationType where
  | scheduledScanSummary
  | scheduledScanFailure
  | approvalRequest
  | approvalTimeout
  | anomalyAlert
  | quotaWarning
  | releaseGateBlocked
  deriving DecidableEq

inductive NotificationChannel where
  | inApp
  | email
  | webhook
  | feishu
  deriving DecidableEq

inductive NotificationSeverity where
  | info
  | success
  | warning
  | critical
  deriving DecidableEq

inductive NotificationStatus where
  | queued
  | sent
  | failed
  | read
  deriving DecidableEq

structure NotificationRecord where
  id : String
  workspaceId : String
  projectId : Option String := none
  notificationType : NotificationType
  channel : NotificationChannel := .inApp
  severity : NotificationSeverity := .info
  status : NotificationStatus := .queued
  title : String
  body : String := ""
  resourceType : Option String := none
  resourceId : Option String := none
  createdBy : Option String := none
  createdAt : Nat := 0
  sentAt : Option Nat := none
  readAt : Option Nat := none
  metadata : Dict String MetadataValue := ∅
  deriving DecidableEq

end CompetiScope
