import CompetiScope.Enterprise.MemoryStore
import CompetiScope.Enterprise.MonitorJobs
import CompetiScope.Enterprise.PostgresText
import CompetiScope.Foundation.StableSort
import CompetiScope.Identity.ReportVersionSources

/-!
# The operations of the two stores

The in-memory store replaces or merges records.  The Postgres store inserts a
row or, on a conflict, updates the columns its statement lists; it reads the
texts it wrote, without their control characters.
-/

namespace CompetiScope

open Foundation

/-- How evidence is parsed and serialised metadata is sanitised. -/
structure BackendSettings where
  parsing : EvidenceParsing
  serialised : String → String

/-- The rows of a store. -/
structure BackendStore where
  sources : EvidenceStore := { }
  claims : Table String ClaimRecord (·.id) := ∅
  versions : Table String ReportVersionRecord (·.id) := ∅
  jobs : Table String MonitorJobRecord (·.id) := ∅
  notifications : Table String NotificationRecord (·.id) := ∅

/-! ## Rows on conflict -/

/-- `_upsert_claim`. -/
def postgresClaim (existing : Option ClaimRecord) (incoming : ClaimRecord) :
    ClaimRecord :=
  match existing with
  | none => incoming
  | some claim =>
      { claim with
        evidenceIds := incoming.evidenceIds
        confidence := incoming.confidence
        status := incoming.status
        cited := incoming.cited }

/-- `_upsert_report_version`. -/
def postgresVersion (existing : Option ReportVersionRecord)
    (incoming : ReportVersionRecord) : ReportVersionRecord :=
  match existing with
  | none => incoming
  | some version =>
      { version with
        status := incoming.status
        reportMd := incoming.reportMd
        coreReportMd := incoming.coreReportMd
        supportAppendixMd := incoming.supportAppendixMd
        auditLogMd := incoming.auditLogMd
        fullReportMd := incoming.fullReportMd
        reportArtifact := incoming.reportArtifact
        claimIds := incoming.claimIds
        evidenceIds := incoming.evidenceIds
        qualityMetadata := incoming.qualityMetadata
        publishedAt := incoming.publishedAt }

/-- `_upsert_notification`. -/
def postgresNotification (existing : Option NotificationRecord)
    (incoming : NotificationRecord) : NotificationRecord :=
  match existing with
  | none => incoming
  | some notification =>
      { incoming with
        workspaceId := notification.workspaceId
        createdBy := notification.createdBy
        createdAt := notification.createdAt }

/-- `_upsert_monitor_job`. -/
def postgresJob (existing : Option MonitorJobRecord)
    (incoming : MonitorJobRecord) : MonitorJobRecord :=
  match existing with
  | none => incoming
  | some job =>
      { incoming with
        workspaceId := job.workspaceId
        projectId := job.projectId
        createdBy := job.createdBy
        createdAt := job.createdAt }

namespace BackendStore

variable (settings : BackendSettings) (backend : StoreBackend)
  (store : BackendStore)

/-! ## Writing rows -/

def writeClaim (claim : ClaimRecord) : BackendStore :=
  { store with
    claims := store.claims.upsert
      (match backend with
      | .memory => claim
      | .postgres => postgresClaim (store.claims.get? claim.id) claim.row) }

def writeVersion (version : ReportVersionRecord) : BackendStore :=
  { store with
    versions := store.versions.upsert
      (match backend with
      | .memory => version
      | .postgres =>
          postgresVersion (store.versions.get? version.id)
            (version.row settings.serialised)) }

def writeNotification (notification : NotificationRecord) : BackendStore :=
  { store with
    notifications := store.notifications.upsert
      (match backend with
      | .memory => notification
      | .postgres =>
          postgresNotification (store.notifications.get? notification.id)
            notification.row) }

def writeJob (job : MonitorJobRecord) : BackendStore :=
  { store with
    jobs := store.jobs.upsert
      (match backend with
      | .memory => job
      | .postgres => postgresJob (store.jobs.get? job.id) job.row) }

/-! ## Report versions -/

/-- `list_evidence` of a project. -/
def listEvidence (projectId : String) : List EvidenceRecord :=
  let linkedIds :=
    (store.versions.values.filter (·.scope.projectId = projectId)).flatMap
      (·.evidenceIds)
  sortDescending (·.capturedAt)
    (store.sources.evidence.values.filter fun item =>
      item.projectId = projectId || item.id ∈ linkedIds)

/-- `_report_scope_evidence`. -/
def reportScopeEvidence (version : ReportVersionRecord) :
    List EvidenceRecord :=
  let inScope := store.sources.evidence.values.filter fun item =>
    item.projectId = version.scope.projectId || item.id ∈ version.evidenceIds
  match backend with
  | .memory => inScope
  | .postgres =>
      if version.evidenceIds = [] then
        store.listEvidence version.scope.projectId
      else sortDescending (·.capturedAt) inScope

/-- The version `upsert_report_version` writes. -/
def canonicalVersion (version : ReportVersionRecord) : ReportVersionRecord :=
  let layered := version.preservingLayers (store.versions.get? version.id)
  normalizeReportVersionSources (store.reportScopeEvidence backend layered)
    layered

/-- `upsert_report_version`. -/
def upsertReportVersion (version : ReportVersionRecord) : BackendStore :=
  store.writeVersion settings backend (store.canonicalVersion backend version)

/-! ## Monitor jobs -/

/-- `upsert_monitor_job`. -/
def upsertMonitorJob (job : MonitorJobRecord) (now : Nat) : BackendStore :=
  store.writeJob backend { job with updatedAt := now }

/-- `update_monitor_job`. -/
def updateMonitorJob (monitorId : String) (update : MonitorJobUpdateRequest)
    (now : Nat) : Option BackendStore :=
  (store.jobs.get? monitorId).map fun job =>
    store.writeJob backend (job.applyUpdate update now)

/-- `record_monitor_job_run`. -/
def recordMonitorJobRun (monitorId : String) (report : MonitorRunReport)
    (now : Nat) : Option BackendStore :=
  (store.jobs.get? monitorId).map fun job =>
    store.writeJob backend (job.recordRun backend report now)

end BackendStore

end CompetiScope
