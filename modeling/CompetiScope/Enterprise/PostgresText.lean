import CompetiScope.Enterprise.ReportLifecycle
import CompetiScope.Foundation.Json
import CompetiScope.Schema.Monitoring

/-!
# Texts in Postgres

Postgres holds no control characters, so every text is translated before it
is written, those inside JSON values included.
-/

namespace CompetiScope

open Foundation

/-- `_CONTROL_CHAR_TRANSLATION`. -/
def translateControlChar (char : Char) : List Char :=
  if char.toNat = 0 then []
  else if char.toNat < 32 ∧ char ∉ ['\t', '\n', '\r'] then [' ']
  else [char]

/-- `sanitize_postgres_text`. -/
def sanitizePostgresText (value : String) : String :=
  String.ofList (value.toList.flatMap translateControlChar)

/-- What `sanitize_postgres_value` is defined on. -/
class PostgresValue (Value : Type) where
  sanitize : Value → Value

/-- `sanitize_postgres_value`. -/
def sanitizePostgresValue {Value : Type} [PostgresValue Value] :
    Value → Value :=
  PostgresValue.sanitize

instance : PostgresValue String :=
  { sanitize := sanitizePostgresText }

instance {Value : Type} [PostgresValue Value] :
    PostgresValue (Option Value) :=
  { sanitize := Option.map sanitizePostgresValue }

instance {Value : Type} [PostgresValue Value] : PostgresValue (List Value) :=
  { sanitize := List.map sanitizePostgresValue }

instance {Value : Type} [PostgresValue Value] :
    PostgresValue (Dict String Value) :=
  { sanitize := fun dict =>
      dict.entries.foldl
        (fun sanitized entry =>
          sanitized.set (sanitizePostgresText entry.1)
            (sanitizePostgresValue entry.2))
        ∅ }

instance : PostgresValue MetadataValue :=
  { sanitize := fun value =>
      match value with
      | .text value => .text (sanitizePostgresText value)
      | .texts values => .texts (sanitizePostgresValue values)
      | other => other }

mutual

def sanitizeJson : Json → Json
  | .str value => .str (sanitizePostgresText value)
  | .arr items => .arr (sanitizeItems items)
  | .obj fields => .obj (sanitizeFields fields ∅).entries
  | other => other

def sanitizeItems : List Json → List Json
  | [] => []
  | item :: items => sanitizeJson item :: sanitizeItems items

def sanitizeFields : List (String × Json) → Dict String Json →
    Dict String Json
  | [], sanitized => sanitized
  | (key, value) :: fields, sanitized =>
      sanitizeFields fields
        (sanitized.set (sanitizePostgresText key) (sanitizeJson value))

end

instance : PostgresValue Json :=
  { sanitize := sanitizeJson }

/-! ## Report versions -/

instance : PostgresValue ReportReleaseGate :=
  { sanitize := fun gate =>
      { gate with
        readinessRiskLevel := sanitizePostgresValue gate.readinessRiskLevel
        issueIds := sanitizePostgresValue gate.issueIds } }

instance : PostgresValue ReportLifecycleEvent :=
  { sanitize := fun event =>
      { event with
        event := sanitizePostgresValue event.event
        actorId := sanitizePostgresValue event.actorId
        approverIds := sanitizePostgresValue event.approverIds
        note := sanitizePostgresValue event.note
        releaseGate := sanitizePostgresValue event.releaseGate } }

instance : PostgresValue HitlEventMetadata :=
  { sanitize := fun metadata =>
      match metadata with
      | .approvers approverIds =>
          .approvers (sanitizePostgresValue approverIds)
      | .gate releaseGate => .gate (sanitizePostgresValue releaseGate)
      | .source reportVersionId status nextVersionNumber =>
          .source (sanitizePostgresValue reportVersionId) status
            nextVersionNumber }

instance : PostgresValue HitlLifecycleEvent :=
  { sanitize := fun event =>
      { event with
        id := sanitizePostgresValue event.id
        decision := sanitizePostgresValue event.decision
        actorId := sanitizePostgresValue event.actorId
        targetType := sanitizePostgresValue event.targetType
        targetId := sanitizePostgresValue event.targetId
        runId := sanitizePostgresValue event.runId
        reportVersionId := sanitizePostgresValue event.reportVersionId
        resultAction := sanitizePostgresValue event.resultAction
        note := sanitizePostgresValue event.note
        metadata := sanitizePostgresValue event.metadata } }

instance : PostgresValue ApprovalWorkflow :=
  { sanitize := fun workflow =>
      { workflow with
        requestedBy := sanitizePostgresValue workflow.requestedBy
        approverIds := sanitizePostgresValue workflow.approverIds
        decidedBy := sanitizePostgresValue workflow.decidedBy
        note := sanitizePostgresValue workflow.note
        releaseGate := sanitizePostgresValue workflow.releaseGate } }

instance : PostgresValue Publication :=
  { sanitize := fun publication =>
      { publication with
        publishedBy := sanitizePostgresValue publication.publishedBy
        releaseGate := sanitizePostgresValue publication.releaseGate
        evalopsReleaseContract :=
          { publication.evalopsReleaseContract with
            reason := sanitizePostgresValue
              publication.evalopsReleaseContract.reason } } }

instance : PostgresValue ManualRevision :=
  { sanitize := fun revision =>
      { revision with
        sourceReportVersionId :=
          sanitizePostgresValue revision.sourceReportVersionId
        editedBy := sanitizePostgresValue revision.editedBy
        note := sanitizePostgresValue revision.note } }

/-- The entries that are kept serialised are sanitised by a function of their
texts. -/
def ReportQualityMetadata.sanitize (serialised : String → String)
    (metadata : ReportQualityMetadata) : ReportQualityMetadata :=
  { reportLifecycle := sanitizePostgresValue metadata.reportLifecycle
    hitlLifecycle := sanitizePostgresValue metadata.hitlLifecycle
    approvalWorkflow := sanitizePostgresValue metadata.approvalWorkflow
    publication := sanitizePostgresValue metadata.publication
    manualRevision := sanitizePostgresValue metadata.manualRevision
    entries :=
      metadata.entries.entries.foldl
        (fun sanitized entry =>
          sanitized.set (sanitizePostgresText entry.1) (serialised entry.2))
        ∅ }

instance : PostgresValue ReportArtifact :=
  { sanitize := fun artifact =>
      { coreMarkdown := sanitizePostgresValue artifact.coreMarkdown
        supportMarkdown := sanitizePostgresValue artifact.supportMarkdown
        auditMarkdown := sanitizePostgresValue artifact.auditMarkdown
        fullMarkdown := sanitizePostgresValue artifact.fullMarkdown } }

/-! ## Rows -/

/-- The parameters of `_upsert_report_version`. -/
def ReportVersionRecord.row (serialised : String → String)
    (version : ReportVersionRecord) : ReportVersionRecord :=
  { version with
    reportMd := sanitizePostgresValue version.reportMd
    coreReportMd := sanitizePostgresValue version.coreReportMd
    supportAppendixMd := sanitizePostgresValue version.supportAppendixMd
    auditLogMd := sanitizePostgresValue version.auditLogMd
    fullReportMd := sanitizePostgresValue version.fullReportMd
    reportArtifact := sanitizePostgresValue version.reportArtifact
    qualityMetadata := version.qualityMetadata.sanitize serialised }

/-- The parameters of `_upsert_claim`. -/
def ClaimRecord.row (claim : ClaimRecord) : ClaimRecord :=
  { claim with
    claimType := sanitizePostgresValue claim.claimType
    claimText := sanitizePostgresValue claim.claimText
    createdByAgent := sanitizePostgresValue claim.createdByAgent }

/-- The parameters of `_upsert_notification`. -/
def NotificationRecord.row (notification : NotificationRecord) :
    NotificationRecord :=
  { notification with
    title := sanitizePostgresValue notification.title
    body := sanitizePostgresValue notification.body
    resourceType := sanitizePostgresValue notification.resourceType
    metadata := sanitizePostgresValue notification.metadata }

/-- The parameters of `_upsert_monitor_job`. -/
def MonitorJobRecord.row (job : MonitorJobRecord) : MonitorJobRecord :=
  { job with
    name := sanitizePostgresValue job.name
    dimensions := sanitizePostgresValue job.dimensions
    competitorIds := sanitizePostgresValue job.competitorIds
    schedule := sanitizePostgresValue job.schedule
    notificationTarget := sanitizePostgresValue job.notificationTarget
    lastError := sanitizePostgresValue job.lastError
    metadata := sanitizePostgresValue job.metadata }

end CompetiScope
