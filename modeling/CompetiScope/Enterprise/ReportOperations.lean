import CompetiScope.Enterprise.EvidenceLifecycle
import CompetiScope.Identity.ReportVersionSources

/-!
# Operations on report versions

The in-memory store with its versions, their evidence and the audit log, and
every operation that writes a version: the projection of a run, the manual
revision, the gap fill, the upsert of the API, the three approval activities
and the publication.  Each writes the versions of one id.
-/

namespace CompetiScope

open Foundation

/-- An audit entry of a report version. -/
structure ReportAuditLog where
  action : String
  actorId : String
  resourceId : String
  before : Option ReportStatus
  after : ReportStatus
  note : String := ""
  releaseGate : Option ReportReleaseGate := none
  deriving DecidableEq

structure EnterpriseReports where
  evidence : EvidenceStore := { }
  versions : Table String ReportVersionRecord (·.id) := ∅
  auditLogs : List ReportAuditLog := []

/-- The actor of the store itself. -/
def defaultUserId : String :=
  "system-user"

namespace EnterpriseReports

/-- The versions as far as their numbers go. -/
def reportStore (store : EnterpriseReports) : ReportStore :=
  { versions := store.versions.rows.mapValues fun _ version =>
      version.toReportVersion
    keyed := by
      intro id version found
      rw [Dict.get?_mapValues, Option.map_eq_some_iff] at found
      obtain ⟨record, stored, rfl⟩ := found
      exact store.versions.keyed id record stored }

/-- `_report_scope_evidence_locked`. -/
def reportScopeEvidence (store : EnterpriseReports)
    (version : ReportVersionRecord) : List EvidenceRecord :=
  store.evidence.evidence.values.filter fun item =>
    item.projectId = version.scope.projectId || item.id ∈ version.evidenceIds

/-- What `upsert_report_version` stores and returns. -/
def canonicalVersion (store : EnterpriseReports)
    (version : ReportVersionRecord) : ReportVersionRecord :=
  let layered := version.preservingLayers (store.versions.get? version.id)
  normalizeReportVersionSources (store.reportScopeEvidence layered) layered

def appendAudit (store : EnterpriseReports) (log : ReportAuditLog) :
    EnterpriseReports :=
  { store with auditLogs := store.auditLogs ++ [log] }

def appendAuditOnce (store : EnterpriseReports) (log : ReportAuditLog) :
    EnterpriseReports :=
  if store.auditLogs.any fun known =>
      known.action = log.action && known.resourceId = log.resourceId then store
  else store.appendAudit log

/-- `upsert_report_version`. -/
def upsertReportVersion (store : EnterpriseReports)
    (version : ReportVersionRecord) : EnterpriseReports :=
  let before := (store.versions.get? version.id).map (·.status)
  let written :=
    { store with
      versions := store.versions.upsert (store.canonicalVersion version) }
  let upserted := written.appendAudit
    { action := "report_version.upserted"
      actorId := defaultUserId
      resourceId := version.id
      before := before
      after := version.status }
  if before = none ∨ before = some version.status then upserted
  else
    upserted.appendAudit
      { action := "report_version.status_changed"
        actorId := defaultUserId
        resourceId := version.id
        before := before
        after := version.status }

/-- An upsert with the audit entry of the transition it makes. -/
def recordTransition (store : EnterpriseReports)
    (version : ReportVersionRecord) (action actorId : String)
    (before : ReportStatus) (note : String)
    (gate : Option ReportReleaseGate) : EnterpriseReports :=
  (store.upsertReportVersion version).appendAudit
    { action := action
      actorId := actorId
      resourceId := version.id
      before := some before
      after := version.status
      note := note
      releaseGate := gate }

end EnterpriseReports

/-! ## Producers of versions -/

/-- What a projection of a run is built from; `attached` is the text after
the release gate was attached and its warnings repaired. -/
structure RunProjection extends RunReport where
  workspaceId : String := "default-workspace"
  artifact : Option ReportArtifact := none
  evidence : List EvidenceRecord := []
  claimIds : List String := []
  entries : Dict String String := ∅
  attached : Option String := none

/-- The layers `_build_report_version` starts from: core, support and audit. -/
def RunProjection.layers (projection : RunProjection)
    (normalize : String → String) : String × String × String :=
  match projection.artifact with
  | none => (normalize projection.reportMd, "", "")
  | some artifact =>
      (normalize artifact.coreMarkdown, normalize artifact.supportMarkdown,
        normalize artifact.auditMarkdown)

/-- The record `build_enterprise_projection` builds. -/
def projectedRecord (sha256Hex : String → String)
    (projection : RunProjection) (versionNumber : Nat) :
    ReportVersionRecord :=
  let scopedIds := projection.evidence.map (·.id)
  let normalize := normalizedReportMd projection.evidence scopedIds
  let layers := projection.layers normalize
  let given :=
    match projection.artifact with
    | none => projection.reportMd
    | some _ => joinLayers [layers.1, layers.2.1, layers.2.2]
  { projectedVersion sha256Hex projection.toRunReport versionNumber with
    reportMd := normalize given
    workspaceId := projection.workspaceId
    coreReportMd := layers.1
    supportAppendixMd := layers.2.1
    auditLogMd := layers.2.2
    fullReportMd := normalize given
    reportArtifact := projection.artifact.map fun _ =>
      { coreMarkdown := layers.1
        supportMarkdown := layers.2.1
        auditMarkdown := layers.2.2
        fullMarkdown := given }
    claimIds := projection.claimIds
    evidenceIds := normalizedEvidenceIds projection.evidence scopedIds given
    qualityMetadata := { entries := projection.entries } }

/-- The record with the repaired text; a report with an artifact is not
repaired. -/
def repairedRecord (projection : RunProjection)
    (record : ReportVersionRecord) : ReportVersionRecord :=
  match projection.artifact, projection.attached with
  | none, some text => { record with reportMd := text }
  | none, none => record
  | some _, _ => record

structure ManualReportRevisionRequest where
  reportMd : String
  note : String := ""

/-- The draft `_create_manual_report_revision` writes. -/
def revisionRecord (sha256Hex : String → String) (store : EnterpriseReports)
    (source : ReportVersionRecord) (request : ManualReportRevisionRequest)
    (actorId : String) (now : Nat) : ReportVersionRecord :=
  let revision := manualRevision sha256Hex store.reportStore
    source.toReportVersion request.reportMd now
  let metadata : ReportQualityMetadata :=
    { source.qualityMetadata with
      manualRevision := some
        { sourceReportVersionId := source.id
          editedBy := actorId
          note := request.note
          createdAt := now } }
  { revision with
    workspaceId := source.workspaceId
    claimIds := source.claimIds
    evidenceIds := source.evidenceIds
    qualityMetadata := metadata.appendHitlLifecycle
      (buildHitlLifecycleEvent sha256Hex .revisionCreated
        .manualReportRevision "manual_revision" actorId revision.id
        source.runId "create_draft_report_version" request.note
        (.source source.id source.status revision.versionNumber) now
        (metadata.hitlLifecycle.length + 1)) }

/-- What a gap fill found: the gaps it filled, the evidence it filled them
with, the report with the section on them and its `rag_gap_fill` entry.  An
online fill writes the entry again after the `snapshots` of its pages, and
once more when the gates of both versions were compared. -/
structure GapFill where
  filledGapIds : List String
  candidateIds : List String
  reportMd : String
  ragGapFill : String
  snapshots : Option (List EvidenceAction × String) := none
  releaseGateDelta : Option String := none

def ReportQualityMetadata.withRagGapFill (metadata : ReportQualityMetadata)
    (ragGapFill : String) : ReportQualityMetadata :=
  { metadata with
    entries := metadata.entries.set "rag_gap_fill" ragGapFill }

/-- The draft `_write_gap_fill_report_version` writes. -/
def gapFillRecord (sha256Hex : String → String) (store : EnterpriseReports)
    (source : ReportVersionRecord) (fill : GapFill) (now : Nat) :
    ReportVersionRecord :=
  { source with
    toReportVersion := gapFillVersion sha256Hex store.reportStore
      source.toReportVersion fill.filledGapIds fill.candidateIds
      fill.reportMd now
    evidenceIds :=
      orderedUnique ((source.evidenceIds ++ fill.candidateIds).filter
        (· ≠ ""))
    qualityMetadata := source.qualityMetadata.withRagGapFill fill.ragGapFill
    publishedAt := none }

/-! ## The approval activities -/

structure ReportApprovalWorkflowInput where
  reportVersionId : String
  requestedBy : String := "system-user"
  approverIds : List String := []

structure ReportApprovalDecisionInput where
  reportVersionId : String
  approverId : String
  note : String := ""
  deriving DecidableEq

structure ReportApprovalState where
  reportVersionId : String
  workspaceId : String
  projectId : String
  status : ReportStatus
  approverId : Option String := none
  note : String := ""
  deriving DecidableEq

/-- `_approval_state`. -/
def approvalState (version : ReportVersionRecord)
    (approverId : Option String) (note : String) : ReportApprovalState :=
  { reportVersionId := version.id
    workspaceId := version.workspaceId
    projectId := version.scope.projectId
    status := version.status
    approverId := approverId
    note := note }

section

variable (sha256Hex : String → String)

/-- `request_report_approval`. -/
def requestReportApproval (store : EnterpriseReports)
    (request : ReportApprovalWorkflowInput) (now : Nat) :
    Option (EnterpriseReports × ReportApprovalState) :=
  match store.versions.get? request.reportVersionId with
  | none => none
  | some version =>
      if version.status = .published ∨ version.status = .archived then none
      else
        let updated := markReportApprovalRequested sha256Hex version
          request.requestedBy request.approverIds now
        some
          (store.recordTransition updated "report_version.approval_requested"
              request.requestedBy version.status "" none,
            approvalState (store.canonicalVersion updated) none "")

/-- `approve_report_version`, with what the release gate answers. -/
def approveReportVersion (store : EnterpriseReports)
    (decision : ReportApprovalDecisionInput) (gate : ReportReleaseGate)
    (now : Nat) : Option (EnterpriseReports × ReportApprovalState) :=
  match store.versions.get? decision.reportVersionId with
  | none => none
  | some version =>
      if version.status ≠ .inReview then none
      else if ¬ gate.allowed then none
      else
        let updated := markReportApprovalDecision sha256Hex version .approved
          decision.approverId decision.note (some gate) now
        some
          (store.recordTransition updated "report_version.approved"
              decision.approverId version.status decision.note (some gate),
            approvalState (store.canonicalVersion updated)
              (some decision.approverId) decision.note)

/-- `reject_report_version`. -/
def rejectReportVersion (store : EnterpriseReports)
    (decision : ReportApprovalDecisionInput) (now : Nat) :
    Option (EnterpriseReports × ReportApprovalState) :=
  match store.versions.get? decision.reportVersionId with
  | none => none
  | some version =>
      if version.status ≠ .inReview then none
      else
        let updated := markReportApprovalDecision sha256Hex version .rejected
          decision.approverId decision.note none now
        some
          (store.recordTransition updated "report_version.rejected"
              decision.approverId version.status decision.note none,
            approvalState (store.canonicalVersion updated)
              (some decision.approverId) decision.note)

/-- `publish_report`, with what the release gate and the EvalOps contract
answer; `blocking` is the release mode of EvalOps. -/
def publishReport (blocking : Bool) (store : EnterpriseReports)
    (reportVersionId actorId : String) (gate : ReportReleaseGate)
    (contract : EvalOpsReleaseContract) (now : Nat) :
    Option EnterpriseReports :=
  match store.versions.get? reportVersionId with
  | none => none
  | some version =>
      if version.status ≠ .approved ∧ version.status ≠ .published then none
      else if ¬ gate.allowed then none
      else if blocking ∧ ¬ contract.allowed then none
      else
        some
          (store.recordTransition
            (markReportPublished sha256Hex version actorId gate contract now)
            "report_version.published" actorId version.status "" (some gate))

end

/-! ## One operation -/

inductive ReportOperation where
  | syncProjection (projection : RunProjection)
  | reviseManually (reportVersionId : String)
      (request : ManualReportRevisionRequest) (actorId : String) (now : Nat)
  | fillGaps (source : ReportVersionRecord) (fill : GapFill) (now : Nat)
  | upsertVersion (version : ReportVersionRecord)
  | requestApproval (request : ReportApprovalWorkflowInput) (now : Nat)
  | approve (decision : ReportApprovalDecisionInput)
      (gate : ReportReleaseGate) (now : Nat)
  | reject (decision : ReportApprovalDecisionInput) (now : Nat)
  | publish (reportVersionId actorId : String) (gate : ReportReleaseGate)
      (contract : EvalOpsReleaseContract) (now : Nat)
  | writeEvidence (action : EvidenceAction)

/-- What does not change while the service runs. -/
structure ReportSettings where
  parsing : EvidenceParsing
  evalopsBlocking : Bool := false

section

variable [PyRuntime] (settings : ReportSettings)

/-- The writes of evidence, in order. -/
def EnterpriseReports.withEvidence (store : EnterpriseReports)
    (actions : List EvidenceAction) : Option EnterpriseReports :=
  (exec (evidenceStep settings.parsing .memory) store.evidence actions).map
    fun evidence => { store with evidence := evidence }

/-- `save_projection`. -/
def EnterpriseReports.saveProjection (store : EnterpriseReports)
    (projection : RunProjection) (record : ReportVersionRecord) :
    Option EnterpriseReports :=
  (store.withEvidence settings (projection.evidence.map .observe)).map
    fun observed =>
      { observed with
        versions := observed.versions.upsert record }.appendAuditOnce
          { action := "report_version.upserted"
            actorId := defaultUserId
            resourceId := record.id
            before := none
            after := record.status }

/-- `_sync_enterprise_projection`. -/
def syncReportProjection (store : EnterpriseReports)
    (projection : RunProjection) : Option EnterpriseReports :=
  let record := projectedRecord settings.parsing.sha256Hex projection
    (projectionNumber store.reportStore projection.toRunReport)
  let saved := store.saveProjection settings projection record
  match projection.attached with
  | none => saved
  | some _ => saved.bind fun store =>
      store.saveProjection settings projection
        (repairedRecord projection record)

/-- `revise_report`. -/
def reviseReport (store : EnterpriseReports) (reportVersionId : String)
    (request : ManualReportRevisionRequest) (actorId : String) (now : Nat) :
    Option EnterpriseReports :=
  (store.versions.get? reportVersionId).map fun source =>
    store.recordTransition
      (revisionRecord settings.parsing.sha256Hex store source request actorId
        now)
      "report_version.manual_revision_created" actorId source.status
      request.note none

/-- A version is written again with another `rag_gap_fill` entry. -/
def EnterpriseReports.rewriteGapFill (store : EnterpriseReports)
    (id ragGapFill : String) : EnterpriseReports :=
  match store.versions.get? id with
  | none => store
  | some version =>
      store.upsertReportVersion
        { version with
          qualityMetadata :=
            version.qualityMetadata.withRagGapFill ragGapFill }

/-- `capture_gap_fill_source_snapshots`. -/
def captureGapFillSnapshots (store : EnterpriseReports) (id : String) :
    Option (List EvidenceAction × String) → Option EnterpriseReports
  | none => some store
  | some (writes, ragGapFill) =>
      (store.withEvidence settings writes).map fun captured =>
        captured.rewriteGapFill id ragGapFill

/-- `fill_project_evidence_gaps`, on the version read when it began. -/
def fillProjectEvidenceGaps (store : EnterpriseReports)
    (source : ReportVersionRecord) (fill : GapFill) (now : Nat) :
    Option EnterpriseReports :=
  let record := gapFillRecord settings.parsing.sha256Hex store source fill now
  (captureGapFillSnapshots settings (store.upsertReportVersion record)
    record.id fill.snapshots).map fun captured =>
      match fill.releaseGateDelta with
      | none => captured
      | some ragGapFill => captured.rewriteGapFill record.id ragGapFill

/-- `POST /enterprise/report-versions`. -/
def upsertReportVersionRoute (store : EnterpriseReports)
    (version : ReportVersionRecord) : Option EnterpriseReports :=
  let current := (store.versions.get? version.id).map (·.status)
  if version.status = .inReview ∨ version.status = .approved ∨
      version.status = .rejected then none
  else if version.status = .published then none
  else if (current = some .approved ∨ current = some .published) ∧
      current ≠ some version.status then none
  else some (store.upsertReportVersion version)

def reportStep (store : EnterpriseReports) :
    ReportOperation → Option EnterpriseReports
  | .syncProjection projection =>
      syncReportProjection settings store projection
  | .reviseManually reportVersionId request actorId now =>
      reviseReport settings store reportVersionId request actorId now
  | .fillGaps source fill now =>
      fillProjectEvidenceGaps settings store source fill now
  | .upsertVersion version => upsertReportVersionRoute store version
  | .requestApproval request now =>
      (requestReportApproval settings.parsing.sha256Hex store request
        now).map (·.1)
  | .approve decision gate now =>
      (approveReportVersion settings.parsing.sha256Hex store decision gate
        now).map (·.1)
  | .reject decision now =>
      (rejectReportVersion settings.parsing.sha256Hex store decision
        now).map (·.1)
  | .publish reportVersionId actorId gate contract now =>
      publishReport settings.parsing.sha256Hex settings.evalopsBlocking store
        reportVersionId actorId gate contract now
  | .writeEvidence action => store.withEvidence settings [action]

end

end CompetiScope
