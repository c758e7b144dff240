import CompetiScope.Enterprise.ReportVersions
import CompetiScope.Schema.Enterprise

/-!
# The lifecycle of a report version

A version with its layers and its quality metadata, and the three transitions
of `report_lifecycle.py`.  Each transition appends to two histories and merges
or replaces one record of the metadata.
-/

namespace CompetiScope

open Foundation

inductive ApprovalDecision where
  | approved
  | rejected
  deriving DecidableEq

namespace ApprovalDecision

def value : ApprovalDecision → String
  | .approved => "approved"
  | .rejected => "rejected"

/-- The status a decision leads to. -/
def status : ApprovalDecision → ReportStatus
  | .approved => .approved
  | .rejected => .rejected

end ApprovalDecision

/-- An entry of `report_lifecycle`; `approverIds` is there for requests,
`note` and `releaseGate` for decisions and publications. -/
structure ReportLifecycleEvent where
  event : String
  actorId : String
  createdAt : Nat
  approverIds : List String := []
  note : String := ""
  releaseGate : Option ReportReleaseGate := none
  deriving DecidableEq

inductive HitlLifecycleStage where
  | requested
  | revisionCreated
  | approved
  | rejected
  | published
  deriving DecidableEq

namespace HitlLifecycleStage

def value : HitlLifecycleStage → String
  | .requested => "requested"
  | .revisionCreated => "revision_created"
  | .approved => "approved"
  | .rejected => "rejected"
  | .published => "published"

end HitlLifecycleStage

/-- The stage a decision is recorded under. -/
def ApprovalDecision.lifecycleStage : ApprovalDecision → HitlLifecycleStage
  | .approved => .approved
  | .rejected => .rejected

inductive HitlReviewKind where
  | reportApproval
  | manualReportRevision
  | reportPublication
  deriving DecidableEq

namespace HitlReviewKind

def value : HitlReviewKind → String
  | .reportApproval => "report_approval"
  | .manualReportRevision => "manual_report_revision"
  | .reportPublication => "report_publication"

end HitlReviewKind

/-- The `metadata` of an event. -/
inductive HitlEventMetadata where
  | approvers (approverIds : List String)
  | gate (releaseGate : Option ReportReleaseGate)
  | source (reportVersionId : String) (status : ReportStatus)
      (nextVersionNumber : Nat)
  deriving DecidableEq

/-- An entry of `hitl_lifecycle` on a report version; its `stage` is the
value of the review kind. -/
structure HitlLifecycleEvent where
  id : String
  lifecycleStage : HitlLifecycleStage
  reviewKind : HitlReviewKind
  decision : String
  actorId : String
  targetType : String := "report_version"
  targetId : String
  runId : Option String
  reportVersionId : String
  resultAction : String
  note : String := ""
  metadata : HitlEventMetadata
  createdAt : Nat
  deriving DecidableEq

/-- `approval_workflow` of the metadata. -/
structure ApprovalWorkflow where
  status : ReportStatus
  requestedBy : Option String := none
  requestedAt : Option Nat := none
  approverIds : List String := []
  /-- `none` is the decision `pending`. -/
  decision : Option ApprovalDecision
  decidedBy : Option String := none
  decidedAt : Option Nat := none
  note : Option String := none
  releaseGate : Option ReportReleaseGate := none
  deriving DecidableEq

/-- What `_evalops_release_contract_for_version` answers. -/
structure EvalOpsReleaseContract where
  allowed : Bool
  reason : String := ""
  deriving DecidableEq

/-- `publication` of the metadata. -/
structure Publication where
  publishedBy : String
  publishedAt : Nat
  releaseGate : ReportReleaseGate
  evalopsReleaseContract : EvalOpsReleaseContract
  deriving DecidableEq

/-- `manual_revision` of the metadata. -/
structure ManualRevision where
  sourceReportVersionId : String
  editedBy : String
  note : String
  createdAt : Nat
  deriving DecidableEq

/-- `quality_metadata`; `entries` are the other entries a release gate reads,
serialised. -/
structure ReportQualityMetadata where
  reportLifecycle : List ReportLifecycleEvent := []
  hitlLifecycle : List HitlLifecycleEvent := []
  approvalWorkflow : Option ApprovalWorkflow := none
  publication : Option Publication := none
  manualRevision : Option ManualRevision := none
  entries : Dict String String := ∅
  deriving DecidableEq

/-- The texts of the `render_cache` of a `ReportArtifactV2`. -/
structure ReportArtifact where
  coreMarkdown : String
  supportMarkdown : String
  auditMarkdown : String
  fullMarkdown : String
  deriving DecidableEq

structure ReportVersionRecord extends ReportVersion where
  workspaceId : String := "default-workspace"
  coreReportMd : String := ""
  supportAppendixMd : String := ""
  auditLogMd : String := ""
  fullReportMd : String := ""
  reportArtifact : Option ReportArtifact := none
  claimIds : List String := []
  evidenceIds : List String := []
  qualityMetadata : ReportQualityMetadata := { }
  publishedAt : Option Nat := none
  deriving DecidableEq

/-- What the gate and the readers of a report see of its content. -/
structure ReportContent where
  reportMd : String
  coreReportMd : String
  supportAppendixMd : String
  auditLogMd : String
  fullReportMd : String
  evidenceIds : List String
  claimIds : List String
  deriving DecidableEq

def ReportVersionRecord.content (version : ReportVersionRecord) :
    ReportContent :=
  { reportMd := version.reportMd
    coreReportMd := version.coreReportMd
    supportAppendixMd := version.supportAppendixMd
    auditLogMd := version.auditLogMd
    fullReportMd := version.fullReportMd
    evidenceIds := version.evidenceIds
    claimIds := version.claimIds }

section

variable (sha256Hex : String → String)

/-- `build_hitl_lifecycle_event`, on a report version. -/
def buildHitlLifecycleEvent (lifecycleStage : HitlLifecycleStage)
    (reviewKind : HitlReviewKind) (decision actorId targetId : String)
    (runId : Option String) (resultAction note : String)
    (metadata : HitlEventMetadata) (createdAt sequence : Nat) :
    HitlLifecycleEvent :=
  let anchorId := (runId.filter (· ≠ "")).getD targetId
  { id := stablePrefixedId sha256Hex "hitl-life"
      [.text anchorId, .text reviewKind.value, .text lifecycleStage.value,
        .text decision, .text "report_version", .text targetId,
        .number sequence] 16
    lifecycleStage := lifecycleStage
    reviewKind := reviewKind
    decision := decision
    actorId := actorId
    targetId := targetId
    runId := runId
    reportVersionId := targetId
    resultAction := resultAction
    note := note
    metadata := metadata
    createdAt := createdAt }

namespace ReportQualityMetadata

/-- `_metadata_with_lifecycle_event`. -/
def withLifecycleEvent (metadata : ReportQualityMetadata)
    (event : ReportLifecycleEvent) : ReportQualityMetadata :=
  { metadata with reportLifecycle := metadata.reportLifecycle ++ [event] }

/-- `append_hitl_lifecycle`. -/
def appendHitlLifecycle (metadata : ReportQualityMetadata)
    (event : HitlLifecycleEvent) : ReportQualityMetadata :=
  { metadata with hitlLifecycle := metadata.hitlLifecycle ++ [event] }

end ReportQualityMetadata

/-- Both histories of a transition on `version`. -/
def transitionMetadata (version : ReportVersionRecord)
    (event : ReportLifecycleEvent) (lifecycleStage : HitlLifecycleStage)
    (reviewKind : HitlReviewKind) (decision resultAction : String)
    (metadata : HitlEventMetadata) : ReportQualityMetadata :=
  (version.qualityMetadata.withLifecycleEvent event).appendHitlLifecycle
    (buildHitlLifecycleEvent sha256Hex lifecycleStage reviewKind decision
      event.actorId version.id version.runId resultAction event.note metadata
      event.createdAt (version.qualityMetadata.hitlLifecycle.length + 1))

/-- `mark_report_approval_requested`. -/
def markReportApprovalRequested (version : ReportVersionRecord)
    (requestedBy : String) (approverIds : List String) (requestedAt : Nat) :
    ReportVersionRecord :=
  let metadata := transitionMetadata sha256Hex version
    { event := "approval_requested"
      actorId := requestedBy
      createdAt := requestedAt
      approverIds := approverIds }
    .requested .reportApproval "pending" "await_approval_decision"
    (.approvers approverIds)
  let old := metadata.approvalWorkflow.getD
    { status := .inReview
      decision := none }
  { version with
    status := .inReview
    qualityMetadata :=
      { metadata with
        approvalWorkflow := some
          { old with
            status := .inReview
            requestedBy := some requestedBy
            requestedAt := some requestedAt
            approverIds := approverIds
            decision := none } } }

/-- `mark_report_approval_decision`; a rejection has no gate. -/
def markReportApprovalDecision (version : ReportVersionRecord)
    (decision : ApprovalDecision) (approverId note : String)
    (gate : Option ReportReleaseGate) (decidedAt : Nat) :
    ReportVersionRecord :=
  let metadata := transitionMetadata sha256Hex version
    { event := "approval_" ++ decision.value
      actorId := approverId
      createdAt := decidedAt
      note := note
      releaseGate := gate }
    decision.lifecycleStage .reportApproval decision.value
    "approval_decision_recorded" (.gate gate)
  let old := metadata.approvalWorkflow.getD
    { status := decision.status
      decision := some decision }
  { version with
    status := decision.status
    qualityMetadata :=
      { metadata with
        approvalWorkflow := some
          { old with
            status := decision.status
            decision := some decision
            decidedBy := some approverId
            decidedAt := some decidedAt
            note := some note
            releaseGate := gate } } }

/-- `mark_report_published` with the contract `publish_report` adds. -/
def markReportPublished (version : ReportVersionRecord) (actorId : String)
    (gate : ReportReleaseGate) (contract : EvalOpsReleaseContract)
    (publishedAt : Nat) : ReportVersionRecord :=
  let metadata := transitionMetadata sha256Hex version
    { event := "published"
      actorId := actorId
      createdAt := publishedAt
      releaseGate := some gate }
    .published .reportPublication "published" "report_published"
    (.gate (some gate))
  { version with
    status := .published
    publishedAt := some publishedAt
    qualityMetadata :=
      { metadata with
        publication := some
          { publishedBy := actorId
            publishedAt := publishedAt
            releaseGate := gate
            evalopsReleaseContract := contract } } }

end

/-! ## What the transitions leave alone -/

section Frame

variable {sha256Hex : String → String} {version : ReportVersionRecord}

@[simp] theorem markReportApprovalRequested_status {requestedBy : String}
    {approverIds : List String} {requestedAt : Nat} :
    (markReportApprovalRequested sha256Hex version requestedBy approverIds
      requestedAt).status = .inReview :=
  rfl

@[simp] theorem markReportApprovalDecision_id {decision : ApprovalDecision}
    {approverId note : String} {gate : Option ReportReleaseGate}
    {decidedAt : Nat} :
    (markReportApprovalDecision sha256Hex version decision approverId note
      gate decidedAt).id = version.id :=
  rfl

@[simp] theorem markReportApprovalDecision_status
    {decision : ApprovalDecision} {approverId note : String}
    {gate : Option ReportReleaseGate} {decidedAt : Nat} :
    (markReportApprovalDecision sha256Hex version decision approverId note
      gate decidedAt).status = decision.status :=
  rfl

@[simp] theorem markReportPublished_status {actorId : String}
    {gate : ReportReleaseGate} {contract : EvalOpsReleaseContract}
    {publishedAt : Nat} :
    (markReportPublished sha256Hex version actorId gate contract
      publishedAt).status = .published :=
  rfl

end Frame

end CompetiScope
