import CompetiScope.Enterprise.GatedContent

/-!
# Approval metadata and status

Each transition writes both histories and one record of the metadata of its
own version.  A manual revision and a gap fill copy the metadata of their
source, so they start without approval records only when the source has none.
-/

namespace CompetiScope

open Foundation

/-- The decision is taken on the version. -/
def Takes (id : String) (decision : ApprovalDecision) :
    ReportOperation → Prop
  | .approve input _ _ =>
      input.reportVersionId = id ∧ decision = .approved
  | .reject input _ => input.reportVersionId = id ∧ decision = .rejected
  | _ => False

/-- The operation records the event in the history of the version. -/
def RecordsEvent (id : String) (event : ReportLifecycleEvent) :
    ReportOperation → Prop
  | .requestApproval request now =>
      request.reportVersionId = id ∧
        event =
          { event := "approval_requested"
            actorId := request.requestedBy
            createdAt := now
            approverIds := request.approverIds }
  | .approve decision gate now =>
      decision.reportVersionId = id ∧
        event =
          { event := "approval_" ++ ApprovalDecision.approved.value
            actorId := decision.approverId
            createdAt := now
            note := decision.note
            releaseGate := some gate }
  | .reject decision now =>
      decision.reportVersionId = id ∧
        event =
          { event := "approval_" ++ ApprovalDecision.rejected.value
            actorId := decision.approverId
            createdAt := now
            note := decision.note }
  | .publish reportVersionId actorId gate _ now =>
      reportVersionId = id ∧
        event =
          { event := "published"
            actorId := actorId
            createdAt := now
            releaseGate := some gate }
  | _ => False

/-- The metadata of a version agree with its status and with the past. -/
structure MetadataAgrees (past : List ReportOperation) (id : String)
    (status : ReportStatus) (metadata : ReportQualityMetadata) : Prop where
  decided : ∀ workflow ∈ metadata.approvalWorkflow, ∀ decision,
    workflow.decision = some decision ∨ workflow.status = decision.status →
      ∃ operation ∈ past, Takes id decision operation
  draftUnapproved : status = .draft →
    ∀ workflow ∈ metadata.approvalWorkflow,
      workflow.decision ≠ some .approved ∧ workflow.status ≠ .approved
  draftUnpublished : status = .draft → metadata.publication = none
  reportLifecycle : ∀ event ∈ metadata.reportLifecycle,
    ∃ operation ∈ past, RecordsEvent id event operation
  hitlLifecycle : ∀ event ∈ metadata.hitlLifecycle, event.targetId = id

theorem MetadataAgrees.concat {past : List ReportOperation} {id : String}
    {status : ReportStatus} {metadata : ReportQualityMetadata}
    (agrees : MetadataAgrees past id status metadata)
    (operation : ReportOperation) :
    MetadataAgrees (past ++ [operation]) id status metadata where
  decided := by
    intro workflow isWorkflow decision records
    obtain ⟨taken, member, takes⟩ :=
      agrees.decided workflow isWorkflow decision records
    exact ⟨taken, List.mem_append_left _ member, takes⟩
  draftUnapproved := agrees.draftUnapproved
  draftUnpublished := agrees.draftUnpublished
  reportLifecycle := by
    intro event member
    obtain ⟨recorded, inPast, records⟩ := agrees.reportLifecycle event member
    exact ⟨recorded, List.mem_append_left _ inPast, records⟩
  hitlLifecycle := agrees.hitlLifecycle

/-- Metadata without a record of a transition. -/
structure Unmarked (metadata : ReportQualityMetadata) : Prop where
  approvalWorkflow : metadata.approvalWorkflow = none
  publication : metadata.publication = none
  reportLifecycle : metadata.reportLifecycle = []
  hitlLifecycle : metadata.hitlLifecycle = []

instance (metadata : ReportQualityMetadata) : Decidable (Unmarked metadata) :=
  decidable_of_iff
    (metadata.approvalWorkflow = none ∧ metadata.publication = none ∧
      metadata.reportLifecycle = [] ∧ metadata.hitlLifecycle = [])
    ⟨fun ⟨workflow, publication, report, hitl⟩ =>
      ⟨workflow, publication, report, hitl⟩,
      fun unmarked => ⟨unmarked.approvalWorkflow, unmarked.publication,
        unmarked.reportLifecycle, unmarked.hitlLifecycle⟩⟩

theorem Unmarked.withEntries {metadata : ReportQualityMetadata}
    (unmarked : Unmarked metadata) (entries : Dict String String) :
    Unmarked { metadata with entries := entries } :=
  ⟨unmarked.approvalWorkflow, unmarked.publication, unmarked.reportLifecycle,
    unmarked.hitlLifecycle⟩

theorem Unmarked.agrees {metadata : ReportQualityMetadata}
    (unmarked : Unmarked metadata) (past : List ReportOperation) (id : String)
    (status : ReportStatus) : MetadataAgrees past id status metadata where
  decided := by
    intro workflow isWorkflow
    rw [unmarked.approvalWorkflow] at isWorkflow
    cases isWorkflow
  draftUnapproved := by
    intro _ workflow isWorkflow
    rw [unmarked.approvalWorkflow] at isWorkflow
    cases isWorkflow
  draftUnpublished := fun _ => unmarked.publication
  reportLifecycle := by
    intro event member
    rw [unmarked.reportLifecycle] at member
    cases member
  hitlLifecycle := by
    intro event member
    rw [unmarked.hitlLifecycle] at member
    cases member

/-- A draft with one event in the history of the reviewers. -/
theorem Unmarked.agrees_append {metadata : ReportQualityMetadata}
    (unmarked : Unmarked metadata) (past : List ReportOperation)
    {id : String} {event : HitlLifecycleEvent} (targets : event.targetId = id)
    (status : ReportStatus) :
    MetadataAgrees past id status (metadata.appendHitlLifecycle event) :=
  { unmarked.agrees past id status with
    hitlLifecycle := by
      intro recorded member
      rcases List.mem_append.mp member with known | last
      · rw [unmarked.hitlLifecycle] at known
        cases known
      · rw [List.mem_singleton.mp last]
        exact targets }

/-! ## Transitions -/

/-- Both histories of a transition grow by an event on its version. -/
theorem MetadataAgrees.transition {sha256Hex : String → String}
    {past : List ReportOperation} {version : ReportVersionRecord}
    {operation : ReportOperation} {event : ReportLifecycleEvent}
    {lifecycleStage : HitlLifecycleStage} {reviewKind : HitlReviewKind}
    {decision resultAction : String} {metadata : HitlEventMetadata}
    (agrees : MetadataAgrees past version.id version.status
      version.qualityMetadata)
    (records : RecordsEvent version.id event operation) :
    (∀ recorded ∈ (transitionMetadata sha256Hex version event lifecycleStage
        reviewKind decision resultAction metadata).reportLifecycle,
      ∃ operation' ∈ past ++ [operation],
        RecordsEvent version.id recorded operation') ∧
    ∀ recorded ∈ (transitionMetadata sha256Hex version event lifecycleStage
        reviewKind decision resultAction metadata).hitlLifecycle,
      recorded.targetId = version.id := by
  constructor
  · intro recorded member
    rcases List.mem_append.mp member with known | last
    · exact (agrees.concat operation).reportLifecycle recorded known
    · rw [List.mem_singleton.mp last]
      exact ⟨operation, List.mem_concat_self, records⟩
  · intro recorded member
    rcases List.mem_append.mp member with known | last
    · exact agrees.hitlLifecycle recorded known
    · rw [List.mem_singleton.mp last]
      rfl

theorem agrees_requested {sha256Hex : String → String}
    {past : List ReportOperation} {version : ReportVersionRecord}
    {request : ReportApprovalWorkflowInput} {now : Nat}
    (agrees : MetadataAgrees past version.id version.status
      version.qualityMetadata)
    (onVersion : request.reportVersionId = version.id) :
    MetadataAgrees (past ++ [.requestApproval request now]) version.id
      .inReview
      (markReportApprovalRequested sha256Hex version request.requestedBy
        request.approverIds now).qualityMetadata := by
  have grown := @MetadataAgrees.transition sha256Hex past version
    (.requestApproval request now) _ .requested .reportApproval "pending"
    "await_approval_decision" (.approvers request.approverIds) agrees
    ⟨onVersion, rfl⟩
  refine { decided := ?_, draftUnapproved := nofun, draftUnpublished := nofun,
           reportLifecycle := grown.1, hitlLifecycle := grown.2 }
  rintro workflow ⟨⟩ decision (isDecision | isStatus)
  · cases isDecision
  · cases decision <;> cases isStatus

theorem agrees_decided {sha256Hex : String → String}
    {past : List ReportOperation} {version : ReportVersionRecord}
    {operation : ReportOperation} {decision : ApprovalDecision}
    {approverId note : String} {gate : Option ReportReleaseGate} {now : Nat}
    (agrees : MetadataAgrees past version.id version.status
      version.qualityMetadata)
    (takes : Takes version.id decision operation)
    (records : RecordsEvent version.id
      { event := "approval_" ++ decision.value
        actorId := approverId
        createdAt := now
        note := note
        releaseGate := gate } operation) :
    MetadataAgrees (past ++ [operation]) version.id decision.status
      (markReportApprovalDecision sha256Hex version decision approverId note
        gate now).qualityMetadata := by
  have notDraft : decision.status ≠ .draft := by
    cases decision <;> nofun
  have grown := @MetadataAgrees.transition sha256Hex past version operation _
    decision.lifecycleStage .reportApproval decision.value
    "approval_decision_recorded" (.gate gate) agrees records
  refine { decided := ?_
           draftUnapproved := fun draft => (notDraft draft).elim
           draftUnpublished := fun draft => (notDraft draft).elim
           reportLifecycle := grown.1
           hitlLifecycle := grown.2 }
  rintro workflow ⟨⟩ recorded (isDecision | isStatus)
  · cases isDecision
    exact ⟨operation, List.mem_concat_self, takes⟩
  · have same : recorded = decision := by
      cases recorded <;> cases decision <;> first | rfl | cases isStatus
    rw [same]
    exact ⟨operation, List.mem_concat_self, takes⟩

theorem agrees_published {sha256Hex : String → String}
    {past : List ReportOperation} {version : ReportVersionRecord}
    {actorId : String} {gate : ReportReleaseGate}
    {contract : EvalOpsReleaseContract} {now : Nat}
    (agrees : MetadataAgrees past version.id version.status
      version.qualityMetadata) :
    MetadataAgrees
      (past ++ [.publish version.id actorId gate contract now]) version.id
      .published
      (markReportPublished sha256Hex version actorId gate contract
        now).qualityMetadata := by
  have grown := @MetadataAgrees.transition sha256Hex past version
    (.publish version.id actorId gate contract now) _ .published
    .reportPublication "published" "report_published" (.gate (some gate))
    agrees ⟨rfl, rfl⟩
  exact { decided := (agrees.concat _).decided
          draftUnapproved := nofun
          draftUnpublished := nofun
          reportLifecycle := grown.1
          hitlLifecycle := grown.2 }

/-! ## Runs -/

/-- Every stored version has metadata that agree with it. -/
def AllMetadataAgree (past : List ReportOperation)
    (store : EnterpriseReports) : Prop :=
  ∀ id version, store.versions.get? id = some version →
    MetadataAgrees past id version.status version.qualityMetadata

/-- A version is derived from one without records of transitions only. -/
def DerivesUnmarked (store : EnterpriseReports) : ReportOperation → Prop
  | .reviseManually reportVersionId _ _ _ =>
      ∀ source ∈ store.versions.get? reportVersionId,
        Unmarked source.qualityMetadata
  | .fillGaps source _ _ => Unmarked source.qualityMetadata
  | .upsertVersion version => Unmarked version.qualityMetadata
  | .syncProjection _ => True
  | .requestApproval _ _ => True
  | .approve _ _ _ => True
  | .reject _ _ => True
  | .publish _ _ _ _ _ => True
  | .writeEvidence _ => True

instance (store : EnterpriseReports) :
    ∀ operation, Decidable (DerivesUnmarked store operation)
  | .reviseManually reportVersionId _ _ _ =>
      inferInstanceAs (Decidable
        (∀ source ∈ store.versions.get? reportVersionId,
          Unmarked source.qualityMetadata))
  | .fillGaps source _ _ =>
      inferInstanceAs (Decidable (Unmarked source.qualityMetadata))
  | .upsertVersion version =>
      inferInstanceAs (Decidable (Unmarked version.qualityMetadata))
  | .syncProjection _ => isTrue trivial
  | .requestApproval _ _ => isTrue trivial
  | .approve _ _ _ => isTrue trivial
  | .reject _ _ => isTrue trivial
  | .publish _ _ _ _ _ => isTrue trivial
  | .writeEvidence _ => isTrue trivial

section

variable {settings : ReportSettings}

/-- The record an operation writes has metadata that agree with it. -/
theorem agrees_drafted {store : EnterpriseReports}
    {past : List ReportOperation} {operation : ReportOperation}
    {record : ReportVersionRecord} (agree : AllMetadataAgree past store)
    (derives : DerivesUnmarked store operation)
    (drafts : Drafts settings store operation record) :
    MetadataAgrees (past ++ [operation]) record.id record.status
      record.qualityMetadata := by
  have stored : ∀ id version, store.versions.get? id = some version →
      MetadataAgrees past version.id version.status
        version.qualityMetadata := by
    intro id version found
    rw [EnterpriseReports.id_of_found found]
    exact agree id version found
  cases operation with
  | syncProjection projection =>
      obtain rfl := drafts
      have unmarked : Unmarked { entries := projection.entries } :=
        ⟨rfl, rfl, rfl, rfl⟩
      exact unmarked.agrees _ _ _
  | reviseManually reportVersionId request actorId now =>
      obtain ⟨source, found, rfl⟩ := drafts
      have unmarked := derives source found
      have revised : Unmarked
          { source.qualityMetadata with
            manualRevision := some
              { sourceReportVersionId := source.id
                editedBy := actorId
                note := request.note
                createdAt := now } } :=
        ⟨unmarked.approvalWorkflow, unmarked.publication,
          unmarked.reportLifecycle, unmarked.hitlLifecycle⟩
      apply revised.agrees_append
      rfl
  | fillGaps source fill now =>
      obtain ⟨entries, rfl⟩ := drafts
      have unmarked : Unmarked source.qualityMetadata := derives
      exact (unmarked.withEntries entries).agrees _ _ _
  | upsertVersion version =>
      obtain ⟨rfl, -⟩ := drafts
      have unmarked : Unmarked record.qualityMetadata := derives
      exact unmarked.agrees _ _ _
  | requestApproval request now =>
      obtain ⟨version, found, -, rfl⟩ := drafts
      exact agrees_requested (stored _ version found)
        (EnterpriseReports.id_of_found found).symm
  | approve decision gate now =>
      obtain ⟨version, found, -, -, rfl⟩ := drafts
      have onVersion := (EnterpriseReports.id_of_found found).symm
      have takes : Takes version.id .approved (.approve decision gate now) :=
        ⟨onVersion, rfl⟩
      have records : RecordsEvent version.id _
          (.approve decision gate now) :=
        ⟨onVersion, rfl⟩
      exact agrees_decided (stored _ version found) takes records
  | reject decision now =>
      obtain ⟨version, found, -, rfl⟩ := drafts
      have onVersion := (EnterpriseReports.id_of_found found).symm
      have takes : Takes version.id .rejected (.reject decision now) :=
        ⟨onVersion, rfl⟩
      have records : RecordsEvent version.id _ (.reject decision now) :=
        ⟨onVersion, rfl⟩
      exact agrees_decided (stored _ version found) takes records
  | publish reportVersionId actorId gate contract now =>
      obtain ⟨version, found, -, -, rfl⟩ := drafts
      obtain rfl := EnterpriseReports.id_of_found found
      exact agrees_published (stored _ version found)
  | writeEvidence action => exact drafts.elim

variable [PyRuntime]

theorem allMetadataAgree_step {past : List ReportOperation}
    {store next : EnterpriseReports} {operation : ReportOperation}
    (agree : AllMetadataAgree past store)
    (derives : DerivesUnmarked store operation)
    (stepped : reportStep settings store operation = some next) :
    AllMetadataAgree (past ++ [operation]) next := by
  intro id version isStored
  rcases reportStep_cases stepped with
    ⟨-, sameVersions⟩ | ⟨record, stored, drafts, same, writes⟩
  · rw [sameVersions] at isStored
    exact (agree id version isStored).concat operation
  · rcases writes.found isStored with ⟨rfl, rfl⟩ | ⟨-, wasStored⟩
    · rw [same.id, same.status, same.qualityMetadata]
      exact agrees_drafted agree derives drafts
    · exact (agree id version wasStored).concat operation

/-- Along runs that derive versions from versions without records of
transitions, the metadata of every version record the decisions and events of
that version, and those of a draft no approval and no publication. -/
theorem approvalMetadata_agrees_along {operations : List ReportOperation}
    {final : EnterpriseReports}
    (derives : Along (reportStep settings) DerivesUnmarked { } operations)
    (run : exec (reportStep settings) { } operations = some final) :
    ∀ id version, final.versions.get? id = some version →
      MetadataAgrees operations id version.status
        version.qualityMetadata := by
  have start : AllMetadataAgree [] { } := by
    intro id version absent
    cases absent
  have preserved : ∀ past store operation next, AllMetadataAgree past store →
      DerivesUnmarked store operation →
      reportStep settings store operation = some next →
        AllMetadataAgree (past ++ [operation]) next := by
    intro past store operation next agree derived stepped
    exact allMetadataAgree_step agree derived stepped
  exact exec_history_along preserved start derives run

end

/-! ## A published report revised by hand -/

namespace ReportExample

local instance metadataExampleRuntime : PyRuntime := asciiRuntime

/-- A report revised before anything was decided on it. -/
def earlyRevision : List ReportOperation :=
  [.syncProjection (projection "run1" "Prices."),
    .reviseManually versionId { reportMd := "Edited." } "editor" 2, request,
    approval]

theorem approvalMetadata_agrees_early :
    ∃ final version,
      exec (reportStep settings) { } earlyRevision = some final ∧
        final.versions.get? versionId = some version ∧
        MetadataAgrees earlyRevision versionId version.status
          version.qualityMetadata := by
  have derives : Along (reportStep settings) DerivesUnmarked { }
      earlyRevision := by
    decide +kernel
  exact ⟨_, _, rfl, rfl,
    approvalMetadata_agrees_along derives
      (rfl : exec (reportStep settings) { } earlyRevision = some _)
      versionId _ rfl⟩

/-- The report revised once it was published. -/
def lateRevision : List ReportOperation :=
  publishedRun ++
    [.reviseManually versionId { reportMd := "Edited." } "editor" 5]

def revisionId : String :=
  stablePrefixedId id "report-version-manual"
    [.text versionId, .number 2, .text "Edited."] 16

/-- The revision is a draft with the approval, the publication and the
history of the published version. -/
theorem approvalMetadata_copied :
    ∃ final revision,
      exec (reportStep settings) { } lateRevision = some final ∧
        final.versions.get? revisionId = some revision ∧
        revision.status = .draft ∧
        revision.qualityMetadata.approvalWorkflow.map (·.decision) =
          some (some .approved) ∧
        revision.qualityMetadata.publication.isSome = true ∧
        revision.qualityMetadata.hitlLifecycle.map (·.targetId) =
          [versionId, versionId, versionId, revisionId] :=
  ⟨_, _, rfl, rfl, rfl, rfl, rfl, rfl⟩

end ReportExample

end CompetiScope
