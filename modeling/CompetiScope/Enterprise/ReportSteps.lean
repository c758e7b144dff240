import CompetiScope.Enterprise.ReportOperations
import CompetiScope.Foundation.Transition

/-!
# What one operation writes

Every operation that succeeds writes one version and leaves the others alone.
The version is the one the operation drafts or marks, up to the texts and the
evidence ids that the upsert rewrites.
-/

namespace CompetiScope

open Foundation

/-- The versions after are those before, but for the written one. -/
def Writes (before after : EnterpriseReports) (stored : ReportVersionRecord) :
    Prop :=
  ∀ id, after.versions.get? id =
    if id = stored.id then some stored else before.versions.get? id

namespace Writes

variable {before middle after : EnterpriseReports}
  {first stored : ReportVersionRecord} {id : String}

theorem same (writes : Writes before after stored) :
    after.versions.get? stored.id = some stored := by
  rw [writes stored.id, if_pos rfl]

theorem other (writes : Writes before after stored) (different : id ≠ stored.id) :
    after.versions.get? id = before.versions.get? id := by
  rw [writes id, if_neg different]

/-- A version found after a write is the written one or was there before. -/
theorem found (writes : Writes before after stored)
    {version : ReportVersionRecord}
    (isStored : after.versions.get? id = some version) :
    version = stored ∧ id = stored.id ∨
      id ≠ stored.id ∧ before.versions.get? id = some version := by
  rw [writes id] at isStored
  by_cases same : id = stored.id
  · rw [if_pos same] at isStored
    cases isStored
    exact .inl ⟨rfl, same⟩
  · rw [if_neg same] at isStored
    exact .inr ⟨same, isStored⟩

/-- The second of two writes under one id counts. -/
theorem again (writes : Writes before middle first)
    (rewrites : Writes middle after stored) (sameId : stored.id = first.id) :
    Writes before after stored := by
  intro id
  by_cases same : id = stored.id
  · rw [rewrites id, if_pos same, if_pos same]
  · rw [rewrites id, if_neg same, if_neg same]
    exact writes.other (sameId ▸ same)

theorem of_versions (writes : Writes before middle stored)
    (sameVersions : after.versions = middle.versions) :
    Writes before after stored := by
  intro id
  rw [sameVersions]
  exact writes id

theorem after_versions (sameVersions : middle.versions = before.versions)
    (writes : Writes middle after stored) : Writes before after stored := by
  intro id
  rw [writes id, sameVersions]

end Writes

/-! ## Upserts -/

namespace EnterpriseReports

variable {store : EnterpriseReports} {version : ReportVersionRecord}

theorem id_of_found {id : String}
    (found : store.versions.get? id = some version) : version.id = id :=
  store.versions.keyed id version found

theorem canonicalVersion_sameRecord :
    SameRecord version (store.canonicalVersion version) :=
  preservingLayers_sameRecord.trans normalizeReportVersionSources_sameRecord

theorem upsertReportVersion_versions :
    (store.upsertReportVersion version).versions =
      store.versions.upsert (store.canonicalVersion version) := by
  unfold upsertReportVersion
  dsimp only
  split
  · rfl
  · rfl

theorem writes_upsert {before after : EnterpriseReports}
    (upserted : after.versions = before.versions.upsert version) :
    Writes before after version := by
  intro id
  rw [upserted, Table.get?_upsert]

theorem upsertReportVersion_writes :
    Writes store (store.upsertReportVersion version)
      (store.canonicalVersion version) :=
  writes_upsert upsertReportVersion_versions

theorem recordTransition_writes {action actorId note : String}
    {before : ReportStatus} {gate : Option ReportReleaseGate} :
    Writes store
      (store.recordTransition version action actorId before note gate)
      (store.canonicalVersion version) :=
  upsertReportVersion_writes.of_versions rfl

theorem appendAuditOnce_versions {log : ReportAuditLog} :
    (store.appendAuditOnce log).versions = store.versions := by
  unfold appendAuditOnce
  split
  · rfl
  · rfl

end EnterpriseReports

/-- A draft up to the entries of its metadata. -/
def SameDraft (record stored : ReportVersionRecord) : Prop :=
  ∃ entries, SameRecord
    { record with
      qualityMetadata := { record.qualityMetadata with entries := entries } }
    stored

theorem SameDraft.id {record stored : ReportVersionRecord}
    (draft : SameDraft record stored) : stored.id = record.id := by
  obtain ⟨entries, same⟩ := draft
  exact same.id

/-- The version just written stays the draft it is. -/
theorem rewriteGapFill_writes {store written : EnterpriseReports}
    {record stored : ReportVersionRecord} (draft : SameDraft record stored)
    (writes : Writes store written stored) (ragGapFill : String) :
    ∃ rewritten,
      Writes store (written.rewriteGapFill record.id ragGapFill) rewritten ∧
        SameDraft record rewritten := by
  obtain ⟨entries, same⟩ := draft
  have found : written.versions.get? record.id = some stored := by
    have isStored := writes.same
    rw [same.id] at isStored
    exact isStored
  unfold EnterpriseReports.rewriteGapFill
  rw [found]
  have canonical := @EnterpriseReports.canonicalVersion_sameRecord written
    { stored with
      qualityMetadata := stored.qualityMetadata.withRagGapFill ragGapFill }
  refine ⟨_, writes.again EnterpriseReports.upsertReportVersion_writes
    canonical.id, (entries.set "rag_gap_fill" ragGapFill), ?_⟩
  exact
    { id := canonical.id.trans same.id
      status := canonical.status.trans same.status
      claimIds := canonical.claimIds.trans same.claimIds
      qualityMetadata := by
        rw [canonical.qualityMetadata]
        dsimp only [ReportQualityMetadata.withRagGapFill]
        rw [same.qualityMetadata]
      publishedAt := canonical.publishedAt.trans same.publishedAt
      scope := canonical.scope.trans same.scope
      runId := canonical.runId.trans same.runId
      workspaceId := canonical.workspaceId.trans same.workspaceId
      createdAt := canonical.createdAt.trans same.createdAt }

/-! ## Producers of versions -/

theorem repairedRecord_sameRecord {projection : RunProjection}
    {record : ReportVersionRecord} :
    SameRecord record (repairedRecord projection record) := by
  unfold repairedRecord
  split
  · exact ⟨rfl, rfl, rfl, rfl, rfl, rfl, rfl, rfl, rfl⟩
  · exact .refl record
  · exact .refl record

section

variable [PyRuntime] {settings : ReportSettings}
  {store next : EnterpriseReports}

theorem withEvidence_versions {actions : List EvidenceAction}
    (written : store.withEvidence settings actions = some next) :
    next.versions = store.versions := by
  obtain ⟨evidence, -, rfl⟩ := Option.map_eq_some_iff.mp written
  rfl

theorem saveProjection_writes {projection : RunProjection}
    {record : ReportVersionRecord}
    (saved : store.saveProjection settings projection record = some next) :
    Writes store next record := by
  obtain ⟨observed, written, rfl⟩ := Option.map_eq_some_iff.mp saved
  have sameVersions := withEvidence_versions written
  apply Writes.after_versions sameVersions
  apply EnterpriseReports.writes_upsert
  exact EnterpriseReports.appendAuditOnce_versions

/-- The draft a projection writes. -/
abbrev syncedRecord (settings : ReportSettings) (store : EnterpriseReports)
    (projection : RunProjection) : ReportVersionRecord :=
  projectedRecord settings.parsing.sha256Hex projection
    (projectionNumber store.reportStore projection.toRunReport)

theorem syncReportProjection_writes {projection : RunProjection}
    (synced : syncReportProjection settings store projection = some next) :
    ∃ stored, Writes store next stored ∧
      SameRecord (syncedRecord settings store projection) stored := by
  unfold syncReportProjection at synced
  cases attached : projection.attached with
  | none =>
      rw [attached] at synced
      exact ⟨_, saveProjection_writes synced, .refl _⟩
  | some text =>
      rw [attached] at synced
      obtain ⟨saved, first, second⟩ := Option.bind_eq_some_iff.mp synced
      have sameRecord := @repairedRecord_sameRecord projection
        (syncedRecord settings store projection)
      exact ⟨_, (saveProjection_writes first).again
        (saveProjection_writes second) sameRecord.id, sameRecord⟩

/-- The draft a gap fill writes. -/
abbrev filledRecord (settings : ReportSettings) (store : EnterpriseReports)
    (source : ReportVersionRecord) (fill : GapFill) (now : Nat) :
    ReportVersionRecord :=
  gapFillRecord settings.parsing.sha256Hex store source fill now

theorem fillProjectEvidenceGaps_writes {source : ReportVersionRecord}
    {fill : GapFill} {now : Nat}
    (filled : fillProjectEvidenceGaps settings store source fill now =
      some next) :
    ∃ stored, Writes store next stored ∧
      SameDraft (filledRecord settings store source fill now) stored := by
  obtain ⟨captured, taken, rfl⟩ := Option.map_eq_some_iff.mp filled
  have written : ∃ stored, Writes store captured stored ∧
      SameDraft (filledRecord settings store source fill now) stored := by
    have first :=
      @EnterpriseReports.upsertReportVersion_writes store
        (filledRecord settings store source fill now)
    have draft : SameDraft (filledRecord settings store source fill now)
        (store.canonicalVersion
          (filledRecord settings store source fill now)) :=
      ⟨_, EnterpriseReports.canonicalVersion_sameRecord⟩
    cases snapshots : fill.snapshots with
    | none =>
        rw [snapshots] at taken
        cases taken
        exact ⟨_, first, draft⟩
    | some snapshot =>
        rw [snapshots] at taken
        obtain ⟨observed, isWritten, rfl⟩ := Option.map_eq_some_iff.mp taken
        exact rewriteGapFill_writes draft
          (first.of_versions (withEvidence_versions isWritten)) snapshot.2
  cases fill.releaseGateDelta with
  | none => exact written
  | some ragGapFill =>
      obtain ⟨stored, writes, draft⟩ := written
      exact rewriteGapFill_writes draft writes ragGapFill

end

/-! ## What the activities and commands require -/

section Activities

variable {sha256Hex : String → String} {store next : EnterpriseReports}
  {state : ReportApprovalState}

/-- The API writes drafts and archived versions, none of them over an
approved or published one. -/
theorem upsertReportVersionRoute_cases {version : ReportVersionRecord}
    (upserted : upsertReportVersionRoute store version = some next) :
    (version.status = .draft ∨ version.status = .archived) ∧
      (∀ current, store.versions.get? version.id = some current →
        current.status ≠ .approved ∧ current.status ≠ .published) ∧
        next = store.upsertReportVersion version := by
  simp only [upsertReportVersionRoute] at upserted
  split at upserted
  · cases upserted
  split at upserted
  · cases upserted
  split at upserted
  · cases upserted
  next notReviewed notPublished free =>
    cases upserted
    refine ⟨?_, ?_, rfl⟩
    · cases status : version.status <;>
        simp [status] at notReviewed notPublished ⊢
    · intro current found
      rw [found, Option.map_some] at free
      constructor
      · intro approved
        apply free
        refine ⟨.inl (congrArg some approved), ?_⟩
        intro same
        rw [approved] at same
        exact notReviewed (.inr (.inl (Option.some.inj same).symm))
      · intro published
        apply free
        refine ⟨.inr (congrArg some published), ?_⟩
        intro same
        rw [published] at same
        exact notPublished (Option.some.inj same).symm

theorem requestReportApproval_cases {request : ReportApprovalWorkflowInput}
    {now : Nat}
    (requested : requestReportApproval sha256Hex store request now =
      some (next, state)) :
    ∃ version,
      store.versions.get? request.reportVersionId = some version ∧
        version.status ≠ .published ∧ version.status ≠ .archived ∧
        next = store.recordTransition
          (markReportApprovalRequested sha256Hex version request.requestedBy
            request.approverIds now)
          "report_version.approval_requested" request.requestedBy
          version.status "" none ∧
        state = approvalState
          (store.canonicalVersion
            (markReportApprovalRequested sha256Hex version
              request.requestedBy request.approverIds now)) none "" := by
  unfold requestReportApproval at requested
  split at requested
  · cases requested
  · next version found =>
      split at requested
      · cases requested
      · next reviewable =>
          rw [not_or] at reviewable
          cases requested
          exact ⟨version, found, reviewable.1, reviewable.2, rfl, rfl⟩

theorem approveReportVersion_cases {decision : ReportApprovalDecisionInput}
    {gate : ReportReleaseGate} {now : Nat}
    (approved : approveReportVersion sha256Hex store decision gate now =
      some (next, state)) :
    ∃ version,
      store.versions.get? decision.reportVersionId = some version ∧
        version.status = .inReview ∧ gate.allowed = true ∧
        next = store.recordTransition
          (markReportApprovalDecision sha256Hex version .approved
            decision.approverId decision.note (some gate) now)
          "report_version.approved" decision.approverId version.status
          decision.note (some gate) ∧
        state = approvalState
          (store.canonicalVersion
            (markReportApprovalDecision sha256Hex version .approved
              decision.approverId decision.note (some gate) now))
          (some decision.approverId) decision.note := by
  unfold approveReportVersion at approved
  split at approved
  · cases approved
  · next version found =>
      split at approved
      · cases approved
      split at approved
      · cases approved
      next inReview allowed =>
        cases approved
        exact ⟨version, found, not_not.mp inReview, not_not.mp allowed, rfl,
          rfl⟩

theorem rejectReportVersion_cases {decision : ReportApprovalDecisionInput}
    {now : Nat}
    (rejected : rejectReportVersion sha256Hex store decision now =
      some (next, state)) :
    ∃ version,
      store.versions.get? decision.reportVersionId = some version ∧
        version.status = .inReview ∧
        next = store.recordTransition
          (markReportApprovalDecision sha256Hex version .rejected
            decision.approverId decision.note none now)
          "report_version.rejected" decision.approverId version.status
          decision.note none ∧
        state = approvalState
          (store.canonicalVersion
            (markReportApprovalDecision sha256Hex version .rejected
              decision.approverId decision.note none now))
          (some decision.approverId) decision.note := by
  unfold rejectReportVersion at rejected
  split at rejected
  · cases rejected
  · next version found =>
      split at rejected
      · cases rejected
      next inReview =>
        cases rejected
        exact ⟨version, found, not_not.mp inReview, rfl, rfl⟩

theorem publishReport_cases {blocking : Bool}
    {reportVersionId actorId : String} {gate : ReportReleaseGate}
    {contract : EvalOpsReleaseContract} {now : Nat}
    (published : publishReport sha256Hex blocking store reportVersionId
      actorId gate contract now = some next) :
    ∃ version, store.versions.get? reportVersionId = some version ∧
      (version.status = .approved ∨ version.status = .published) ∧
        gate.allowed = true ∧ (blocking = true → contract.allowed = true) ∧
        next = store.recordTransition
          (markReportPublished sha256Hex version actorId gate contract now)
          "report_version.published" actorId version.status ""
          (some gate) := by
  unfold publishReport at published
  split at published
  · cases published
  · next version found =>
      split at published
      · cases published
      split at published
      · cases published
      split at published
      · cases published
      next decided allowed contracted =>
        cases published
        refine ⟨version, found, ?_, not_not.mp allowed, ?_, rfl⟩
        · by_contra neither
          rw [not_or] at neither
          exact decided neither
        · intro isBlocking
          by_contra forbidden
          exact contracted ⟨isBlocking, forbidden⟩

end Activities

section Steps

variable [PyRuntime] {settings : ReportSettings}
  {store next : EnterpriseReports}

/-! ## Every operation -/

/-- The record an operation drafts or marks, and when it may. -/
def Drafts (settings : ReportSettings) (store : EnterpriseReports) :
    ReportOperation → ReportVersionRecord → Prop
  | .syncProjection projection, record =>
      record = syncedRecord settings store projection
  | .reviseManually reportVersionId request actorId now, record =>
      ∃ source, store.versions.get? reportVersionId = some source ∧
        record = revisionRecord settings.parsing.sha256Hex store source
          request actorId now
  | .fillGaps source fill now, record =>
      ∃ entries, record =
        { filledRecord settings store source fill now with
          qualityMetadata :=
            { source.qualityMetadata with entries := entries } }
  | .upsertVersion version, record =>
      record = version ∧
        (version.status = .draft ∨ version.status = .archived) ∧
          ∀ current, store.versions.get? version.id = some current →
            current.status ≠ .approved ∧ current.status ≠ .published
  | .requestApproval request now, record =>
      ∃ version, store.versions.get? request.reportVersionId =
          some version ∧
        version.status ≠ .published ∧
          record = markReportApprovalRequested settings.parsing.sha256Hex
            version request.requestedBy request.approverIds now
  | .approve decision gate now, record =>
      ∃ version, store.versions.get? decision.reportVersionId =
          some version ∧
        version.status = .inReview ∧ gate.allowed = true ∧
          record = markReportApprovalDecision settings.parsing.sha256Hex
            version .approved decision.approverId decision.note (some gate)
              now
  | .reject decision now, record =>
      ∃ version, store.versions.get? decision.reportVersionId =
          some version ∧
        version.status = .inReview ∧
          record = markReportApprovalDecision settings.parsing.sha256Hex
            version .rejected decision.approverId decision.note none now
  | .publish reportVersionId actorId gate contract now, record =>
      ∃ version, store.versions.get? reportVersionId = some version ∧
        (version.status = .approved ∨ version.status = .published) ∧
          gate.allowed = true ∧
            record = markReportPublished settings.parsing.sha256Hex version
              actorId gate contract now
  | .writeEvidence _, _ => False

/-- An operation on versions writes the record it drafts or marks; a write of
evidence writes no version. -/
theorem reportStep_cases {operation : ReportOperation}
    (stepped : reportStep settings store operation = some next) :
    (∃ action, operation = .writeEvidence action) ∧
        next.versions = store.versions ∨
      ∃ record stored, Drafts settings store operation record ∧
        SameRecord record stored ∧ Writes store next stored := by
  cases operation with
  | syncProjection projection =>
      obtain ⟨stored, writes, same⟩ := syncReportProjection_writes stepped
      exact .inr ⟨_, stored, rfl, same, writes⟩
  | reviseManually reportVersionId request actorId now =>
      obtain ⟨source, found, rfl⟩ := Option.map_eq_some_iff.mp stepped
      exact .inr ⟨_, _, ⟨source, found, rfl⟩,
        EnterpriseReports.canonicalVersion_sameRecord,
        EnterpriseReports.recordTransition_writes⟩
  | fillGaps source fill now =>
      obtain ⟨stored, writes, entries, same⟩ :=
        fillProjectEvidenceGaps_writes stepped
      exact .inr ⟨_, stored, ⟨entries, rfl⟩, same, writes⟩
  | upsertVersion version =>
      obtain ⟨draft, free, rfl⟩ := upsertReportVersionRoute_cases stepped
      exact .inr ⟨_, _, ⟨rfl, draft, free⟩,
        EnterpriseReports.canonicalVersion_sameRecord,
        EnterpriseReports.upsertReportVersion_writes⟩
  | requestApproval request now =>
      obtain ⟨⟨requested, state⟩, succeeded, rfl⟩ :=
        Option.map_eq_some_iff.mp stepped
      obtain ⟨version, found, notPublished, -, rfl, -⟩ :=
        requestReportApproval_cases succeeded
      exact .inr ⟨_, _, ⟨version, found, notPublished, rfl⟩,
        EnterpriseReports.canonicalVersion_sameRecord,
        EnterpriseReports.recordTransition_writes⟩
  | approve decision gate now =>
      obtain ⟨⟨approved, state⟩, succeeded, rfl⟩ :=
        Option.map_eq_some_iff.mp stepped
      obtain ⟨version, found, inReview, allowed, rfl, -⟩ :=
        approveReportVersion_cases succeeded
      exact .inr ⟨_, _, ⟨version, found, inReview, allowed, rfl⟩,
        EnterpriseReports.canonicalVersion_sameRecord,
        EnterpriseReports.recordTransition_writes⟩
  | reject decision now =>
      obtain ⟨⟨rejected, state⟩, succeeded, rfl⟩ :=
        Option.map_eq_some_iff.mp stepped
      obtain ⟨version, found, inReview, rfl, -⟩ :=
        rejectReportVersion_cases succeeded
      exact .inr ⟨_, _, ⟨version, found, inReview, rfl⟩,
        EnterpriseReports.canonicalVersion_sameRecord,
        EnterpriseReports.recordTransition_writes⟩
  | publish reportVersionId actorId gate contract now =>
      obtain ⟨version, found, decided, allowed, -, rfl⟩ :=
        publishReport_cases stepped
      exact .inr ⟨_, _, ⟨version, found, decided, allowed, rfl⟩,
        EnterpriseReports.canonicalVersion_sameRecord,
        EnterpriseReports.recordTransition_writes⟩
  | writeEvidence action =>
      exact .inl ⟨⟨action, rfl⟩, withEvidence_versions stepped⟩

end Steps

end CompetiScope
