import CompetiScope.Enterprise.PublicationApproval

/-!
# What is gated and what is stored

An approval and a publication evaluate the release gate on the version they
read and store it through an upsert, which rewrites its source tokens and
rebuilds its text from its layers.  The gate has seen the stored content when
the version is settled in the evidence of its project at that moment.
-/

namespace CompetiScope

open Foundation

/-- What the release gate reads of a version. -/
structure ReleaseGateInput where
  id : String
  runId : Option String
  scope : ReportScope
  createdAt : Nat
  /-- The status is `rejected` or `archived`. -/
  withdrawn : Bool
  reportMd : String
  evidenceIds : List String
  claimIds : List String
  entries : Dict String String

def ReportStatus.withdrawn : ReportStatus → Bool
  | .draft => false
  | .inReview => false
  | .approved => false
  | .rejected => true
  | .published => false
  | .archived => true

def ReportVersionRecord.releaseGateInput (version : ReportVersionRecord) :
    ReleaseGateInput :=
  { id := version.id
    runId := version.runId
    scope := version.scope
    createdAt := version.createdAt
    withdrawn := version.status.withdrawn
    reportMd := version.reportMd
    evidenceIds := version.evidenceIds
    claimIds := version.claimIds
    entries := version.qualityMetadata.entries }

/-- A transition of a stored version leaves its content and artifact alone
and withdraws nothing. -/
structure MarksReleased (version updated : ReportVersionRecord) : Prop where
  id : updated.id = version.id
  content : updated.content = version.content
  artifact : updated.reportArtifact = version.reportArtifact
  scope : updated.scope = version.scope
  runId : updated.runId = version.runId
  createdAt : updated.createdAt = version.createdAt
  entries : updated.qualityMetadata.entries = version.qualityMetadata.entries
  withdrawn : updated.status.withdrawn = version.status.withdrawn

/-- A stored version is upserted with its content exactly when it is
settled. -/
theorem canonicalVersion_content_iff {store : EnterpriseReports}
    {version updated : ReportVersionRecord}
    (found : store.versions.get? version.id = some version)
    (marks : MarksReleased version updated) :
    (store.canonicalVersion updated).content = version.content ↔
      Settled (store.reportScopeEvidence version) version := by
  have fields := marks.content
  rw [ReportVersionRecord.content, ReportVersionRecord.content,
    ReportContent.mk.injEq] at fields
  obtain ⟨-, core, support, audit, -, ids, -⟩ := fields
  have sameScope : store.reportScopeEvidence updated =
      store.reportScopeEvidence version := by
    rw [EnterpriseReports.reportScopeEvidence,
      EnterpriseReports.reportScopeEvidence, marks.scope, ids]
  have canonical : store.canonicalVersion updated =
      normalizeReportVersionSources (store.reportScopeEvidence version)
        updated := by
    rw [EnterpriseReports.canonicalVersion, marks.id, found,
      preservingLayers_eq_self core support audit marks.artifact, sameScope]
  rw [canonical, ← marks.content, normalize_content_iff]
  exact settled_congr marks.content marks.artifact

/-- The gate reads of the stored version what it read of the gated one, once
their contents agree. -/
theorem releaseGateInput_of_content {store : EnterpriseReports}
    {version updated : ReportVersionRecord}
    (marks : MarksReleased version updated)
    (sameContent :
      (store.canonicalVersion updated).content = version.content) :
    (store.canonicalVersion updated).releaseGateInput =
      version.releaseGateInput := by
  have same := @EnterpriseReports.canonicalVersion_sameRecord store updated
  rw [ReportVersionRecord.content, ReportVersionRecord.content,
    ReportContent.mk.injEq] at sameContent
  obtain ⟨text, -, -, -, -, ids, claims⟩ := sameContent
  rw [ReportVersionRecord.releaseGateInput,
    ReportVersionRecord.releaseGateInput, same.id, same.runId, same.scope,
    same.createdAt, same.status, same.qualityMetadata, text, ids, claims,
    marks.id, marks.runId, marks.scope, marks.createdAt, marks.withdrawn,
    marks.entries]

section

variable [PyRuntime] {settings : ReportSettings}

/-- An accepted approval or publication stores the version it marks. -/
theorem gated_stores {store next : EnterpriseReports}
    {operation : ReportOperation} {id : String}
    {version : ReportVersionRecord}
    (found : store.versions.get? id = some version)
    (gated : Approves id operation ∨ Publishes id operation)
    (accepted : reportStep settings store operation = some next) :
    ∃ updated, MarksReleased version updated ∧
      next.versions.get? id = some (store.canonicalVersion updated) := by
  have stores : ∀ updated (action actorId note : String) status gate,
      MarksReleased version updated →
      next = store.recordTransition updated action actorId status note gate →
        next.versions.get? id = some (store.canonicalVersion updated) := by
    intro updated action actorId note status gate marks written
    have underId : (store.canonicalVersion updated).id = id := by
      rw [EnterpriseReports.canonicalVersion_sameRecord.id, marks.id]
      exact EnterpriseReports.id_of_found found
    rw [written, ← underId]
    exact EnterpriseReports.recordTransition_writes.same
  cases operation with
  | approve decision gate now =>
      obtain ⟨rfl, -⟩ : Approves id (.approve decision gate now) :=
        gated.resolve_right not_false
      obtain ⟨⟨approved, state⟩, succeeded, rfl⟩ :=
        Option.map_eq_some_iff.mp accepted
      obtain ⟨read, isRead, inReview, -, written, -⟩ :=
        approveReportVersion_cases succeeded
      rw [found] at isRead
      cases isRead
      have marks : MarksReleased version
          (markReportApprovalDecision settings.parsing.sha256Hex version
            .approved decision.approverId decision.note (some gate) now) :=
        { id := rfl
          content := rfl
          artifact := rfl
          scope := rfl
          runId := rfl
          createdAt := rfl
          entries := rfl
          withdrawn := by
            rw [inReview]
            rfl }
      exact ⟨_, marks, stores _ _ _ _ _ _ marks written⟩
  | publish reportVersionId actorId gate contract now =>
      obtain ⟨rfl, -⟩ :
          Publishes id (.publish reportVersionId actorId gate contract now) :=
        gated.resolve_left not_false
      obtain ⟨read, isRead, released, -, -, written⟩ :=
        publishReport_cases accepted
      rw [found] at isRead
      cases isRead
      have marks : MarksReleased version
          (markReportPublished settings.parsing.sha256Hex version actorId gate
            contract now) :=
        { id := rfl
          content := rfl
          artifact := rfl
          scope := rfl
          runId := rfl
          createdAt := rfl
          entries := rfl
          withdrawn := by
            rcases released with approved | published
            · rw [approved]
              rfl
            · rw [published]
              rfl }
      exact ⟨_, marks, stores _ _ _ _ _ _ marks written⟩
  | _ =>
      rcases gated with impossible | impossible
      · exact impossible.elim
      · exact impossible.elim

end

/-! ## A page collected again between request and approval -/

namespace ReportExample

local instance gatedExampleRuntime : PyRuntime := asciiRuntime

def page : EvidenceRecord :=
  { id := "evidence-1"
    projectId := "p1"
    rawSourceId := "raw-1" }

def citingProjection : RunProjection :=
  { projection "run1" "See [source:raw-1]." with
    evidence := [page] }

/-- The report of the first run cites the page and is in review. -/
def reviewedStore : EnterpriseReports :=
  (exec (reportStep settings) { }
    [.syncProjection citingProjection, request]).getD { }

def reviewedVersion : ReportVersionRecord :=
  (reviewedStore.versions.get? versionId).getD
    (syncedRecord settings { } citingProjection)

/-- The store after the report was approved at once. -/
def approvedReview : EnterpriseReports :=
  (reportStep settings reviewedStore approval).getD { }

def approvedReport : ReportVersionRecord :=
  (approvedReview.versions.get? versionId).getD reviewedVersion

/-- What a computation that succeeds answers. -/
private theorem eq_some_getD {Value : Type*} {answer : Option Value}
    {default : Value} (succeeds : answer.isSome = true) :
    answer = some (answer.getD default) :=
  (Option.getD_of_ne_none (Option.isSome_iff_ne_none.mp succeeds)
    default).symm

/-- The page collected by another run, as a raw source of its own. -/
def recollection : ReportOperation :=
  .writeEvidence (.observe { page with rawSourceId := "raw-2" })

def recollectedStore : EnterpriseReports :=
  (reportStep settings reviewedStore recollection).getD { }

def changedStore : EnterpriseReports :=
  (reportStep settings recollectedStore approval).getD { }

end ReportExample

end CompetiScope
