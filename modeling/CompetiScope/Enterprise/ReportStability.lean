import CompetiScope.Enterprise.ReportSteps

/-!
# Approved versions under later operations

The API refuses to write over an approved or published version.  The three
producers of drafts do not ask: a projection of the run, a gap fill repeated
and a revision with a known id write a draft under the id they compute, and a
version that is stored there loses its status, its publication and its text.
-/

namespace CompetiScope

open Foundation

def ReportVersionRecord.Approved (version : ReportVersionRecord) : Prop :=
  version.status = .approved ∨ version.status = .published

instance (version : ReportVersionRecord) : Decidable version.Approved :=
  inferInstanceAs (Decidable (_ ∨ _))

/-- The approval and publication commands on a version. -/
def Decides (id : String) : ReportOperation → Prop
  | .syncProjection _ => False
  | .reviseManually _ _ _ _ => False
  | .fillGaps _ _ _ => False
  | .upsertVersion _ => False
  | .requestApproval request _ => request.reportVersionId = id
  | .approve decision _ _ => decision.reportVersionId = id
  | .reject decision _ => decision.reportVersionId = id
  | .publish reportVersionId _ _ _ _ => reportVersionId = id
  | .writeEvidence _ => False

instance (id : String) : ∀ operation, Decidable (Decides id operation)
  | .syncProjection _ => isFalse not_false
  | .reviseManually _ _ _ _ => isFalse not_false
  | .fillGaps _ _ _ => isFalse not_false
  | .upsertVersion _ => isFalse not_false
  | .requestApproval request _ =>
      inferInstanceAs (Decidable (request.reportVersionId = id))
  | .approve decision _ _ =>
      inferInstanceAs (Decidable (decision.reportVersionId = id))
  | .reject decision _ =>
      inferInstanceAs (Decidable (decision.reportVersionId = id))
  | .publish reportVersionId _ _ _ _ =>
      inferInstanceAs (Decidable (reportVersionId = id))
  | .writeEvidence _ => isFalse not_false

/-- The version keeps its status, its publication time and its content. -/
structure KeepsVersion (version later : ReportVersionRecord) : Prop where
  status : later.status = version.status
  publishedAt : later.publishedAt = version.publishedAt
  reportMd : later.reportMd = version.reportMd
  evidenceIds : later.evidenceIds = version.evidenceIds
  claimIds : later.claimIds = version.claimIds

def Keeps (id : String) (version : ReportVersionRecord)
    (store : EnterpriseReports) : Prop :=
  ∃ later, store.versions.get? id = some later ∧ KeepsVersion version later

section

variable {settings : ReportSettings}

/-- The id a producer computes for its draft. -/
def draftId (settings : ReportSettings) (store : EnterpriseReports) :
    ReportOperation → Option String
  | .syncProjection projection =>
      some (syncedRecord settings store projection).id
  | .reviseManually reportVersionId request actorId now =>
      (store.versions.get? reportVersionId).map fun source =>
        (revisionRecord settings.parsing.sha256Hex store source request
          actorId now).id
  | .fillGaps source fill now =>
      some (filledRecord settings store source fill now).id
  | .upsertVersion _ => none
  | .requestApproval _ _ => none
  | .approve _ _ _ => none
  | .reject _ _ => none
  | .publish _ _ _ _ _ => none
  | .writeEvidence _ => none

/-- No command on the version, and no draft under its id. -/
def LeavesAlone (settings : ReportSettings) (id : String)
    (store : EnterpriseReports) (operation : ReportOperation) : Prop :=
  ¬ Decides id operation ∧ draftId settings store operation ≠ some id

instance (settings : ReportSettings) (id : String)
    (store : EnterpriseReports) (operation : ReportOperation) :
    Decidable (LeavesAlone settings id store operation) :=
  inferInstanceAs (Decidable (_ ∧ _))

/-- What is written under the id of an approved version is a draft under
that id, or comes from a command on it. -/
theorem draftId_of_overwritten {store : EnterpriseReports}
    {operation : ReportOperation} {version record : ReportVersionRecord}
    (found : store.versions.get? record.id = some version)
    (approved : version.Approved) (undecided : ¬ Decides record.id operation)
    (drafts : Drafts settings store operation record) :
    draftId settings store operation = some record.id ∧
      record.status = .draft := by
  cases operation with
  | syncProjection projection =>
      obtain rfl := drafts
      exact ⟨rfl, rfl⟩
  | reviseManually reportVersionId request actorId now =>
      obtain ⟨source, isStored, rfl⟩ := drafts
      refine ⟨?_, rfl⟩
      rw [draftId, isStored, Option.map_some]
  | fillGaps source fill now =>
      obtain ⟨entries, rfl⟩ := drafts
      exact ⟨rfl, rfl⟩
  | upsertVersion written =>
      obtain ⟨rfl, -, free⟩ := drafts
      have notApproved := free version found
      rcases approved with isApproved | isPublished
      · exact (notApproved.1 isApproved).elim
      · exact (notApproved.2 isPublished).elim
  | requestApproval request now =>
      obtain ⟨reviewed, isStored, -, rfl⟩ := drafts
      exact (undecided (EnterpriseReports.id_of_found isStored).symm).elim
  | approve decision gate now =>
      obtain ⟨reviewed, isStored, -, -, rfl⟩ := drafts
      exact (undecided (EnterpriseReports.id_of_found isStored).symm).elim
  | reject decision now =>
      obtain ⟨reviewed, isStored, -, rfl⟩ := drafts
      exact (undecided (EnterpriseReports.id_of_found isStored).symm).elim
  | publish reportVersionId actorId gate contract now =>
      obtain ⟨reviewed, isStored, -, -, rfl⟩ := drafts
      exact (undecided (EnterpriseReports.id_of_found isStored).symm).elim
  | writeEvidence action => exact drafts.elim

/-- The draft a producer writes lies under the id it computes. -/
theorem draftId_of_drafts {store : EnterpriseReports}
    {operation : ReportOperation} {record : ReportVersionRecord} {id : String}
    (computed : draftId settings store operation = some id)
    (drafts : Drafts settings store operation record) :
    record.id = id ∧ record.status = .draft := by
  cases operation with
  | syncProjection projection =>
      obtain rfl := drafts
      exact ⟨Option.some.inj computed, rfl⟩
  | reviseManually reportVersionId request actorId now =>
      obtain ⟨source, isStored, rfl⟩ := drafts
      rw [draftId, isStored] at computed
      exact ⟨Option.some.inj computed, rfl⟩
  | fillGaps source fill now =>
      obtain ⟨entries, rfl⟩ := drafts
      exact ⟨Option.some.inj computed, rfl⟩
  | upsertVersion written => cases computed
  | requestApproval request now => cases computed
  | approve decision gate now => cases computed
  | reject decision now => cases computed
  | publish reportVersionId actorId gate contract now => cases computed
  | writeEvidence action => cases computed

variable [PyRuntime]

theorem leavesAlone_step {store next : EnterpriseReports}
    {operation : ReportOperation} {id : String}
    {version : ReportVersionRecord} (approved : version.Approved)
    (found : store.versions.get? id = some version)
    (alone : LeavesAlone settings id store operation)
    (stepped : reportStep settings store operation = some next) :
    next.versions.get? id = some version := by
  rcases reportStep_cases stepped with
    ⟨-, sameVersions⟩ | ⟨record, stored, drafts, same, writes⟩
  · rw [sameVersions]
    exact found
  · by_cases written : id = stored.id
    · have isRecord : id = record.id := written.trans same.id
      subst isRecord
      have computed :=
        draftId_of_overwritten found approved alone.1 drafts
      exact (alone.2 computed.1).elim
    · rw [writes.other written]
      exact found

/-- Approved and published versions are stable along operations that neither
decide on them nor draft under their ids; and an operation that does not
decide on such a version keeps it exactly when it drafts under no such id. -/
theorem approvedVersions_stable {store : EnterpriseReports} {id : String}
    {version : ReportVersionRecord}
    (found : store.versions.get? id = some version)
    (approved : version.Approved) :
    (∀ operations final,
      Along (reportStep settings) (LeavesAlone settings id) store
          operations →
        exec (reportStep settings) store operations = some final →
          Keeps id version final) ∧
    ∀ operation next, ¬ Decides id operation →
      reportStep settings store operation = some next →
        (Keeps id version next ↔
          draftId settings store operation ≠ some id) := by
  have kept : ∀ (state : EnterpriseReports) operation next,
      state.versions.get? id = some version →
      LeavesAlone settings id state operation →
      reportStep settings state operation = some next →
        next.versions.get? id = some version := by
    intro state operation next isStored alone stepped
    exact leavesAlone_step approved isStored alone stepped
  constructor
  · intro operations final guarded run
    have isStored := exec_invariant_along kept found guarded run
    exact ⟨version, isStored, ⟨rfl, rfl, rfl, rfl, rfl⟩⟩
  · intro operation next undecided stepped
    constructor
    · rintro ⟨later, isStored, keeps⟩ computed
      rcases reportStep_cases stepped with
        ⟨⟨action, rfl⟩, -⟩ | ⟨record, stored, drafts, same, writes⟩
      · cases computed
      · obtain ⟨isRecord, isDraft⟩ := draftId_of_drafts computed drafts
        have underId : stored.id = id := same.id.trans isRecord
        have isLater := writes.same
        rw [underId, isStored] at isLater
        cases isLater
        have draft := same.status.trans isDraft
        rw [keeps.status] at draft
        rcases approved with isApproved | isPublished
        · rw [isApproved] at draft
          cases draft
        · rw [isPublished] at draft
          cases draft
    · intro other
      have isStored := leavesAlone_step approved found ⟨undecided, other⟩
        stepped
      exact ⟨version, isStored, ⟨rfl, rfl, rfl, rfl, rfl⟩⟩

end

/-! ## A run projected again after its report was approved -/

namespace ReportExample

/-- No page shares its content with another. -/
def settings : ReportSettings :=
  { parsing :=
      { sha256Hex := id
        hostname := fun _ => "acme.example"
        normalizeKey := id
        dedupeKeys := fun _ => []
        duplicateRows := fun _ _ => [] } }

def scope : ReportScope :=
  { projectId := "p1"
    topicNormalized := "pricing"
    competitorLayer := "unknown"
    competitorSetHash := "acme" }

def projection (runId reportMd : String) : RunProjection :=
  { runId := runId
    scope := scope
    reportMd := reportMd
    updatedAt := 1 }

/-- The id of the version of the first run. -/
def versionId : String :=
  computeReportVersionId id "run1" 1 "pricing" "acme"

def gate : ReportReleaseGate :=
  { allowed := true }

def request : ReportOperation :=
  .requestApproval { reportVersionId := versionId } 2

def approval : ReportOperation :=
  .approve
    { reportVersionId := versionId
      approverId := "reviewer" } gate 3

local instance reportExampleRuntime : PyRuntime := asciiRuntime

/-- The store with the approved version of the first run. -/
def approvedStore : EnterpriseReports :=
  (exec (reportStep settings) { }
    [.syncProjection (projection "run1" "Prices."), request,
      approval]).getD { }

def approvedVersion : ReportVersionRecord :=
  (approvedStore.versions.get? versionId).getD
    (syncedRecord settings { } (projection "run1" "Prices."))

/-- A projection of another run leaves the approved version alone. -/
theorem approvedVersions_stable_otherRun :
    ∃ final,
      exec (reportStep settings) approvedStore
          [.syncProjection (projection "run2" "More prices.")] =
            some final ∧
        Keeps versionId approvedVersion final := by
  have isStored : approvedStore.versions.get? versionId =
      some approvedVersion := rfl
  have approved : approvedVersion.Approved := by decide
  have alone : Along (reportStep settings) (LeavesAlone settings versionId)
      approvedStore [.syncProjection (projection "run2" "More prices.")] := by
    decide
  exact ⟨_, rfl,
    (approvedVersions_stable isStored approved).1 _ _ alone rfl⟩

/-- Material imported into the run projects it again: the approved version
is a draft with another text. -/
theorem approvedVersions_redrafted :
    ∃ final later,
      approvedVersion.status = .approved ∧
        reportStep settings approvedStore
            (.syncProjection (projection "run1" "Prices, imported.")) =
          some final ∧
        final.versions.get? versionId = some later ∧
        later.status = .draft ∧ later.reportMd = "Prices, imported." :=
  ⟨_, _, rfl, rfl, rfl, rfl, by decide⟩

end ReportExample

end CompetiScope
