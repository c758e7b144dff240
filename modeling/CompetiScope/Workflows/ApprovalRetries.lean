import CompetiScope.Enterprise.ApprovalMetadata

/-!
# Approval activities delivered twice

Temporal retries an activity whose acknowledgement was lost.  An approval or a
rejection requires a version in review and moves it out of review, so the
retry fails; a request is accepted again and appends to both histories and to
the audit log a second time.
-/

namespace CompetiScope

open Foundation

inductive ApprovalActivity where
  | request (input : ReportApprovalWorkflowInput)
  | approve (input : ReportApprovalDecisionInput)
  | reject (input : ReportApprovalDecisionInput)

namespace ApprovalActivity

def reportVersionId : ApprovalActivity → String
  | .request input => input.reportVersionId
  | .approve input => input.reportVersionId
  | .reject input => input.reportVersionId

/-- One execution at the time `now`; `gate` is what the release gate answers
to an approval. -/
def execute (sha256Hex : String → String) (activity : ApprovalActivity)
    (store : EnterpriseReports) (gate : ReportReleaseGate) (now : Nat) :
    Option (EnterpriseReports × ReportApprovalState) :=
  match activity with
  | .request input => requestReportApproval sha256Hex store input now
  | .approve input => approveReportVersion sha256Hex store input gate now
  | .reject input => rejectReportVersion sha256Hex store input now

end ApprovalActivity

/-- A second execution answers what the first did and leaves its version and
the audit log as the first left them. -/
structure SameOutcome (id : String)
    (first second : EnterpriseReports × ReportApprovalState) : Prop where
  state : second.2 = first.2
  version : second.1.versions.get? id = first.1.versions.get? id
  auditLogs : second.1.auditLogs = first.1.auditLogs

/-- The activity may be delivered again. -/
def Redeliverable (sha256Hex : String → String) (activity : ApprovalActivity)
    (first : EnterpriseReports × ReportApprovalState)
    (gate : ReportReleaseGate) (now : Nat) : Prop :=
  ∃ second, activity.execute sha256Hex first.1 gate now = some second ∧
    SameOutcome activity.reportVersionId first second

section

variable {sha256Hex : String → String}

theorem upsertReportVersion_auditLogs (store : EnterpriseReports)
    (version : ReportVersionRecord) :
    store.auditLogs.length <
      (store.upsertReportVersion version).auditLogs.length := by
  unfold EnterpriseReports.upsertReportVersion
  dsimp only
  split
  · simp [EnterpriseReports.appendAudit]
  · simp [EnterpriseReports.appendAudit]

theorem recordTransition_auditLogs (store : EnterpriseReports)
    (version : ReportVersionRecord) (action actorId note : String)
    (before : ReportStatus) (gate : Option ReportReleaseGate) :
    store.auditLogs.length <
      (store.recordTransition version action actorId before note
        gate).auditLogs.length := by
  have upserted := upsertReportVersion_auditLogs store version
  simp only [EnterpriseReports.recordTransition,
    EnterpriseReports.appendAudit, List.length_append, List.length_singleton]
  omega

/-- The version a transition marks is found with the status it was given. -/
theorem recordTransition_status {store : EnterpriseReports}
    {version found : ReportVersionRecord} {id action actorId note : String}
    {before : ReportStatus} {gate : Option ReportReleaseGate}
    (underId : version.id = id)
    (isFound : (store.recordTransition version action actorId before note
      gate).versions.get? id = some found) :
    found.status = version.status := by
  have same := @EnterpriseReports.canonicalVersion_sameRecord store version
  have isWritten := (@EnterpriseReports.recordTransition_writes store version
    action actorId note before gate).same
  rw [same.id, underId, isFound] at isWritten
  cases isWritten
  exact same.status

/-- A version on which a decision was taken has left the review. -/
theorem decided_not_inReview {store : EnterpriseReports}
    {version found : ReportVersionRecord} {id action approverId note : String}
    {decision : ApprovalDecision} {before : ReportStatus}
    {gate : Option ReportReleaseGate} {decidedAt : Nat}
    (isVersion : store.versions.get? id = some version)
    (isFound : (store.recordTransition
      (markReportApprovalDecision sha256Hex version decision approverId note
        gate decidedAt)
      action approverId before note gate).versions.get? id = some found) :
    found.status ≠ .inReview := by
  have underId := (@markReportApprovalDecision_id sha256Hex version decision
    approverId note gate decidedAt).trans
      (EnterpriseReports.id_of_found isVersion)
  rw [recordTransition_status underId isFound,
    markReportApprovalDecision_status]
  cases decision <;> nofun

theorem approve_again_fails {store : EnterpriseReports}
    {first : EnterpriseReports × ReportApprovalState}
    {decision : ReportApprovalDecisionInput} {gate : ReportReleaseGate}
    {now : Nat}
    (executed : approveReportVersion sha256Hex store decision gate now =
      some first) (laterGate : ReportReleaseGate) (later : Nat) :
    approveReportVersion sha256Hex first.1 decision laterGate later =
      none := by
  obtain ⟨version, found, -, -, written, -⟩ :=
    approveReportVersion_cases executed
  rw [Option.eq_none_iff_forall_not_mem]
  rintro ⟨again, state⟩ repeated
  obtain ⟨reread, refound, inReview, -⟩ := approveReportVersion_cases repeated
  rw [written] at refound
  exact decided_not_inReview found refound inReview

theorem reject_again_fails {store : EnterpriseReports}
    {first : EnterpriseReports × ReportApprovalState}
    {decision : ReportApprovalDecisionInput} {now : Nat}
    (executed : rejectReportVersion sha256Hex store decision now =
      some first) (later : Nat) :
    rejectReportVersion sha256Hex first.1 decision later = none := by
  obtain ⟨version, found, -, written, -⟩ :=
    rejectReportVersion_cases executed
  rw [Option.eq_none_iff_forall_not_mem]
  rintro ⟨again, state⟩ repeated
  obtain ⟨reread, refound, inReview, -⟩ := rejectReportVersion_cases repeated
  rw [written] at refound
  exact decided_not_inReview found refound inReview

theorem request_again_appends {store : EnterpriseReports}
    {second : EnterpriseReports × ReportApprovalState}
    {request : ReportApprovalWorkflowInput} {later : Nat}
    (repeated : requestReportApproval sha256Hex store request later =
      some second) :
    store.auditLogs.length < second.1.auditLogs.length := by
  obtain ⟨version, -, -, -, written, -⟩ :=
    requestReportApproval_cases repeated
  rw [written]
  exact recordTransition_auditLogs _ _ _ _ _ _ _

/-- No activity that was executed once may be delivered again. -/
theorem activity_not_redeliverable {store : EnterpriseReports}
    {first : EnterpriseReports × ReportApprovalState}
    {activity : ApprovalActivity} {gate : ReportReleaseGate} {now : Nat}
    (executed : activity.execute sha256Hex store gate now = some first)
    (laterGate : ReportReleaseGate) (later : Nat) :
    ¬ Redeliverable sha256Hex activity first laterGate later := by
  rintro ⟨second, repeated, same⟩
  cases activity with
  | request input =>
      have grown := request_again_appends repeated
      rw [same.auditLogs] at grown
      exact Nat.lt_irrefl _ grown
  | approve input =>
      have fails := approve_again_fails executed laterGate later
      rw [ApprovalActivity.execute, fails] at repeated
      cases repeated
  | reject input =>
      have fails := reject_again_fails executed later
      rw [ApprovalActivity.execute, fails] at repeated
      cases repeated

end

namespace ReportExample

local instance retriesExampleRuntime : PyRuntime := asciiRuntime

/-- The store with the draft of the first run. -/
def draftStore : EnterpriseReports :=
  (reportStep settings { }
    (.syncProjection (projection "run1" "Prices."))).getD { }

def requestActivity : ApprovalActivity :=
  .request { reportVersionId := versionId }

def approveActivity : ApprovalActivity :=
  .approve
    { reportVersionId := versionId
      approverId := "reviewer" }

theorem activity_not_redeliverable_request :
    ∃ first, requestActivity.execute id draftStore gate 2 = some first ∧
      ¬ Redeliverable id requestActivity first gate 3 :=
  ⟨_, rfl, activity_not_redeliverable
    (rfl : requestActivity.execute id draftStore gate 2 = some _) gate 3⟩

/-- The retry of an approval that was applied fails. -/
theorem activity_redelivery_fails :
    ∃ requested approved,
      requestActivity.execute id draftStore gate 2 = some requested ∧
        approveActivity.execute id requested.1 gate 3 = some approved ∧
        approveActivity.execute id approved.1 gate 4 = none :=
  ⟨_, _, rfl, rfl, rfl⟩

end ReportExample

end CompetiScope
