import CompetiScope.Enterprise.ReportStability

/-!
# Publication only after approval

Three statuses of a version tell of its past: a version in review was sent
there, an approved one was approved after that, and a published one published
after that.  Drafts and archived versions tell nothing, and no operation
copies one of the three statuses from one version to another.
-/

namespace CompetiScope

open Foundation

/-- The version enters review. -/
def EntersReview (id : String) : ReportOperation → Prop
  | .requestApproval request _ => request.reportVersionId = id
  | _ => False

/-- The version is approved under an allowed release gate. -/
def Approves (id : String) : ReportOperation → Prop
  | .approve decision gate _ =>
      decision.reportVersionId = id ∧ gate.allowed = true
  | _ => False

/-- The version is published under an allowed release gate. -/
def Publishes (id : String) : ReportOperation → Prop
  | .publish reportVersionId _ gate _ _ =>
      reportVersionId = id ∧ gate.allowed = true
  | _ => False

/-- An approval that lies after the last entry into review. -/
structure ApprovedSince (id : String) (before after : List ReportOperation)
    (approval : ReportOperation) : Prop where
  approves : Approves id approval
  entered : ∃ entry ∈ before, EntersReview id entry
  lastEntry : ∀ operation ∈ after, ¬ EntersReview id operation

/-- The version was approved after its last entry into review. -/
def ApprovedIn (id : String) (past : List ReportOperation) : Prop :=
  ∃ before approval after, past = before ++ approval :: after ∧
    ApprovedSince id before after approval

/-- The version was published after it was approved. -/
def PublishedIn (id : String) (past : List ReportOperation) : Prop :=
  ∃ before approval after, past = before ++ approval :: after ∧
    ApprovedSince id before after approval ∧
      ∃ publication ∈ after, Publishes id publication

theorem ApprovedSince.concat {id : String}
    {before after : List ReportOperation}
    {approval operation : ReportOperation}
    (approved : ApprovedSince id before after approval)
    (stays : ¬ EntersReview id operation) :
    ApprovedSince id before (after ++ [operation]) approval where
  approves := approved.approves
  entered := approved.entered
  lastEntry := by
    intro later member
    rcases List.mem_append.mp member with known | last
    · exact approved.lastEntry later known
    · rw [List.mem_singleton.mp last]
      exact stays

theorem ApprovedIn.concat {id : String} {past : List ReportOperation}
    {operation : ReportOperation} (approved : ApprovedIn id past)
    (stays : ¬ EntersReview id operation) :
    ApprovedIn id (past ++ [operation]) := by
  obtain ⟨before, approval, after, rfl, since⟩ := approved
  exact ⟨before, approval, after ++ [operation], by simp, since.concat stays⟩

theorem PublishedIn.concat {id : String} {past : List ReportOperation}
    {operation : ReportOperation} (published : PublishedIn id past)
    (stays : ¬ EntersReview id operation) :
    PublishedIn id (past ++ [operation]) := by
  obtain ⟨before, approval, after, rfl, since, publication, member, publishes⟩
    := published
  exact ⟨before, approval, after ++ [operation], by simp, since.concat stays,
    publication, List.mem_append_left _ member, publishes⟩

/-- A publication of an approved version. -/
theorem ApprovedIn.publish {id : String} {past : List ReportOperation}
    {publication : ReportOperation} (approved : ApprovedIn id past)
    (publishes : Publishes id publication) :
    PublishedIn id (past ++ [publication]) := by
  have stays : ¬ EntersReview id publication := by
    intro enters
    cases publication with
    | publish reportVersionId actorId gate contract now => exact enters
    | _ => exact publishes
  obtain ⟨before, approval, after, rfl, since⟩ := approved
  exact ⟨before, approval, after ++ [publication], by simp,
    since.concat stays, publication, by simp, publishes⟩

/-- What the status of a version tells of its past. -/
structure StatusTells (id : String) (past : List ReportOperation)
    (status : ReportStatus) : Prop where
  inReview : status = .inReview → ∃ entry ∈ past, EntersReview id entry
  approved : status = .approved → ApprovedIn id past
  published : status = .published → PublishedIn id past

theorem StatusTells.concat {id : String} {past : List ReportOperation}
    {operation : ReportOperation} {status : ReportStatus}
    (tells : StatusTells id past status)
    (stays : ¬ EntersReview id operation) :
    StatusTells id (past ++ [operation]) status where
  inReview := by
    intro inReview
    obtain ⟨entry, member, enters⟩ := tells.inReview inReview
    exact ⟨entry, List.mem_append_left _ member, enters⟩
  approved := fun approved => (tells.approved approved).concat stays
  published := fun published => (tells.published published).concat stays

/-- A status that tells nothing. -/
theorem statusTells_of_silent {id : String} {past : List ReportOperation}
    {status : ReportStatus} (notInReview : status ≠ .inReview)
    (notApproved : status ≠ .approved) (notPublished : status ≠ .published) :
    StatusTells id past status where
  inReview := fun inReview => (notInReview inReview).elim
  approved := fun approved => (notApproved approved).elim
  published := fun published => (notPublished published).elim

/-- Every stored version has the past its status tells of. -/
def StatusesTell (past : List ReportOperation) (store : EnterpriseReports) :
    Prop :=
  ∀ id version, store.versions.get? id = some version →
    StatusTells id past version.status

section

variable {settings : ReportSettings}

/-- The record that enters review is the one that is written. -/
theorem id_of_entersReview {store : EnterpriseReports}
    {operation : ReportOperation} {record : ReportVersionRecord} {id : String}
    (drafts : Drafts settings store operation record)
    (enters : EntersReview id operation) : record.id = id := by
  cases operation with
  | requestApproval request now =>
      obtain ⟨version, found, -, rfl⟩ := drafts
      exact (EnterpriseReports.id_of_found found).trans enters
  | _ => exact enters.elim

/-- The record an operation writes has the past its status tells of. -/
theorem statusTells_drafted {store : EnterpriseReports}
    {past : List ReportOperation} {operation : ReportOperation}
    {record : ReportVersionRecord} (tell : StatusesTell past store)
    (drafts : Drafts settings store operation record) :
    StatusTells record.id (past ++ [operation]) record.status := by
  cases operation with
  | syncProjection projection =>
      obtain rfl := drafts
      exact statusTells_of_silent nofun nofun nofun
  | reviseManually reportVersionId request actorId now =>
      obtain ⟨source, found, rfl⟩ := drafts
      exact statusTells_of_silent nofun nofun nofun
  | fillGaps source fill now =>
      obtain ⟨entries, rfl⟩ := drafts
      exact statusTells_of_silent nofun nofun nofun
  | upsertVersion version =>
      obtain ⟨rfl, draft | archived, -⟩ := drafts
      · rw [draft]
        exact statusTells_of_silent nofun nofun nofun
      · rw [archived]
        exact statusTells_of_silent nofun nofun nofun
  | requestApproval request now =>
      obtain ⟨version, found, -, rfl⟩ := drafts
      rw [markReportApprovalRequested_status]
      refine { inReview := ?_, approved := nofun, published := nofun }
      intro _
      exact ⟨_, List.mem_concat_self, (EnterpriseReports.id_of_found found).symm⟩
  | approve decision gate now =>
      obtain ⟨version, found, inReview, allowed, rfl⟩ := drafts
      have sameId : version.id = decision.reportVersionId :=
        EnterpriseReports.id_of_found found
      rw [markReportApprovalDecision_status]
      refine { inReview := nofun, approved := ?_, published := nofun }
      intro _
      have entered := (tell _ version found).inReview inReview
      rw [← sameId] at entered
      exact ⟨past, _, [], rfl,
        { approves := ⟨sameId.symm, allowed⟩
          entered := entered
          lastEntry := by
            intro later member
            cases member }⟩
  | reject decision now =>
      obtain ⟨version, found, inReview, rfl⟩ := drafts
      rw [markReportApprovalDecision_status]
      exact statusTells_of_silent nofun nofun nofun
  | publish reportVersionId actorId gate contract now =>
      obtain ⟨version, found, decided, allowed, rfl⟩ := drafts
      have sameId : version.id = reportVersionId :=
        EnterpriseReports.id_of_found found
      subst sameId
      rw [markReportPublished_status]
      refine { inReview := nofun, approved := nofun, published := ?_ }
      intro _
      rcases decided with approved | published
      · exact ((tell _ version found).approved approved).publish
          ⟨rfl, allowed⟩
      · exact ((tell _ version found).published published).concat not_false
  | writeEvidence action => exact drafts.elim

variable [PyRuntime]

theorem statusesTell_step {past : List ReportOperation}
    {store next : EnterpriseReports} {operation : ReportOperation}
    (tell : StatusesTell past store)
    (stepped : reportStep settings store operation = some next) :
    StatusesTell (past ++ [operation]) next := by
  intro id version isStored
  rcases reportStep_cases stepped with
    ⟨⟨action, rfl⟩, sameVersions⟩ | ⟨record, stored, drafts, same, writes⟩
  · rw [sameVersions] at isStored
    exact (tell id version isStored).concat not_false
  · rcases writes.found isStored with ⟨rfl, rfl⟩ | ⟨different, wasStored⟩
    · rw [same.id, same.status]
      exact statusTells_drafted tell drafts
    · apply (tell id version wasStored).concat
      intro enters
      apply different
      rw [same.id]
      exact (id_of_entersReview drafts enters).symm

/-- A published version was approved under an allowed gate after its last
entry into review, and published under an allowed gate after that. -/
theorem publishedVersions_approved {operations : List ReportOperation}
    {final : EnterpriseReports}
    (run : exec (reportStep settings) { } operations = some final) :
    ∀ id version, final.versions.get? id = some version →
      version.status = .published → PublishedIn id operations := by
  have start : StatusesTell [] { } := by
    intro id version absent
    cases absent
  have preserved : ∀ past store operation next, StatusesTell past store →
      reportStep settings store operation = some next →
        StatusesTell (past ++ [operation]) next := by
    intro past store operation next tell stepped
    exact statusesTell_step tell stepped
  have tell : StatusesTell operations final :=
    exec_history preserved start run
  intro id version isStored published
  exact (tell id version isStored).published published

end

namespace ReportExample

local instance publicationExampleRuntime : PyRuntime := asciiRuntime

def publication : ReportOperation :=
  .publish versionId "editor" gate { allowed := true } 4

def publishedRun : List ReportOperation :=
  [.syncProjection (projection "run1" "Prices."), request, approval,
    publication]

theorem publishedVersions_approved_once :
    ∃ final version,
      exec (reportStep settings) { } publishedRun = some final ∧
        final.versions.get? versionId = some version ∧
        version.status = .published ∧ PublishedIn versionId publishedRun :=
  ⟨_, _, rfl, rfl, rfl,
    publishedVersions_approved
      (rfl : exec (reportStep settings) { } publishedRun = some _)
      versionId _ rfl rfl⟩

end ReportExample

end CompetiScope
