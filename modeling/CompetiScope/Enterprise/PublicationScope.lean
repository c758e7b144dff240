import CompetiScope.Enterprise.MemoryStore
import CompetiScope.Foundation.Transition

/-!
# The records a report version may publish

A scope is read off the ids a version cites and cut down to the records of its
run.  Evidence keeps the run that saw it first and a claim takes the run that
derived it last, so a version loses what another run shares with it.
-/

namespace CompetiScope

open Foundation

/-- Where the records of a scope were read. -/
inductive ScopeSource where
  | currentProjection
  | runProjection
  | reportVersionIds
  deriving DecidableEq

/-- `ReportScope` of `report_scope.py`, without its competitors. -/
structure PublicationScope where
  evidence : List EvidenceRecord
  claims : List ClaimRecord
  scopeSource : ScopeSource

/-- `_records_in_id_order`. -/
def recordsInIdOrder {Record : Type*} (idOf : Record → String)
    (records : List Record) (ids : List String) : List Record :=
  ids.filterMap fun id => records.reverse.find? (idOf · = id)

/-- `_records_for_report_run`. -/
def recordsForReportRun {Record : Type*} (runIdOf : Record → Option String)
    (runId : Option String) (records : List Record) : List Record :=
  if runId.filter (· ≠ "") = none then records
  else records.filter (runIdOf · = runId)

namespace EnterpriseMemoryStore

variable (store : EnterpriseMemoryStore)

/-- The projection stored for the run of a version. -/
def storedProjection (version : ReportVersionRecord) :
    Option EnterpriseRunProjection :=
  (version.runId.filter (· ≠ "")).bind store.getRunProjection

/-- `_current_or_stored_projection`. -/
def currentOrStoredProjection (version : ReportVersionRecord)
    (projection : Option EnterpriseRunProjection) :
    Option EnterpriseRunProjection :=
  match projection.filter (·.reportVersion.id = version.id) with
  | some current => some current
  | none => store.storedProjection version

/-- `build_report_scope`. -/
def buildReportScope (version : ReportVersionRecord)
    (project : ProjectRecord)
    (projection : Option EnterpriseRunProjection) : PublicationScope :=
  let cut (evidence : List EvidenceRecord) (claims : List ClaimRecord)
      (source : ScopeSource) : PublicationScope :=
    { evidence :=
        recordsForReportRun (·.runId) version.runId
          (recordsInIdOrder (·.id) evidence version.evidenceIds)
      claims :=
        recordsForReportRun (·.runId) version.runId
          (recordsInIdOrder (·.id) claims version.claimIds)
      scopeSource := source }
  match (store.currentOrStoredProjection version projection).filter
      (·.reportVersion.id = version.id) with
  | some found =>
      cut found.evidenceRecords found.claimRecords
        (if (projection.filter (·.reportVersion.id = version.id)).isSome then
          .currentProjection
        else .runProjection)
  | none =>
      cut (store.listEvidence project.id) (store.listClaims project.id)
        .reportVersionIds

/-- The scope holds the stored records whose ids the version cites. -/
def ScopeComplete (version : ReportVersionRecord) (project : ProjectRecord) :
    Prop :=
  let scope := store.buildReportScope version project none
  scope.evidence = store.evidenceOf version.evidenceIds ∧
    scope.claims = store.claimsOf version.claimIds

/-- What a version cites is stored under its run. -/
structure CitesOwnRun (version : ReportVersionRecord) : Prop where
  evidence : ∀ id ∈ version.evidenceIds, ∀ record,
    store.sources.evidence.get? id = some record →
      record.runId = version.runId
  claims : ∀ id ∈ version.claimIds, ∀ claim,
    store.claims.get? id = some claim → claim.runId = version.runId

end EnterpriseMemoryStore

/-! ## Exactly when a scope is complete -/

/-- Records that are rows of a table are found under their ids. -/
theorem recordsInIdOrder_eq {Record : Type*} {idOf : Record → String}
    (table : Table String Record idOf) {records : List Record}
    {ids : List String}
    (rows : ∀ record ∈ records, table.get? (idOf record) = some record)
    (covers : ∀ id ∈ ids, ∀ record, table.get? id = some record →
      record ∈ records) :
    recordsInIdOrder idOf records ids = ids.filterMap table.get? := by
  apply List.filterMap_congr
  intro id listed
  cases stored : table.get? id with
  | none =>
      rw [List.find?_eq_none]
      intro record member sameId
      have row := rows record (List.mem_reverse.mp member)
      rw [of_decide_eq_true sameId, stored] at row
      cases row
  | some record =>
      have member := List.mem_reverse.mpr (covers id listed record stored)
      have sameId : idOf record = id := Table.key_of_get? stored
      cases found : records.reverse.find? (idOf · = id) with
      | none =>
          have missing := List.find?_eq_none.mp found record member
          simp [sameId] at missing
      | some other =>
          have row := rows other
            (List.mem_reverse.mp (List.mem_of_find?_eq_some found))
          have sameOther : idOf other = id := by
            simpa using List.find?_some found
          rw [sameOther, stored] at row
          exact row.symm

theorem recordsForReportRun_eq_iff {Record : Type*} {idOf : Record → String}
    {runIdOf : Record → Option String} {runId : Option String}
    {table : Table String Record idOf} {ids : List String} :
    recordsForReportRun runIdOf runId (ids.filterMap table.get?) =
        ids.filterMap table.get? ↔
      runId.filter (· ≠ "") = none ∨
        ∀ id ∈ ids, ∀ record, table.get? id = some record →
          runIdOf record = runId := by
  unfold recordsForReportRun
  split
  · next anyRun => simp only [anyRun, true_or]
  · next ownRun =>
      rw [List.filter_eq_self, or_iff_right ownRun]
      constructor
      · intro own id listed record stored
        exact of_decide_eq_true
          (own record (List.mem_filterMap.mpr ⟨id, listed, stored⟩))
      · intro own record member
        obtain ⟨id, listed, stored⟩ := List.mem_filterMap.mp member
        exact decide_eq_true (own id listed record stored)

namespace EnterpriseMemoryStore

section Exact

variable {store : EnterpriseMemoryStore} {version : ReportVersionRecord}
  {project : ProjectRecord}

private theorem mem_listEvidence {projectId : String}
    {record : EvidenceRecord} :
    record ∈ store.listEvidence projectId ↔
      record ∈ store.sources.evidence.values ∧
        (record.projectId = projectId ∨
          ∃ version ∈ store.versions.values,
            version.scope.projectId = projectId ∧
              record.id ∈ version.evidenceIds) := by
  rw [listEvidence, List.mem_insertionSort, List.mem_filter]
  simp [and_assoc]

private theorem mem_listClaims {projectId : String} {claim : ClaimRecord} :
    claim ∈ store.listClaims projectId ↔
      claim ∈ store.claims.values ∧
        (claim.projectId = projectId ∨
          ∃ version ∈ store.versions.values,
            version.scope.projectId = projectId ∧
              claim.id ∈ version.claimIds) := by
  rw [listClaims, List.mem_insertionSort, List.mem_filter]
  simp [and_assoc]

/-- A stored projection with the id of a stored version is that version's. -/
theorem projection_of_stored {projection : EnterpriseRunProjection}
    (stored : store.versions.get? version.id = some version)
    (found : (store.storedProjection version).filter
      (·.reportVersion.id = version.id) = some projection) :
    projection.evidenceRecords = store.evidenceOf version.evidenceIds ∧
      projection.claimRecords = store.claimsOf version.claimIds := by
  obtain ⟨isStored, sameId⟩ := Option.filter_eq_some_iff.mp found
  obtain ⟨runId, -, isLatest⟩ := Option.bind_eq_some_iff.mp isStored
  obtain ⟨latest, isLast, rfl⟩ := Option.map_eq_some_iff.mp isLatest
  have member := List.mem_of_mem_filter (latestVersion_mem isLast)
  have sameVersion : latest = version := by
    have row := Table.mem_values.mp member
    rw [of_decide_eq_true sameId, stored] at row
    exact (Option.some.inj row).symm
  subst sameVersion
  exact ⟨rfl, rfl⟩

/-- What `build_report_scope` reads of a stored version. -/
theorem buildReportScope_of_stored
    (stored : store.versions.get? version.id = some version)
    (sameProject : project.id = version.scope.projectId) :
    (store.buildReportScope version project none).evidence =
        recordsForReportRun (·.runId) version.runId
          (store.evidenceOf version.evidenceIds) ∧
      (store.buildReportScope version project none).claims =
        recordsForReportRun (·.runId) version.runId
          (store.claimsOf version.claimIds) := by
  have evidenceRow : ∀ record ∈ store.evidenceOf version.evidenceIds,
      store.sources.evidence.get? record.id = some record := by
    intro record member
    obtain ⟨id, -, found⟩ := List.mem_filterMap.mp member
    rwa [Table.key_of_get? found]
  have claimRow : ∀ claim ∈ store.claimsOf version.claimIds,
      store.claims.get? claim.id = some claim := by
    intro claim member
    obtain ⟨id, -, found⟩ := List.mem_filterMap.mp member
    rwa [Table.key_of_get? found]
  have isValue : version ∈ store.versions.values :=
    Table.mem_values.mpr stored
  unfold buildReportScope currentOrStoredProjection
  simp only [Option.filter_none]
  split
  · next projection found =>
      obtain ⟨evidence, claims⟩ := projection_of_stored stored found
      rw [evidence, claims,
        recordsInIdOrder_eq _ evidenceRow fun id listed record found =>
          List.mem_filterMap.mpr ⟨id, listed, found⟩,
        recordsInIdOrder_eq _ claimRow fun id listed claim found =>
          List.mem_filterMap.mpr ⟨id, listed, found⟩]
      exact ⟨rfl, rfl⟩
  · rw [recordsInIdOrder_eq store.sources.evidence,
      recordsInIdOrder_eq store.claims]
    · exact ⟨rfl, rfl⟩
    · intro claim member
      exact Table.mem_values.mp (mem_listClaims.mp member).1
    · intro id listed claim found
      have sameId : claim.id = id := Table.key_of_get? found
      refine mem_listClaims.mpr ⟨Table.mem_values.mpr ?_, .inr ?_⟩
      · rwa [sameId]
      · exact ⟨version, isValue, sameProject.symm, sameId ▸ listed⟩
    · intro record member
      exact Table.mem_values.mp (mem_listEvidence.mp member).1
    · intro id listed record found
      have sameId : record.id = id := Table.key_of_get? found
      refine mem_listEvidence.mpr ⟨Table.mem_values.mpr ?_, .inr ?_⟩
      · rwa [sameId]
      · exact ⟨version, isValue, sameProject.symm, sameId ▸ listed⟩

/-- The scope of a stored version is complete exactly when the version has no
run or everything it cites is stored under its run. -/
theorem scopeComplete_iff
    (stored : store.versions.get? version.id = some version)
    (sameProject : project.id = version.scope.projectId) :
    store.ScopeComplete version project ↔
      version.runId.filter (· ≠ "") = none ∨ store.CitesOwnRun version := by
  obtain ⟨evidence, claims⟩ :=
    buildReportScope_of_stored stored sameProject
  unfold ScopeComplete
  simp only [evidence, claims, evidenceOf, claimsOf,
    recordsForReportRun_eq_iff, ← or_and_left]
  constructor
  · rintro (anyRun | ⟨ownEvidence, ownClaims⟩)
    · exact .inl anyRun
    · exact .inr ⟨ownEvidence, ownClaims⟩
  · rintro (anyRun | own)
    · exact .inl anyRun
    · exact .inr ⟨own.evidence, own.claims⟩

end Exact

/-! ## Runs that share nothing -/

section Runs

variable {store : EnterpriseMemoryStore}

/-- A run saved at a time. -/
structure SavedRun where
  run : ProjectedRun
  now : Nat

/-- The run shares no evidence and no claim with another run: what its version
cites is stored under no other run, and no version of another run cites what
it brings. -/
structure SharesNothing (store : EnterpriseMemoryStore) (save : SavedRun) :
    Prop where
  evidence : ∀ id ∈ save.run.reportVersion.evidenceIds, ∀ record,
    store.sources.evidence.get? id = some record →
      record.runId = some save.run.runId
  claims : ∀ id ∈ save.run.reportVersion.claimIds, ∀ claim,
    store.claims.get? id = some claim → claim.runId = some save.run.runId
  citedEvidence : ∀ record ∈ save.run.evidenceRecords,
    ∀ version ∈ store.versions.values, record.id ∈ version.evidenceIds →
      version.runId = some save.run.runId
  citedClaims : ∀ claim ∈ save.run.claimRecords,
    ∀ version ∈ store.versions.values, claim.id ∈ version.claimIds →
      version.runId = some save.run.runId

/-- A run of new records shares nothing. -/
theorem sharesNothing_of_new {save : SavedRun}
    (newEvidence : ∀ id ∈ save.run.reportVersion.evidenceIds,
      store.sources.evidence.get? id = none)
    (newClaims : ∀ id ∈ save.run.reportVersion.claimIds,
      store.claims.get? id = none)
    (uncited : ∀ version ∈ store.versions.values,
      (∀ record ∈ save.run.evidenceRecords,
        record.id ∉ version.evidenceIds) ∧
        ∀ claim ∈ save.run.claimRecords, claim.id ∉ version.claimIds) :
    SharesNothing store save := by
  constructor
  · intro id listed record found
    rw [newEvidence id listed] at found
    cases found
  · intro id listed claim found
    rw [newClaims id listed] at found
    cases found
  · intro record member version stored listed
    exact absurd listed ((uncited version stored).1 record member)
  · intro claim member version stored listed
    exact absurd listed ((uncited version stored).2 claim member)

/-- Every stored version cites its own run. -/
def AllCiteOwnRun (store : EnterpriseMemoryStore) : Prop :=
  ∀ version ∈ store.versions.values, store.CitesOwnRun version

variable [PyRuntime] {parsing : EvidenceParsing}

/-- A step of a store that only saves runs. -/
def saveStep (parsing : EvidenceParsing) (store : EnterpriseMemoryStore)
    (save : SavedRun) : Option EnterpriseMemoryStore :=
  some
    (saveProjection parsing save.now store
      save.run.toEnterpriseRunProjection)

/-- Evidence after a run: the run did not bring it, or it is of the run when
no other run had stored it. -/
theorem evidence_after_save {save : SavedRun} {id : String}
    {record : EvidenceRecord}
    (found : (saveProjection parsing save.now store
      save.run.toEnterpriseRunProjection).sources.evidence.get? id =
        some record) :
    store.sources.evidence.get? id = some record ∨
      (∃ brought ∈ save.run.evidenceRecords, brought.id = id) ∧
        ((∀ known, store.sources.evidence.get? id = some known →
          known.runId = some save.run.runId) →
            record.runId = some save.run.runId) := by
  rw [evidence_saveProjection,
    Table.get?_foldl_mergeRow mergeEvidenceLifecycle_id
      save.run.evidenceDistinct] at found
  cases isBrought : save.run.evidenceRecords.find? (·.id = id) with
  | none =>
      rw [isBrought] at found
      exact .inl found
  | some brought =>
      rw [isBrought] at found
      have member := List.mem_of_find?_eq_some isBrought
      have sameId : brought.id = id := by
        simpa using List.find?_some isBrought
      have ownRun := save.run.evidenceRun brought member
      refine .inr ⟨⟨brought, member, sameId⟩, ?_⟩
      intro ofRun
      cases isKnown : store.sources.evidence.get? id with
      | none =>
          rw [isKnown] at found
          cases found
          exact ownRun
      | some known =>
          rw [isKnown] at found
          cases found
          have keptRun := ofRun known isKnown
          simp only [mergeEvidenceLifecycle, keptRun, ownRun, orText_self]

theorem claim_after_save {save : SavedRun} {id : String}
    {claim : ClaimRecord}
    (found : (saveProjection parsing save.now store
      save.run.toEnterpriseRunProjection).claims.get? id = some claim) :
    store.claims.get? id = some claim ∨
      (∃ brought ∈ save.run.claimRecords, brought.id = id) ∧
        claim.runId = some save.run.runId := by
  rw [claims_saveProjection] at found
  have merged : (save.run.claimRecords.foldl
      (Table.mergeRow fun _ claim => claim) store.claims).get? id = _ :=
    Table.get?_foldl_mergeRow (fun _ _ => rfl) save.run.claimsDistinct
      store.claims id
  have same := merged.symm.trans found
  cases isBrought : save.run.claimRecords.find? (·.id = id) with
  | none =>
      rw [isBrought] at same
      exact .inl same
  | some brought =>
      rw [isBrought] at same
      cases same
      have member := List.mem_of_find?_eq_some isBrought
      have sameId : claim.id = id := by
        simpa using List.find?_some isBrought
      exact .inr ⟨⟨claim, member, sameId⟩, save.run.claimRun claim member⟩

/-- A version in the store after a run is the run's or was there before. -/
theorem version_after_save {save : SavedRun} {version : ReportVersionRecord}
    (member : version ∈ (saveProjection parsing save.now store
      save.run.toEnterpriseRunProjection).versions.values) :
    version = save.run.reportVersion ∨ version ∈ store.versions.values := by
  rw [Table.mem_values, versions_saveProjection, Table.get?_upsert] at member
  split at member
  · exact .inl (Option.some.inj member).symm
  · exact .inr (Table.mem_values.mpr member)

theorem allCiteOwnRun_step {save : SavedRun} {next : EnterpriseMemoryStore}
    (own : AllCiteOwnRun store) (apart : SharesNothing store save)
    (stepped : saveStep parsing store save = some next) :
    AllCiteOwnRun next := by
  cases stepped
  intro version member
  rcases version_after_save member with rfl | known
  · constructor
    · intro id listed record found
      rw [save.run.reportRun]
      rcases evidence_after_save found with before | ⟨-, ofRun⟩
      · exact apart.evidence id listed record before
      · exact ofRun (apart.evidence id listed)
    · intro id listed claim found
      rw [save.run.reportRun]
      rcases claim_after_save found with before | ⟨-, ofRun⟩
      · exact apart.claims id listed claim before
      · exact ofRun
  · constructor
    · intro id listed record found
      rcases evidence_after_save found with before | ⟨brought, ofRun⟩
      · exact (own version known).evidence id listed record before
      · obtain ⟨other, isBrought, rfl⟩ := brought
        have sameRun :=
          apart.citedEvidence other isBrought version known listed
        rw [sameRun]
        apply ofRun
        intro stored isStored
        rw [(own version known).evidence other.id listed stored isStored,
          sameRun]
    · intro id listed claim found
      rcases claim_after_save found with before | ⟨brought, ofRun⟩
      · exact (own version known).claims id listed claim before
      · obtain ⟨other, isBrought, rfl⟩ := brought
        rw [ofRun, apart.citedClaims other isBrought version known listed]

/-- In every history of runs that share nothing, the scope of every stored
version is complete. -/
theorem reportScope_complete_along {final : EnterpriseMemoryStore}
    {saves : List SavedRun}
    (apart : Along (saveStep parsing) SharesNothing { } saves)
    (run : exec (saveStep parsing) { } saves = some final) :
    ∀ version project, final.versions.get? version.id = some version →
      project.id = version.scope.projectId →
        final.ScopeComplete version project := by
  have own : AllCiteOwnRun final := by
    refine exec_invariant_along ?_ ?_ apart run
    · intro store save next own apart stepped
      exact allCiteOwnRun_step own apart stepped
    · intro version member
      cases member
  intro version project stored sameProject
  rw [scopeComplete_iff stored sameProject]
  exact .inr (own version (Table.mem_values.mpr stored))

end Runs

/-! ## Two runs that see one page -/

namespace ScopeExample

local instance scopeExampleRuntime : PyRuntime := asciiRuntime

def parsing : EvidenceParsing :=
  { sha256Hex := id
    hostname := fun _ => "acme.example"
    normalizeKey := id
    dedupeKeys := fun _ => []
    duplicateRows := fun _ _ => [] }

def page (runId evidenceId : String) : EvidenceRecord :=
  { id := evidenceId
    projectId := "project"
    runId := some runId
    lastSeenRunId := some runId
    rawSourceId := "raw-" ++ runId
    sourceType := "webpage" }

def claim (runId claimId evidenceId : String) : ClaimRecord :=
  { id := claimId
    projectId := "project"
    runId := some runId
    claimText := "Acme has a free plan."
    evidenceIds := [evidenceId]
    cited := List.cons_ne_nil _ _ }

def report (runId evidenceId claimId : String) (number : Nat) :
    ReportVersionRecord :=
  { id := "report-" ++ runId
    runId := some runId
    scope :=
      { projectId := "project"
        topicNormalized := "plans"
        competitorLayer := "L1"
        competitorSetHash := "hash" }
    versionNumber := number
    reportMd := ""
    createdAt := number
    evidenceIds := [evidenceId]
    claimIds := [claimId] }

/-- A run that sees one page and derives one claim from it. -/
def saved (runId evidenceId claimId : String) (number : Nat) : SavedRun :=
  { now := number
    run :=
      { projectId := "project"
        runId := runId
        evidenceRecords := [page runId evidenceId]
        claimRecords := [claim runId claimId evidenceId]
        reportVersion := report runId evidenceId claimId number
        evidenceRun := by
          intro record member
          rw [List.mem_singleton.mp member]
          rfl
        lastSeen := by
          intro record member
          rw [List.mem_singleton.mp member]
          rfl
        evidenceDistinct := List.nodup_singleton _
        claimRun := by
          intro record member
          rw [List.mem_singleton.mp member]
          rfl
        claimsDistinct := List.nodup_singleton _
        reportRun := rfl } }

def project : ProjectRecord :=
  { id := "project"
    workspaceId := "default-workspace" }

def apartRuns : List SavedRun :=
  [saved "run-1" "evidence-1" "claim-1" 1,
    saved "run-2" "evidence-2" "claim-2" 2]

def sharingRuns : List SavedRun :=
  [saved "run-1" "evidence-1" "claim-1" 1,
    saved "run-2" "evidence-1" "claim-1" 2]

def afterRuns (saves : List SavedRun) : EnterpriseMemoryStore :=
  (exec (saveStep parsing) { } saves).getD { }

theorem apartRuns_shareNothing :
    Along (saveStep parsing) SharesNothing { } apartRuns := by
  refine ⟨?_, ?_, trivial⟩
  · exact sharesNothing_of_new (by decide) (by decide) (by decide)
  · exact sharesNothing_of_new (by decide) (by decide) (by decide)

/-- Two runs with a page each keep their scopes. -/
theorem reportScope_complete_apart :
    (afterRuns apartRuns).ScopeComplete
        (report "run-1" "evidence-1" "claim-1" 1) project ∧
      (afterRuns apartRuns).ScopeComplete
        (report "run-2" "evidence-2" "claim-2" 2) project :=
  ⟨reportScope_complete_along apartRuns_shareNothing rfl _ _ rfl rfl,
    reportScope_complete_along apartRuns_shareNothing rfl _ _ rfl rfl⟩

/-- The second run sees the page again: its report loses the page, which
keeps the first run, and the first report its claim, which takes the second
run. -/
theorem reportScope_incomplete_shared :
    exec (saveStep parsing) { } sharingRuns = some (afterRuns sharingRuns) ∧
      (afterRuns sharingRuns).versions.get? "report-run-2" =
        some (report "run-2" "evidence-1" "claim-1" 2) ∧
      ((afterRuns sharingRuns).evidenceOf ["evidence-1"]).length = 1 ∧
      ((afterRuns sharingRuns).buildReportScope
        (report "run-2" "evidence-1" "claim-1" 2) project none).evidence =
          [] ∧
      (afterRuns sharingRuns).versions.get? "report-run-1" =
        some (report "run-1" "evidence-1" "claim-1" 1) ∧
      ((afterRuns sharingRuns).claimsOf ["claim-1"]).length = 1 ∧
      ((afterRuns sharingRuns).buildReportScope
        (report "run-1" "evidence-1" "claim-1" 1) project none).claims =
          [] ∧
      ¬ (afterRuns sharingRuns).ScopeComplete
        (report "run-2" "evidence-1" "claim-1" 2) project ∧
      ¬ (afterRuns sharingRuns).ScopeComplete
        (report "run-1" "evidence-1" "claim-1" 1) project := by
  have lostPage : ((afterRuns sharingRuns).buildReportScope
      (report "run-2" "evidence-1" "claim-1" 2) project none).evidence =
        [] := by
    decide
  have lostClaim : ((afterRuns sharingRuns).buildReportScope
      (report "run-1" "evidence-1" "claim-1" 1) project none).claims =
        [] := by
    decide
  refine ⟨rfl, rfl, by decide, lostPage, rfl, by decide, lostClaim, ?_, ?_⟩
  · rintro ⟨evidence, -⟩
    rw [lostPage] at evidence
    exact absurd evidence (by decide)
  · rintro ⟨-, claims⟩
    rw [lostClaim] at claims
    exact absurd claims (by decide)

end ScopeExample

end EnterpriseMemoryStore

end CompetiScope
