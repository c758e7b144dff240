import CompetiScope.Enterprise.EvidenceLifecycle
import CompetiScope.Enterprise.ReportLifecycle

/-!
# The in-memory enterprise store

Projects with their competitors, evidence with the registry of its sources
and the embedding index, claims and report versions.  A projection of a run is
saved record by record; what a run left in the store is read back as a
projection.
-/

namespace CompetiScope

open Foundation

/-- `EnterpriseRunProjection`. -/
structure EnterpriseRunProjection where
  workspaceId : String := "default-workspace"
  projectId : String
  runId : String
  evidenceRecords : List EvidenceRecord := []
  claimRecords : List ClaimRecord := []
  reportVersion : ReportVersionRecord

/-- A projection as `build_enterprise_projection` builds it: its records are
of its run and no id occurs twice. -/
structure ProjectedRun extends EnterpriseRunProjection where
  evidenceRun : ∀ record ∈ evidenceRecords, record.runId = some runId
  lastSeen : ∀ record ∈ evidenceRecords, record.lastSeenRunId = some runId
  evidenceDistinct : (evidenceRecords.map (·.id)).Nodup
  claimRun : ∀ claim ∈ claimRecords, claim.runId = some runId
  claimsDistinct : (claimRecords.map (·.id)).Nodup
  reportRun : reportVersion.runId = some runId

/-- `EnterpriseMemoryStore`. -/
structure EnterpriseMemoryStore where
  projects : Table String ProjectRecord (·.id) := ∅
  competitors : Table String CompetitorRecord (·.id) := ∅
  projectCompetitors :
    Table (String × String) ProjectCompetitorLink
      (fun link => (link.projectId, link.competitorId)) := ∅
  sources : EvidenceStore := { }
  embeddings : Table String EvidenceEmbeddingRecord (·.id) := ∅
  claims : Table String ClaimRecord (·.id) := ∅
  versions : Table String ReportVersionRecord (·.id) := ∅

/-! ## Sources -/

namespace EvidenceStore

/-- The entry `_upsert_source_registry_locked` writes. -/
def registeredSource (store : EvidenceStore)
    (incoming : SourceRegistryRecord) : SourceRegistryRecord :=
  match store.registryTarget .memory incoming with
  | some existing => mergeSourceRegistry existing incoming
  | none => incoming

/-- `_upsert_source_registry_locked`. -/
def registerSource (store : EvidenceStore)
    (incoming : SourceRegistryRecord) : EvidenceStore :=
  { store with
    registry := store.registry.upsert (store.registeredSource incoming) }

end EvidenceStore

/-! ## The embedding index -/

/-- `evidence_embedding_text`. -/
def evidenceEmbeddingText (evidence : EvidenceRecord) : String :=
  String.intercalate " "
    (([evidence.title, evidence.snippet, evidence.dimension,
      evidence.sourceType, evidence.canonicalUrl].map strip).filter (· ≠ ""))

/-- The id `build_evidence_embedding_record` gives. -/
def embeddingId (parsing : EvidenceParsing) (evidenceId : String) : String :=
  stablePrefixedId parsing.sha256Hex "embedding" [.text evidenceId] 24

section

variable [PyRuntime] (parsing : EvidenceParsing) (now : Nat)

/-- `build_evidence_embedding_record`. -/
def buildEvidenceEmbeddingRecord (evidence : EvidenceRecord) :
    EvidenceEmbeddingRecord :=
  { id := embeddingId parsing evidence.id
    workspaceId := evidence.workspaceId
    projectId := evidence.projectId
    evidenceId := evidence.id
    embeddingModel := "hashing-384"
    embeddingDimensions := 384
    embeddingHash :=
      parsing.sha256Hex (strip (casefold (evidenceEmbeddingText evidence)))
    embeddingText := evidenceEmbeddingText evidence
    createdAt := now }

/-- A new entry keeps the creation time of the one it replaces. -/
def keptCreation (existing : Option EvidenceEmbeddingRecord)
    (incoming : EvidenceEmbeddingRecord) : EvidenceEmbeddingRecord :=
  match existing with
  | none => incoming
  | some record => { incoming with createdAt := record.createdAt }

/-- `_upsert_evidence_embedding_locked`. -/
def upsertEvidenceEmbedding
    (embeddings : Table String EvidenceEmbeddingRecord (·.id))
    (evidence : EvidenceRecord) :
    Table String EvidenceEmbeddingRecord (·.id) :=
  embeddings.mergeRow keptCreation
    (buildEvidenceEmbeddingRecord parsing now evidence)

/-- `_delete_evidence_embedding_locked`. -/
def deleteEvidenceEmbedding
    (embeddings : Table String EvidenceEmbeddingRecord (·.id))
    (evidenceId : String) : Table String EvidenceEmbeddingRecord (·.id) :=
  embeddings.filter fun record => record.evidenceId ≠ evidenceId

namespace EnterpriseMemoryStore

variable (store : EnterpriseMemoryStore)

/-! ## Saving a projection -/

/-- One record of `save_projection`. -/
def saveEvidence (incoming : EvidenceRecord) : EnterpriseMemoryStore :=
  let merged :=
    mergeEvidenceLifecycle (store.sources.evidence.get? incoming.id) incoming
  { store with
    sources :=
      { store.sources with
        evidence := store.sources.evidence.upsert merged }.registerSource
          (sourceRegistryFromEvidence parsing merged)
    embeddings := upsertEvidenceEmbedding parsing now store.embeddings merged }

/-- `save_projection`; the evidence goes first. -/
def saveProjection (projection : EnterpriseRunProjection) :
    EnterpriseMemoryStore :=
  let observed := projection.evidenceRecords.foldl
    (saveEvidence parsing now) store
  { observed with
    claims :=
      projection.claimRecords.foldl (fun claims claim => claims.upsert claim)
        observed.claims
    versions := observed.versions.upsert projection.reportVersion }

/-! ## What a projection leaves in the store -/

variable {store}

theorem foldl_saveEvidence (records : List EvidenceRecord) :
    ∀ start : EnterpriseMemoryStore,
      (records.foldl (saveEvidence parsing now) start).sources.evidence =
          records.foldl (Table.mergeRow mergeEvidenceLifecycle)
            start.sources.evidence ∧
        (records.foldl (saveEvidence parsing now) start).claims =
          start.claims ∧
        (records.foldl (saveEvidence parsing now) start).versions =
          start.versions := by
  induction records with
  | nil => exact fun start => ⟨rfl, rfl, rfl⟩
  | cons record records induction =>
      exact fun start => induction (saveEvidence parsing now start record)

variable {parsing now}

theorem evidence_saveProjection (projection : EnterpriseRunProjection) :
    (saveProjection parsing now store projection).sources.evidence =
      projection.evidenceRecords.foldl (Table.mergeRow mergeEvidenceLifecycle)
        store.sources.evidence :=
  (foldl_saveEvidence parsing now projection.evidenceRecords store).1

theorem claims_saveProjection (projection : EnterpriseRunProjection) :
    (saveProjection parsing now store projection).claims =
      projection.claimRecords.foldl (fun claims claim => claims.upsert claim)
        store.claims := by
  have same := (foldl_saveEvidence parsing now projection.evidenceRecords
    store).2.1
  rw [saveProjection]
  simp only [same]

theorem versions_saveProjection (projection : EnterpriseRunProjection) :
    (saveProjection parsing now store projection).versions =
      store.versions.upsert projection.reportVersion := by
  have same := (foldl_saveEvidence parsing now projection.evidenceRecords
    store).2.2
  rw [saveProjection]
  simp only [same]

end EnterpriseMemoryStore

end

/-! ## Reading -/

/-- The later of two versions by number and creation, the first on a tie. -/
def laterVersion (first second : ReportVersionRecord) : ReportVersionRecord :=
  if first.versionNumber < second.versionNumber ∨
      first.versionNumber = second.versionNumber ∧
        first.createdAt < second.createdAt then second
  else first

def latestVersion : List ReportVersionRecord → Option ReportVersionRecord
  | [] => none
  | version :: versions => some (versions.foldl laterVersion version)

theorem latestVersion_mem {versions : List ReportVersionRecord}
    {version : ReportVersionRecord}
    (latest : latestVersion versions = some version) :
    version ∈ versions := by
  cases versions with
  | nil => cases latest
  | cons first rest =>
      rw [latestVersion, Option.some.injEq] at latest
      rw [← latest]
      apply foldl_mem_of_choice
      intro first second
      unfold laterVersion
      split
      · exact .inr rfl
      · exact .inl rfl

namespace EnterpriseMemoryStore

variable (store : EnterpriseMemoryStore)

/-- `list_evidence` of a project: its records and those its versions cite. -/
def listEvidence (projectId : String) : List EvidenceRecord :=
  let linkedIds :=
    (store.versions.values.filter (·.scope.projectId = projectId)).flatMap
      (·.evidenceIds)
  (store.sources.evidence.values.filter fun item =>
    item.projectId = projectId || item.id ∈ linkedIds).insertionSort
      fun first second => second.capturedAt ≤ first.capturedAt

/-- `list_claims` of a project. -/
def listClaims (projectId : String) : List ClaimRecord :=
  let linkedIds :=
    (store.versions.values.filter (·.scope.projectId = projectId)).flatMap
      (·.claimIds)
  (store.claims.values.filter fun item =>
    item.projectId = projectId || item.id ∈ linkedIds).insertionSort
      fun first second => second.createdAt ≤ first.createdAt

/-- The stored records of some ids, in the order of the ids. -/
def evidenceOf (ids : List String) : List EvidenceRecord :=
  ids.filterMap store.sources.evidence.get?

def claimsOf (ids : List String) : List ClaimRecord :=
  ids.filterMap store.claims.get?

/-- `get_run_projection`. -/
def getRunProjection (runId : String) : Option EnterpriseRunProjection :=
  (latestVersion
    (store.versions.values.filter (·.runId = some runId))).map fun version =>
      { workspaceId := version.workspaceId
        projectId := version.scope.projectId
        runId := runId
        evidenceRecords := store.evidenceOf version.evidenceIds
        claimRecords := store.claimsOf version.claimIds
        reportVersion := version }

end EnterpriseMemoryStore

end CompetiScope
