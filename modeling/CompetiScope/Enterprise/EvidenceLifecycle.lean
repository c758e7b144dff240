import Mathlib.Data.String.Basic
import CompetiScope.Foundation.Collections
import CompetiScope.Foundation.Table
import CompetiScope.Identity.StableIds
import CompetiScope.Schema.Enterprise

/-!
# Evidence seen again

A collected record is merged into the stored one, and every write of evidence
writes the registry entry of its source.  The in-memory store and the
Postgres store merge by rules of their own.
-/

namespace CompetiScope

open Foundation

/-- `first or second`. -/
def orText (first second : Option String) : Option String :=
  (first.filter (· ≠ "")).or second

@[simp] theorem orText_self (value : Option String) :
    orText value value = value := by
  unfold orText
  cases kept : value.filter (· ≠ "") with
  | none => exact Option.none_or
  | some text =>
      rw [(Option.filter_eq_some_iff.mp kept).1]
      exact Option.some_or

/-- The parts of the stores that are not modelled: the digest, the host and
the scheme of a URL, `str.title`, `normalize_key`, `_embedding_dedupe_keys`
and the rows the query for duplicates selects. -/
structure EvidenceParsing where
  sha256Hex : String → String
  hostname : String → String
  scheme : String → String := fun _ => "https"
  titleCase : String → String := id
  normalizeKey : String → String
  dedupeKeys : EvidenceRecord → List String
  duplicateRows : List EvidenceRecord → EvidenceRecord → List EvidenceRecord

/-! ## Sources of evidence -/

section Sources

variable [PyRuntime]

/-- `_source_trust_level`. -/
def sourceTrustLevel (evidence : EvidenceRecord) : SourceTrustLevel :=
  let sourceType := casefold evidence.sourceType
  if sourceType ∈ ["official", "official_site", "official_docs",
      "official_pricing", "official_api", "trust_center"] then .official
  else if sourceType ∈ ["webpage_verified", "verified_webpage",
      "verified_document"] then .verified
  else if sourceType ∈ ["survey_response", "interview_record",
      "manual_transcript", "manual_note", "manual"] ∧
        MetadataValue.truthy
          (evidence.metadata.get? "imported_user_research") then .verified
  else if sourceType ∈ ["synthetic", "synthesized", "survey_simulated",
      "survey_response", "interview_record", "manual_transcript",
      "manual_note"] then .synthetic
  else if evidence.url ≠ none ∨ evidence.canonicalUrl ≠ "" then .community
  else .unknown

/-- `_source_robots_status`. -/
def sourceRobotsStatus (evidence : EvidenceRecord) : SourceRobotsStatus :=
  let given :=
    casefold (MetadataValue.textOf (evidence.metadata.get? "robots_status"))
  if given = "allowed" then .allowed
  else if given = "blocked" then .blocked
  else if given = "error" then .error
  else if contains (casefold evidence.sourceType) "robots" ∧
      contains (casefold evidence.sourceType) "blocked" then .blocked
  else .unknown

def SourceRobotsStatus.value : SourceRobotsStatus → String
  | .unknown => "unknown"
  | .allowed => "allowed"
  | .blocked => "blocked"
  | .error => "error"

/-- The robots statuses that call for a review. -/
def SourceRobotsStatus.restricted : SourceRobotsStatus → Bool
  | .blocked => true
  | .error => true
  | .unknown => false
  | .allowed => false

/-- The text of the first of two metadata entries that is there. -/
def metadataEither (evidence : EvidenceRecord) (first second : String) :
    String :=
  let text := MetadataValue.textOf (evidence.metadata.get? first)
  if text ≠ "" then text
  else MetadataValue.textOf (evidence.metadata.get? second)

/-- `_source_policy_review_status`. -/
def sourcePolicyReviewStatus (evidence : EvidenceRecord) :
    SourcePolicyReviewStatus :=
  let given := casefold
    (metadataEither evidence "policy_review_status"
      "source_policy_review_status")
  if given = "not_required" then .notRequired
  else if given = "pending" then .pending
  else if given = "approved" then .approved
  else if given = "rejected" then .rejected
  else if (sourceRobotsStatus evidence).restricted then .pending
  else if MetadataValue.truthy
      (evidence.metadata.get? "source_policy_review_required") then .pending
  else .notRequired

def robotsReason (status : SourceRobotsStatus) : String :=
  "Robots/source policy status is " ++ status.value ++ "."

/-- `_source_policy_review_reason`. -/
def sourcePolicyReviewReason (evidence : EvidenceRecord) : String :=
  let given := metadataEither evidence "policy_review_reason"
    "source_policy_review_reason"
  if given ≠ "" then given
  else if (sourceRobotsStatus evidence).restricted then
    robotsReason (sourceRobotsStatus evidence)
  else if MetadataValue.truthy
      (evidence.metadata.get? "source_policy_review_required") then
    "Source policy requires human review."
  else ""

/-- The validator `queue_robots_policy_review`. -/
def queueRobotsPolicyReview (record : SourceRegistryRecord) :
    SourceRegistryRecord :=
  if record.policyReviewStatus = .notRequired ∧
      record.robotsStatus.restricted then
    { record with
      policyReviewStatus := .pending
      policyReviewReason :=
        if record.policyReviewReason ≠ "" then record.policyReviewReason
        else robotsReason record.robotsStatus }
  else record

/-- The URL `_source_location` parses. -/
def sourceUrl (evidence : EvidenceRecord) : String :=
  if evidence.canonicalUrl ≠ "" then evidence.canonicalUrl
  else evidence.url.getD ""

/-- The domain of `_source_location`. -/
def sourceDomain (parsing : EvidenceParsing) (evidence : EvidenceRecord) :
    String :=
  let host := parsing.hostname (sourceUrl evidence)
  if host = "" then
    parsing.normalizeKey
      (if evidence.sourceType = "" then "unknown" else evidence.sourceType)
  else
    let domain := host.toList.map Char.toLower
    String.ofList
      (if "www.".toList.isPrefixOf domain then domain.drop 4 else domain)

/-- The homepage of `_source_location`. -/
def sourceHomepage (parsing : EvidenceParsing) (evidence : EvidenceRecord) :
    Option String :=
  if parsing.hostname (sourceUrl evidence) = "" then none
  else
    let scheme := parsing.scheme (sourceUrl evidence)
    some
      ((if scheme ∈ ["http", "https"] then scheme else "https") ++ "://" ++
        sourceDomain parsing evidence)

/-- `_title_from_id`. -/
def titleFromId (parsing : EvidenceParsing) (value : String) : String :=
  let title := parsing.titleCase
    (strip (String.ofList
      (value.toList.map fun char => if char = '-' then ' ' else char)))
  if title = "" then value else title

/-- `source_registry_from_evidence`. -/
def sourceRegistryFromEvidence (parsing : EvidenceParsing)
    (evidence : EvidenceRecord) : SourceRegistryRecord :=
  let domain := sourceDomain parsing evidence
  let sourceType :=
    if evidence.sourceType = "" then "unknown" else evidence.sourceType
  queueRobotsPolicyReview
    { id := stablePrefixedId parsing.sha256Hex "source-registry"
        [.text evidence.workspaceId, .text (parsing.normalizeKey domain),
          .text (parsing.normalizeKey sourceType)] 16
      workspaceId := evidence.workspaceId
      domain := domain
      sourceType := sourceType
      displayName := titleFromId parsing domain
      homepageUrl := sourceHomepage parsing evidence
      trustLevel := sourceTrustLevel evidence
      robotsStatus := sourceRobotsStatus evidence
      policyReviewStatus := sourcePolicyReviewStatus evidence
      policyReviewReason := sourcePolicyReviewReason evidence
      firstSeenRunId := orText evidence.firstSeenRunId evidence.runId
      lastSeenRunId := orText evidence.lastSeenRunId evidence.runId
      firstSeenAt := evidence.capturedAt
      lastSeenAt := evidence.capturedAt
      seenCount := max 1 evidence.seenCount
      metadata :=
        (((∅ : Dict String MetadataValue).set "last_evidence_id"
          (.text evidence.id)).set "last_project_id"
            (.text evidence.projectId)).set "last_dimension"
              (.text evidence.dimension) }

end Sources

/-! ## Merging -/

/-- `merge_evidence_source_metadata`. -/
def mergeEvidenceSourceMetadata (existing : Option EvidenceRecord)
    (incoming : EvidenceRecord) : Dict String MetadataValue :=
  let stored := (existing.map (·.metadata)).getD ∅
  let aliases :=
    (match existing with
    | none => []
    | some record =>
        stringList (record.metadata.get? "raw_source_aliases") ++
          [record.rawSourceId]) ++
      stringList (incoming.metadata.get? "raw_source_aliases") ++
      [incoming.rawSourceId]
  (stored.update incoming.metadata).set "raw_source_aliases"
    (.texts (orderedUnique ((aliases.map strip).filter (· ≠ ""))))

/-- `_merge_evidence_lifecycle`. -/
def mergeEvidenceLifecycle (existing : Option EvidenceRecord)
    (incoming : EvidenceRecord) : EvidenceRecord :=
  let currentRunId := orText incoming.lastSeenRunId incoming.runId
  let metadata := mergeEvidenceSourceMetadata existing incoming
  match existing with
  | none =>
      { incoming with
        firstSeenRunId := orText incoming.firstSeenRunId incoming.runId
        lastSeenRunId := currentRunId
        seenCount := max 1 incoming.seenCount
        metadata := metadata }
  | some record =>
      let increment :=
        if currentRunId.filter (· ≠ "") ≠ none ∧
            currentRunId ≠ record.lastSeenRunId then 1
        else 0
      { incoming with
        runId := orText record.runId incoming.runId
        firstSeenRunId := orText record.firstSeenRunId
          (orText record.runId
            (orText incoming.firstSeenRunId incoming.runId))
        lastSeenRunId := orText currentRunId record.lastSeenRunId
        seenCount := max 1 (record.seenCount + increment)
        metadata := metadata }

@[simp] theorem mergeEvidenceLifecycle_id (existing : Option EvidenceRecord)
    (incoming : EvidenceRecord) :
    (mergeEvidenceLifecycle existing incoming).id = incoming.id := by
  cases existing with
  | none => rfl
  | some record => rfl

/-- `_upsert_evidence` of the Postgres store. -/
def postgresEvidence (existing : Option EvidenceRecord)
    (incoming : EvidenceRecord) : EvidenceRecord :=
  match existing with
  | none =>
      { incoming with
        firstSeenRunId := orText incoming.firstSeenRunId incoming.runId
        lastSeenRunId := orText incoming.lastSeenRunId incoming.runId }
  | some record =>
      let lastSeenRunId := orText incoming.lastSeenRunId incoming.runId
      let aliases (evidence : EvidenceRecord) : List String :=
        match evidence.metadata.get? "raw_source_aliases" with
        | some (.texts values) => values
        | _ => []
      { record with
        reliabilityScore := incoming.reliabilityScore
        freshnessScore := incoming.freshnessScore
        qualityLabel := incoming.qualityLabel
        lastSeenRunId := lastSeenRunId
        seenCount :=
          if record.lastSeenRunId ≠ lastSeenRunId then record.seenCount + 1
          else record.seenCount
        metadata :=
          (record.metadata.update incoming.metadata).set "raw_source_aliases"
            (.texts (sortedSet
              ((aliases record ++ aliases incoming ++
                [record.rawSourceId, incoming.rawSourceId]).filter
                  (· ≠ "")))) }

/-- The rank of `_stronger_trust_level`. -/
def SourceTrustLevel.rank : SourceTrustLevel → Nat
  | .unknown => 0
  | .synthetic => 1
  | .community => 2
  | .verified => 3
  | .official => 4

def strongerTrustLevel (left right : SourceTrustLevel) : SourceTrustLevel :=
  if right.rank ≤ left.rank then left else right

/-- `_merge_source_registry` of an entry that exists. -/
def mergeSourceRegistry (existing incoming : SourceRegistryRecord) :
    SourceRegistryRecord :=
  let runIncrement :=
    if incoming.lastSeenRunId.filter (· ≠ "") ≠ none ∧
        incoming.lastSeenRunId ≠ existing.lastSeenRunId then 1
    else 0
  { incoming with
    id := existing.id
    trustLevel := strongerTrustLevel existing.trustLevel incoming.trustLevel
    robotsStatus :=
      if incoming.robotsStatus ≠ .unknown then incoming.robotsStatus
      else existing.robotsStatus
    policyReviewStatus :=
      if incoming.policyReviewStatus ≠ .notRequired then
        incoming.policyReviewStatus
      else existing.policyReviewStatus
    policyReviewReason :=
      if incoming.policyReviewReason ≠ "" then incoming.policyReviewReason
      else existing.policyReviewReason
    isActive := existing.isActive
    firstSeenRunId := orText existing.firstSeenRunId incoming.firstSeenRunId
    firstSeenAt := min existing.firstSeenAt incoming.firstSeenAt
    lastSeenAt := max existing.lastSeenAt incoming.lastSeenAt
    seenCount := max (existing.seenCount + runIncrement) incoming.seenCount
    metadata := existing.metadata.update incoming.metadata }

/-- `_upsert_source_registry` of the Postgres store, on conflict. -/
def postgresSourceRegistry (existing incoming : SourceRegistryRecord) :
    SourceRegistryRecord :=
  { existing with
    displayName := incoming.displayName
    homepageUrl := incoming.homepageUrl.or existing.homepageUrl
    trustLevel := strongerTrustLevel existing.trustLevel incoming.trustLevel
    robotsStatus :=
      if incoming.robotsStatus ≠ .unknown then incoming.robotsStatus
      else existing.robotsStatus
    policyReviewStatus :=
      if incoming.policyReviewStatus ≠ .notRequired then
        incoming.policyReviewStatus
      else existing.policyReviewStatus
    policyReviewReason :=
      if incoming.policyReviewReason ≠ "" then incoming.policyReviewReason
      else existing.policyReviewReason
    firstSeenRunId := existing.firstSeenRunId.or incoming.firstSeenRunId
    lastSeenRunId := incoming.lastSeenRunId.or existing.lastSeenRunId
    firstSeenAt := min existing.firstSeenAt incoming.firstSeenAt
    lastSeenAt := max existing.lastSeenAt incoming.lastSeenAt
    seenCount :=
      if incoming.lastSeenRunId ≠ none ∧
          existing.lastSeenRunId ≠ incoming.lastSeenRunId then
        max (existing.seenCount + 1) incoming.seenCount
      else max existing.seenCount incoming.seenCount
    metadata := existing.metadata.update incoming.metadata }

/-! ## The two stores -/

inductive StoreBackend where
  | memory
  | postgres
  deriving DecidableEq

structure EvidenceStore where
  evidence : Table String EvidenceRecord (·.id) := ∅
  registry : Table String SourceRegistryRecord (·.id) := ∅

namespace EvidenceStore

/-- The registry entry a record is merged into. -/
def registryTarget (store : EvidenceStore) (backend : StoreBackend)
    (incoming : SourceRegistryRecord) : Option SourceRegistryRecord :=
  let byNaturalKey := store.registry.values.find? fun item =>
    item.workspaceId = incoming.workspaceId &&
      item.domain = incoming.domain &&
      item.sourceType = incoming.sourceType
  match backend with
  | .memory => byNaturalKey.or (store.registry.get? incoming.id)
  | .postgres => byNaturalKey

/-- `upsert_source_registry`.  In Postgres an id that belongs to another
source violates the primary key. -/
def upsertSourceRegistry (store : EvidenceStore) (backend : StoreBackend)
    (incoming : SourceRegistryRecord) : Option EvidenceStore :=
  match store.registryTarget backend incoming, backend with
  | some existing, .memory =>
      some
        { store with
          registry :=
            store.registry.upsert (mergeSourceRegistry existing incoming) }
  | some existing, .postgres =>
      some
        { store with
          registry :=
            store.registry.upsert (postgresSourceRegistry existing incoming) }
  | none, .memory =>
      some { store with registry := store.registry.upsert incoming }
  | none, .postgres =>
      if store.registry.get? incoming.id = none then
        some { store with registry := store.registry.upsert incoming }
      else none

/-- The earlier of two records by capture and id, the first on a tie. -/
def earlier (first second : EvidenceRecord) : EvidenceRecord :=
  if second.capturedAt < first.capturedAt ∨
      second.capturedAt = first.capturedAt ∧ second.id < first.id then second
  else first

/-- `_find_embedding_duplicate` among the candidates: the record to keep and
the key it shares. -/
def findEmbeddingDuplicate (parsing : EvidenceParsing)
    (candidates : List EvidenceRecord) (evidence : EvidenceRecord) :
    Option (EvidenceRecord × String) :=
  match candidates with
  | [] => none
  | first :: others =>
      let canonical := (others ++ [evidence]).foldl earlier first
      let shared := sortedSet ((parsing.dedupeKeys canonical).filter
        (· ∈ parsing.dedupeKeys evidence))
      if canonical.id = evidence.id then none
      else shared.head?.map fun key => (canonical, key)

/-- The candidates of each store. -/
def duplicateCandidates (store : EvidenceStore) (parsing : EvidenceParsing)
    (backend : StoreBackend) (evidence : EvidenceRecord) :
    List EvidenceRecord :=
  if parsing.dedupeKeys evidence = [] then []
  else
    match backend with
    | .memory => store.evidence.values.filter fun item =>
        (parsing.dedupeKeys item).any (· ∈ parsing.dedupeKeys evidence)
    | .postgres => parsing.duplicateRows store.evidence.values evidence

/-- The metadata of `_apply_embedding_dedupe`. -/
def dedupedMetadata (metadata : Dict String MetadataValue) :
    Option (EvidenceRecord × String) → Dict String MetadataValue
  | none =>
      (((metadata.erase "embedding_duplicate_of").erase
        "embedding_dedupe_key").erase "embedding_dedupe_strategy").set
          "embedding_indexed" (.flag true)
  | some (canonical, key) =>
      (((metadata.set "embedding_duplicate_of" (.text canonical.id)).set
        "embedding_dedupe_key" (.text key)).set
          "embedding_dedupe_strategy"
          (.text
            (if "canonical_url|".toList.isPrefixOf key.toList then
              "canonical_url"
            else "content_hash"))).set
            "embedding_indexed" (.flag false)

/-- `_record_embedding_duplicate_locked`, on the canonical record. -/
def withEmbeddingDuplicate (canonical : EvidenceRecord)
    (duplicateId : String) : EvidenceRecord :=
  let known :=
    match canonical.metadata.get? "embedding_duplicate_ids" with
    | some (.texts values) => values.filter (· ≠ duplicateId)
    | _ => []
  let duplicateIds := known ++ [duplicateId]
  { canonical with
    metadata :=
      (canonical.metadata.set "embedding_duplicate_ids"
        (.texts (duplicateIds.insertionSort (· ≤ ·)))).set
          "embedding_duplicate_count" (.number duplicateIds.length) }

/-- The evidence table with the canonical record marked. -/
def markCanonical (store : EvidenceStore)
    (duplicate : Option (EvidenceRecord × String)) (duplicateId : String) :
    Table String EvidenceRecord (·.id) :=
  match duplicate.bind fun found => store.evidence.get? found.1.id with
  | none => store.evidence
  | some canonical =>
      store.evidence.upsert (withEmbeddingDuplicate canonical duplicateId)

/-- The evidence table after a write, and the record the registry entry of
the source is built from. -/
structure EvidenceWrite where
  evidence : Table String EvidenceRecord (·.id)
  observed : EvidenceRecord

/-- One record of `save_projection`. -/
def observeEvidence (store : EvidenceStore) (backend : StoreBackend)
    (incoming : EvidenceRecord) : EvidenceWrite :=
  let existing := store.evidence.get? incoming.id
  match backend with
  | .memory =>
      let merged := mergeEvidenceLifecycle existing incoming
      { evidence := store.evidence.upsert merged
        observed := merged }
  | .postgres =>
      { evidence := store.evidence.upsert (postgresEvidence existing incoming)
        observed := incoming }

/-- `upsert_evidence`, and one record of `upsert_evidence_batch`. -/
def upsertEvidence (store : EvidenceStore) (parsing : EvidenceParsing)
    (backend : StoreBackend) (incoming : EvidenceRecord) : EvidenceWrite :=
  let existing := store.evidence.get? incoming.id
  match backend with
  | .memory =>
      let merged := mergeEvidenceLifecycle existing incoming
      let duplicate := findEmbeddingDuplicate parsing
        (store.duplicateCandidates parsing .memory merged) merged
      let deduped :=
        { merged with metadata := dedupedMetadata merged.metadata duplicate }
      { evidence := (store.markCanonical duplicate merged.id).upsert deduped
        observed := deduped }
  | .postgres =>
      let duplicate := findEmbeddingDuplicate parsing
        (store.duplicateCandidates parsing .postgres incoming) incoming
      let deduped :=
        { incoming with
          metadata := dedupedMetadata incoming.metadata duplicate }
      { evidence := store.evidence.upsert (postgresEvidence existing deduped)
        observed := deduped }

/-- `update_evidence_quality` at the time `now`. -/
def updateEvidenceQuality (store : EvidenceStore) (evidenceId : String)
    (qualityLabel : EvidenceQualityLabel) (note : String) (now : Nat) :
    Option (Table String EvidenceRecord (·.id)) :=
  (store.evidence.get? evidenceId).map fun evidence =>
    store.evidence.upsert
      { evidence with
        qualityLabel := qualityLabel
        metadata :=
          (evidence.metadata.set "quality_note" (.text note)).set
            "quality_reviewed_at" (.number now) }

end EvidenceStore

/-- The writes of evidence and of its sources. -/
inductive EvidenceAction where
  | observe (incoming : EvidenceRecord)
  | upsert (incoming : EvidenceRecord)
  /-- The registry write of `capture_source_snapshot`. -/
  | captureSource (incoming : SourceRegistryRecord)
  | reviewEvidence (evidenceId : String)
      (qualityLabel : EvidenceQualityLabel) (note : String) (now : Nat)
  /-- The registry write of a reviewer. -/
  | reviewSource (incoming : SourceRegistryRecord)

section

variable [PyRuntime]

/-- The registry entry a write brings. -/
def incomingSource (parsing : EvidenceParsing) (backend : StoreBackend)
    (store : EvidenceStore) : EvidenceAction → Option SourceRegistryRecord
  | .observe incoming =>
      some (sourceRegistryFromEvidence parsing
        (store.observeEvidence backend incoming).observed)
  | .upsert incoming =>
      some (sourceRegistryFromEvidence parsing
        (store.upsertEvidence parsing backend incoming).observed)
  | .captureSource incoming => some incoming
  | .reviewEvidence _ _ _ _ => none
  | .reviewSource incoming => some incoming

/-- The evidence table after an action. -/
def nextEvidence (parsing : EvidenceParsing) (backend : StoreBackend)
    (store : EvidenceStore) :
    EvidenceAction → Option (Table String EvidenceRecord (·.id))
  | .observe incoming =>
      some (store.observeEvidence backend incoming).evidence
  | .upsert incoming =>
      some (store.upsertEvidence parsing backend incoming).evidence
  | .captureSource _ => some store.evidence
  | .reviewEvidence evidenceId qualityLabel note now =>
      store.updateEvidenceQuality evidenceId qualityLabel note now
  | .reviewSource _ => some store.evidence

/-- An action writes the evidence, then the entry it brings. -/
def evidenceStep (parsing : EvidenceParsing) (backend : StoreBackend)
    (store : EvidenceStore) (action : EvidenceAction) :
    Option EvidenceStore :=
  match nextEvidence parsing backend store action,
      incomingSource parsing backend store action with
  | none, _ => none
  | some evidence, none => some { store with evidence := evidence }
  | some evidence, some incoming =>
      { store with evidence := evidence }.upsertSourceRegistry backend
        incoming

end

end CompetiScope
