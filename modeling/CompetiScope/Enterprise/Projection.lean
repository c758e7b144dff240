import CompetiScope.Enterprise.MemoryStore
import CompetiScope.Enterprise.ReportOperations
import CompetiScope.Schema.Run

/-!
# Projecting a run into enterprise records

Every raw source becomes one evidence record for each competitor it covers;
the id of a record is computed from its content, and of several records with
one id the first stays.  A claim cites the records of its sources, only the
releasable ones when there are any.
-/

namespace CompetiScope

open Foundation

/-- A value of a source's metadata as the records keep it: of a list its
texts, of a float and an object whether they are true. -/
def MetadataValue.ofJson : Json → MetadataValue
  | .null => .none
  | .bool value => .flag value
  | .int value => .number value.natAbs
  | .float value => .flag (value != 0)
  | .str value => .text value
  | .arr items => .texts (items.filterMap fun
      | .str value => some value
      | _ => Option.none)
  | .obj fields => .flag (!fields.isEmpty)

/-- What `merge_source_aliases` reads of an entry. -/
def MetadataValue.aliases : Option MetadataValue → List String
  | some (.text value) => [value]
  | some (.texts values) => values
  | some (.flag value) => [if value then "True" else "False"]
  | some (.number value) => [toString value]
  | _ => []

/-- The digest and the normalisations of `stable_ids.py`, the exact value of a
float and the ids the competitors have in the store, if any. -/
structure ProjectionSettings where
  sha256Hex : String → String
  normalizeUrl : String → String
  normalizeText : String → String
  normalizeDimensionKey : String → String
  normalizeCompetitorKey : String → String
  floatValue : Float → Rat
  competitorIdMap : Option (Dict String String) := none

section Records

variable (settings : ProjectionSettings)

/-- `compute_evidence_id`. -/
def computeEvidenceId (canonicalUrl contentHash competitorId dimension :
    String) : String :=
  settings.sha256Hex
    (String.intercalate "|"
      [settings.normalizeUrl canonicalUrl, contentHash, competitorId,
        settings.normalizeDimensionKey dimension])

/-- `compute_claim_id`. -/
def computeClaimId (evidenceId claimText claimType : String) : String :=
  settings.sha256Hex
    (String.intercalate "|"
      [evidenceId, settings.normalizeText claimText,
        settings.normalizeDimensionKey claimType])

/-- `_competitor_id_for`. -/
def competitorIdFor (value : String) : String :=
  let key := settings.normalizeCompetitorKey value
  match settings.competitorIdMap with
  | none => key
  | some known =>
      ((orText (known.get? value) (known.get? key)).filter (· ≠ "")).getD key

/-- `_source_competitors`. -/
def sourceCompetitors (source : RawSource) : List String :=
  distinctBy settings.normalizeCompetitorKey
    ((if source.coveredCompetitors = [] then [source.competitor]
    else source.coveredCompetitors).filter fun competitor =>
      settings.normalizeCompetitorKey competitor ≠ "")

/-- `raw_source_alias_metadata`. -/
def rawSourceAliasMetadata (rawSourceId : String)
    (metadata : Dict String MetadataValue) : Dict String MetadataValue :=
  (metadata.set "run_raw_source_id" (.text rawSourceId)).set
    "raw_source_aliases"
    (.texts
      (orderedUnique
        (((MetadataValue.aliases (metadata.get? "raw_source_aliases") ++
          [rawSourceId]).map strip).filter (· ≠ ""))))

/-- The record of a source for a competitor it covers. -/
def evidenceRecord (detail : RunDetail) (workspaceId projectId : String)
    (source : RawSource) (competitor : String) : EvidenceRecord :=
  let competitorId := competitorIdFor settings competitor
  let canonicalUrl := settings.normalizeUrl (source.url.getD "")
  { id := computeEvidenceId settings canonicalUrl source.contentHash
      competitorId source.dimension
    workspaceId := workspaceId
    projectId := projectId
    runId := some detail.id
    rawSourceId := source.id
    competitorId := competitorId
    dimension := settings.normalizeDimensionKey source.dimension
    sourceType := source.sourceType
    title := source.title
    url := source.url
    canonicalUrl := canonicalUrl
    snippet := source.snippet
    contentHash := source.contentHash
    reliabilityScore := settings.floatValue source.confidence
    freshnessScore := 1
    qualityLabel :=
      if source.sourceType = "webpage_verified" then .accepted
      else .unreviewed
    firstSeenRunId := some detail.id
    lastSeenRunId := some detail.id
    capturedAt := source.extractedAt
    metadata := rawSourceAliasMetadata source.id
      (source.metadata.mapValues fun _ => .ofJson) }

/-- The records of all sources, in their order. -/
def sourceRecords (detail : RunDetail) (workspaceId projectId : String) :
    List EvidenceRecord :=
  detail.rawSources.flatMap fun source =>
    (sourceCompetitors settings source).map
      (evidenceRecord settings detail workspaceId projectId source)

/-- `_build_evidence_records`. -/
def buildEvidenceRecords (detail : RunDetail)
    (workspaceId projectId : String) : List EvidenceRecord :=
  distinctBy (·.id) (sourceRecords settings detail workspaceId projectId)

/-! ## Claims -/

/-- `_index_evidence_by_source`, as the list of its entries. -/
def indexEvidenceBySource (records : List EvidenceRecord) :
    List ((String × String) × EvidenceRecord) :=
  records.flatMap fun record =>
    [((record.rawSourceId, record.competitorId), record),
      ((record.rawSourceId, "*"), record)]

/-- The records the index has under a source, those of the competitor when
there are any. -/
def evidenceOfSource (index : List ((String × String) × EvidenceRecord))
    (competitorId sourceId : String) : List EvidenceRecord :=
  let under (competitor : String) : List EvidenceRecord :=
    (index.filter (·.1 = (sourceId, competitor))).map (·.2)
  if under competitorId = [] then under "*" else under competitorId

/-- `_evidence_for_claim`. -/
def evidenceForClaim (index : List ((String × String) × EvidenceRecord))
    (competitorId : String) (claim : KnowledgeClaim) : List EvidenceRecord :=
  distinctBy (·.id)
    (claim.sourceIds.flatMap (evidenceOfSource index competitorId))

/-- `_is_release_claim_evidence`. -/
def isReleaseClaimEvidence (evidence : EvidenceRecord) : Bool :=
  let trusted := (3 / 4 : Rat) ≤ evidence.reliabilityScore ∧
    evidence.qualityLabel ∉ [.rejected, .stale]
  evidence.sourceType = "webpage_verified" ∧ trusted ∨
    evidence.sourceType ∈ ["survey_response", "interview_record",
      "manual_transcript", "manual_note", "manual"] ∧
        MetadataValue.truthy
          (evidence.metadata.get? "imported_user_research") ∧ trusted

/-- The evidence ids of a claim: the releasable ones or else all. -/
def claimEvidenceIds (candidates : List EvidenceRecord) : List String :=
  let releasable := (candidates.filter isReleaseClaimEvidence).map (·.id)
  if releasable ≠ [] then releasable else candidates.map (·.id)

variable [PyRuntime]

/-- `_claims_for_dimension`. -/
def claimsForDimension (knowledge : CompetitorKnowledge)
    (dimension : String) : List KnowledgeClaim :=
  let key := casefold dimension
  if contains key "pricing" then
    knowledge.pricingModel.notes ++
      knowledge.pricingModel.tiers.flatMap (·.claims)
  else if contains key "persona" || contains key "user" then
    knowledge.userPersonas.summaryClaims ++
      knowledge.userPersonas.segments.flatMap (·.claims)
  else
    knowledge.featureTree.summaryClaims ++
      knowledge.featureTree.nodes.flatMap (·.claims)

/-- A knowledge claim with the competitor and the dimension it is made of. -/
structure ClaimEntry where
  competitor : String
  dimension : String
  claim : KnowledgeClaim

/-- The knowledge claims of a run, in the order they are projected. -/
def claimEntries (detail : RunDetail) : List ClaimEntry :=
  detail.competitorKnowledge.entries.flatMap fun known =>
    detail.plan.dimensions.flatMap fun dimension =>
      (claimsForDimension known.2 dimension).map fun claim =>
        { competitor := known.1
          dimension := dimension
          claim := claim }

end Records

section Claims

variable (settings : ProjectionSettings)

/-- The evidence records a knowledge claim is traced to. -/
def entryEvidence (records : List EvidenceRecord) (entry : ClaimEntry) :
    List EvidenceRecord :=
  evidenceForClaim (indexEvidenceBySource records)
    (competitorIdFor settings entry.competitor) entry.claim

/-- The claim record of a knowledge claim; none without evidence. -/
def claimRecord (detail : RunDetail) (workspaceId projectId : String)
    (records : List EvidenceRecord) (entry : ClaimEntry) :
    Option ClaimRecord :=
  let candidates := entryEvidence settings records entry
  let dimension := settings.normalizeDimensionKey entry.dimension
  match claimEvidenceIds candidates with
  | [] => none
  | first :: rest =>
      some
        { id := computeClaimId settings first entry.claim.claim dimension
          workspaceId := workspaceId
          projectId := projectId
          runId := some detail.id
          competitorId := competitorIdFor settings entry.competitor
          claimType := dimension
          claimText := entry.claim.claim
          evidenceIds := first :: rest
          confidence := settings.floatValue entry.claim.confidence
          status :=
            if candidates.any isReleaseClaimEvidence then .proposed
            else .deprecated
          createdByAgent := some "analyst"
          cited := List.cons_ne_nil first rest }

/-- `_build_claim_records`. -/
def buildClaimRecords [PyRuntime] (detail : RunDetail)
    (workspaceId projectId : String) (records : List EvidenceRecord) :
    List ClaimRecord :=
  distinctBy (·.id)
    ((claimEntries detail).filterMap
      (claimRecord settings detail workspaceId projectId records))

/-- `_release_claim_records`. -/
def releaseClaimRecords (claims : List ClaimRecord) : List ClaimRecord :=
  claims.filter fun claim => claim.status ∉ [.deprecated, .rejected]

end Claims

/-! ## The projection of a run -/

section Build

variable (settings : ProjectionSettings) (detail : RunDetail)

theorem claimRecord_runId {workspaceId projectId : String}
    {records : List EvidenceRecord} {entry : ClaimEntry} {claim : ClaimRecord}
    (made : claimRecord settings detail workspaceId projectId records entry =
      some claim) : claim.runId = some detail.id := by
  unfold claimRecord at made
  simp only at made
  split at made
  · cases made
  · cases made
    rfl

theorem sourceRecord_of_mem {workspaceId projectId : String}
    {record : EvidenceRecord}
    (member : record ∈
      sourceRecords settings detail workspaceId projectId) :
    ∃ source ∈ detail.rawSources,
      ∃ competitor ∈ sourceCompetitors settings source,
        evidenceRecord settings detail workspaceId projectId source
          competitor = record := by
  obtain ⟨source, isSource, isRecord⟩ := List.mem_flatMap.mp member
  obtain ⟨competitor, covered, made⟩ := List.mem_map.mp isRecord
  exact ⟨source, isSource, competitor, covered, made⟩

variable [PyRuntime] (report : RunProjection) (versionNumber : Nat)

/-- The claims of a projection. -/
def projectedClaims : List ClaimRecord :=
  buildClaimRecords settings detail report.workspaceId report.scope.projectId
    (buildEvidenceRecords settings detail report.workspaceId
      report.scope.projectId)

/-- The report of a run with the records it is scoped to. -/
def projectedReport : RunProjection :=
  { report with
    runId := detail.id
    reportMd := detail.reportMd
    evidence :=
      buildEvidenceRecords settings detail report.workspaceId
        report.scope.projectId
    claimIds :=
      (releaseClaimRecords (projectedClaims settings detail report)).map
        (·.id) }

/-- `build_enterprise_projection`; `report` is what the report version takes
from the run besides its records. -/
def buildEnterpriseProjection : ProjectedRun :=
  { workspaceId := report.workspaceId
    projectId := report.scope.projectId
    runId := detail.id
    evidenceRecords :=
      buildEvidenceRecords settings detail report.workspaceId
        report.scope.projectId
    claimRecords := projectedClaims settings detail report
    reportVersion :=
      projectedRecord settings.sha256Hex
        (projectedReport settings detail report) versionNumber
    evidenceRun := by
      intro record member
      obtain ⟨source, -, competitor, -, rfl⟩ :=
        sourceRecord_of_mem settings detail (mem_of_mem_distinctBy member)
      rfl
    lastSeen := by
      intro record member
      obtain ⟨source, -, competitor, -, rfl⟩ :=
        sourceRecord_of_mem settings detail (mem_of_mem_distinctBy member)
      rfl
    evidenceDistinct := distinctBy_nodup _ _
    claimRun := by
      intro claim member
      obtain ⟨entry, -, made⟩ :=
        List.mem_filterMap.mp (mem_of_mem_distinctBy member)
      exact claimRecord_runId settings detail made
    claimsDistinct := distinctBy_nodup _ _
    reportRun := rfl }

/-! ## What a projection keeps of the sources -/

/-- The raw source ids resolve to records of the projection. -/
def SourcesResolve : Prop :=
  let projection :=
    buildEnterpriseProjection settings detail report versionNumber
  ∀ source ∈ detail.rawSources, ∃ record ∈ projection.evidenceRecords,
    resolveEvidence projection.evidenceRecords
      projection.reportVersion.evidenceIds source.id = some record

/-- The claims keep a record of every raw source their knowledge claims
cite. -/
def ClaimsKeepSources : Prop :=
  let projection :=
    buildEnterpriseProjection settings detail report versionNumber
  ∀ claim ∈ projection.claimRecords, ∀ entry ∈ claimEntries detail,
    claimRecord settings detail report.workspaceId report.scope.projectId
      projection.evidenceRecords entry = some claim →
    ∀ source ∈ detail.rawSources, source.id ∈ entry.claim.sourceIds →
      ∃ record ∈ projection.evidenceRecords,
        normalizeSourceToken source.id ∈ evidenceSourceTokens record ∧
          record.id ∈ claim.evidenceIds

end Build

section Kept

variable {settings : ProjectionSettings} {detail : RunDetail}
  {workspaceId projectId : String}

/-- For a competitor the source covers, no earlier source of the run has its
evidence identity. -/
def Contributes (settings : ProjectionSettings) (detail : RunDetail)
    (workspaceId projectId : String) (source : RawSource) : Prop :=
  ∃ competitor ∈ sourceCompetitors settings source,
    let record :=
      evidenceRecord settings detail workspaceId projectId source competitor
    (sourceRecords settings detail workspaceId projectId).find?
      (·.id = record.id) = some record

/-- A source that contributes has a record of its own. -/
theorem Contributes.record {source : RawSource}
    (contributes :
      Contributes settings detail workspaceId projectId source) :
    ∃ record ∈ buildEvidenceRecords settings detail workspaceId projectId,
      record.rawSourceId = source.id := by
  obtain ⟨competitor, -, first⟩ := contributes
  exact ⟨_, mem_distinctBy_of_find? first, rfl⟩

/-- A record answers to the raw source it is made of. -/
theorem rawSourceId_mem_tokens {record : EvidenceRecord}
    (named : record.rawSourceId ≠ "") :
    normalizeSourceToken record.rawSourceId ∈ evidenceSourceTokens record := by
  apply List.mem_map_of_mem
  rw [List.mem_filter]
  exact ⟨by simp, decide_eq_true named⟩

theorem mem_indexEvidence {records : List EvidenceRecord}
    {entry : (String × String) × EvidenceRecord} :
    entry ∈ indexEvidenceBySource records ↔
      entry.2 ∈ records ∧ entry.1.1 = entry.2.rawSourceId ∧
        (entry.1.2 = entry.2.competitorId ∨ entry.1.2 = "*") := by
  obtain ⟨⟨sourceId, competitor⟩, record⟩ := entry
  simp only [indexEvidenceBySource, List.mem_flatMap, List.mem_cons,
    List.not_mem_nil, or_false, Prod.mk.injEq]
  constructor
  · rintro ⟨known, member, ⟨⟨rfl, rfl⟩, rfl⟩ | ⟨⟨rfl, rfl⟩, rfl⟩⟩
    · exact ⟨member, rfl, .inl rfl⟩
    · exact ⟨member, rfl, .inr rfl⟩
  · rintro ⟨member, rfl, rfl | rfl⟩
    · exact ⟨record, member, .inl ⟨⟨rfl, rfl⟩, rfl⟩⟩
    · exact ⟨record, member, .inr ⟨⟨rfl, rfl⟩, rfl⟩⟩

theorem mem_of_evidenceOfSource {records : List EvidenceRecord}
    {competitorId sourceId : String} {record : EvidenceRecord}
    (member : record ∈ evidenceOfSource (indexEvidenceBySource records)
      competitorId sourceId) :
    record ∈ records ∧ record.rawSourceId = sourceId := by
  have under : ∀ competitor,
      record ∈ ((indexEvidenceBySource records).filter
        (·.1 = (sourceId, competitor))).map (·.2) →
      record ∈ records ∧ record.rawSourceId = sourceId := by
    intro competitor listed
    obtain ⟨entry, isEntry, rfl⟩ := List.mem_map.mp listed
    obtain ⟨indexed, sameKey⟩ := List.mem_filter.mp isEntry
    obtain ⟨known, sameSource, -⟩ := mem_indexEvidence.mp indexed
    rw [of_decide_eq_true sameKey] at sameSource
    exact ⟨known, sameSource.symm⟩
  rw [evidenceOfSource] at member
  split at member
  · exact under "*" member
  · exact under competitorId member

/-- A source with a record is found in the index. -/
theorem evidenceOfSource_ne_nil {records : List EvidenceRecord}
    {record : EvidenceRecord} (member : record ∈ records)
    (competitorId : String) :
    evidenceOfSource (indexEvidenceBySource records) competitorId
      record.rawSourceId ≠ [] := by
  have anyCompetitor : ((record.rawSourceId, "*"), record) ∈
      indexEvidenceBySource records :=
    mem_indexEvidence.mpr ⟨member, rfl, .inr rfl⟩
  rw [evidenceOfSource]
  split
  · apply List.ne_nil_of_mem
    exact List.mem_map.mpr
      ⟨_, List.mem_filter.mpr ⟨anyCompetitor, by simp⟩, rfl⟩
  · next own => exact own

theorem mem_claimEvidenceIds {candidates : List EvidenceRecord}
    {record : EvidenceRecord} (member : record ∈ candidates)
    (kept : candidates.any isReleaseClaimEvidence = true →
      isReleaseClaimEvidence record = true) :
    record.id ∈ claimEvidenceIds candidates := by
  unfold claimEvidenceIds
  simp only
  split
  · next releasable =>
      have anyReleasable : candidates.any isReleaseClaimEvidence = true := by
        rw [List.any_eq_true]
        obtain ⟨id, listed⟩ := List.exists_mem_of_ne_nil _ releasable
        obtain ⟨other, isOther, -⟩ := List.mem_map.mp listed
        obtain ⟨known, released⟩ := List.mem_filter.mp isOther
        exact ⟨other, known, released⟩
      exact List.mem_map_of_mem
        (List.mem_filter.mpr ⟨member, kept anyReleasable⟩)
  · exact List.mem_map_of_mem member

theorem claimRecord_evidenceIds {records : List EvidenceRecord}
    {entry : ClaimEntry} {claim : ClaimRecord}
    (made : claimRecord settings detail workspaceId projectId records entry =
      some claim) :
    claim.evidenceIds =
      claimEvidenceIds (entryEvidence settings records entry) := by
  unfold claimRecord at made
  simp only at made
  split at made
  · cases made
  · next found =>
      cases made
      exact found.symm

/-- A cited source with a record keeps one in the claim, a releasable one
when the claim has releasable evidence and the source too. -/
theorem claimRecord_keeps {records : List EvidenceRecord}
    (distinct : (records.map (·.id)).Nodup) {entry : ClaimEntry}
    {claim : ClaimRecord}
    (made : claimRecord settings detail workspaceId projectId records entry =
      some claim)
    {record : EvidenceRecord} (cited : record.rawSourceId ∈
      entry.claim.sourceIds)
    (ofSource : record ∈ evidenceOfSource (indexEvidenceBySource records)
      (competitorIdFor settings entry.competitor) record.rawSourceId)
    (kept : (entryEvidence settings records entry).any
      isReleaseClaimEvidence = true → isReleaseClaimEvidence record = true) :
    record.id ∈ claim.evidenceIds := by
  have isCandidate : record ∈ entryEvidence settings records entry := by
    have isListed : record ∈ entry.claim.sourceIds.flatMap fun sourceId =>
        evidenceOfSource (indexEvidenceBySource records)
          (competitorIdFor settings entry.competitor) sourceId :=
      List.mem_flatMap.mpr ⟨record.rawSourceId, cited, ofSource⟩
    obtain ⟨found, isFound, sameId⟩ :=
      exists_mem_distinctBy EvidenceRecord.id isListed
    obtain ⟨sourceId, -, isListed⟩ :=
      List.mem_flatMap.mp (mem_of_mem_distinctBy isFound)
    have sameRecord : found = record :=
      List.inj_on_of_nodup_map distinct
        (mem_of_evidenceOfSource isListed).1
        (mem_of_evidenceOfSource ofSource).1 sameId
    rwa [sameRecord] at isFound
  rw [claimRecord_evidenceIds made]
  exact mem_claimEvidenceIds isCandidate kept

end Kept

/-- What a projection keeps of the raw sources: the sources that contribute
resolve, every claim is made of a knowledge claim, and it keeps a record of
every contributing source the knowledge claim cites, of the releasable ones
only when it has releasable evidence. -/
theorem projection_keepsSources [PyRuntime] (settings : ProjectionSettings)
    (detail : RunDetail) (report : RunProjection) (versionNumber : Nat) :
    let projection :=
      buildEnterpriseProjection settings detail report versionNumber
    let contributes := Contributes settings detail report.workspaceId
      report.scope.projectId
    let made := claimRecord settings detail report.workspaceId
      report.scope.projectId projection.evidenceRecords
    let index := indexEvidenceBySource projection.evidenceRecords
    (∀ source ∈ detail.rawSources, source.id ≠ "" → contributes source →
      ∃ record ∈ projection.evidenceRecords,
        resolveEvidence projection.evidenceRecords
          projection.reportVersion.evidenceIds source.id = some record) ∧
    (∀ claim ∈ projection.claimRecords, ∃ entry ∈ claimEntries detail,
      made entry = some claim) ∧
    ∀ claim ∈ projection.claimRecords, ∀ entry ∈ claimEntries detail,
      made entry = some claim →
      ∀ source ∈ detail.rawSources, source.id ∈ entry.claim.sourceIds →
        contributes source →
        ((entryEvidence settings projection.evidenceRecords entry).any
            isReleaseClaimEvidence = true →
          (evidenceOfSource index
            (competitorIdFor settings entry.competitor) source.id).any
              isReleaseClaimEvidence = true) →
        ∃ record ∈ projection.evidenceRecords,
          record.rawSourceId = source.id ∧ record.id ∈ claim.evidenceIds := by
  intro projection contributes made index
  refine ⟨?_, ?_, ?_⟩
  · intro source isSource named sourceContributes
    obtain ⟨record, member, sameSource⟩ := sourceContributes.record
    refine exists_resolveEvidence member ?_ _
    rw [← sameSource]
    exact rawSourceId_mem_tokens (sameSource ▸ named)
  · intro claim isClaim
    exact List.mem_filterMap.mp (mem_of_mem_distinctBy isClaim)
  · intro claim isClaim entry isEntry isMade source isSource cited
      sourceContributes releasable
    obtain ⟨known, isKnown, sameSource⟩ := sourceContributes.record
    have present : evidenceOfSource index
        (competitorIdFor settings entry.competitor) source.id ≠ [] :=
      sameSource ▸ evidenceOfSource_ne_nil isKnown _
    have chosen : ∃ record ∈ evidenceOfSource index
        (competitorIdFor settings entry.competitor) source.id,
        (entryEvidence settings projection.evidenceRecords entry).any
            isReleaseClaimEvidence = true →
          isReleaseClaimEvidence record = true := by
      by_cases anyReleasable :
          (entryEvidence settings projection.evidenceRecords entry).any
            isReleaseClaimEvidence = true
      · obtain ⟨record, listed, released⟩ :=
          List.any_eq_true.mp (releasable anyReleasable)
        exact ⟨record, listed, fun _ => released⟩
      · obtain ⟨record, listed⟩ := List.exists_mem_of_ne_nil _ present
        exact ⟨record, listed, fun any => (anyReleasable any).elim⟩
    obtain ⟨record, listed, kept⟩ := chosen
    obtain ⟨member, ofSource⟩ := mem_of_evidenceOfSource listed
    refine ⟨record, member, ofSource, ?_⟩
    rw [← ofSource] at cited listed
    exact claimRecord_keeps projection.evidenceDistinct isMade cited listed
      kept

/-! ## Sources a projection loses -/

namespace ProjectionExample

local instance projectionExampleRuntime : PyRuntime := asciiRuntime

def settings : ProjectionSettings :=
  { sha256Hex := id
    normalizeUrl := id
    normalizeText := id
    normalizeDimensionKey := id
    normalizeCompetitorKey := id
    floatValue := fun _ => 1 }

def report : RunProjection :=
  { runId := "run-1"
    scope :=
      { projectId := "project"
        topicNormalized := "plans"
        competitorLayer := "L1"
        competitorSetHash := "hash" }
    reportMd := ""
    updatedAt := 1 }

/-- A page on the prices of a competitor. -/
def page (id sourceType contentHash : String) : RawSource :=
  { id := id
    competitor := "acme"
    dimension := "pricing"
    sourceType := sourceType
    url := some "https://acme.example/pricing"
    contentHash := contentHash
    confidence := 1 }

def runOf (sources : List RawSource) (claims : List KnowledgeClaim) :
    RunDetail :=
  { id := "run-1"
    plan :=
      { competitors := ["acme"]
        dimensions := ["pricing"] }
    rawSources := sources
    competitorKnowledge :=
      Dict.set ∅ "acme"
        { competitor := "acme"
          pricingModel := { notes := claims } } }

/-- The same page collected twice. -/
def twinRun : RunDetail :=
  runOf [page "raw-1" "webpage" "hash", page "raw-2" "webpage" "hash"] []

/-- A claim on a verified page and a page that is not. -/
def mixedRun : RunDetail :=
  runOf
    [page "raw-1" "webpage_verified" "hash-1",
      page "raw-2" "webpage" "hash-2"]
    [{ claim := "Acme has a free plan."
       sourceIds := ["raw-1", "raw-2"] }]

/-- A source without an id. -/
def namelessRun : RunDetail :=
  runOf [page "" "webpage" "hash"] []

/-- A projection of a run. -/
def projected (detail : RunDetail) : ProjectedRun :=
  buildEnterpriseProjection settings detail report 1

def freePlan : ClaimEntry :=
  { competitor := "acme"
    dimension := "pricing"
    claim :=
      { claim := "Acme has a free plan."
        sourceIds := ["raw-1", "raw-2"] } }

/-- A page collected twice under two ids, a source without an id, and a claim
that cites a verified page and another one. -/
theorem projection_losesSources :
    ¬ SourcesResolve settings twinRun report 1 ∧
      ¬ SourcesResolve settings namelessRun report 1 ∧
      SourcesResolve settings mixedRun report 1 ∧
      ¬ ClaimsKeepSources settings mixedRun report 1 := by
  have unresolved : ∀ detail token,
      resolveEvidence (projected detail).evidenceRecords
        (projected detail).reportVersion.evidenceIds token = none →
      ∀ source ∈ detail.rawSources, source.id = token →
        ¬ SourcesResolve settings detail report 1 := by
    rintro detail token missing source member rfl resolves
    obtain ⟨record, -, resolved⟩ := resolves source member
    exact absurd (missing.symm.trans resolved) nofun
  refine ⟨?_, ?_, ?_, ?_⟩
  · exact unresolved twinRun "raw-2" (by decide +kernel) _
      (List.mem_cons_of_mem _ List.mem_cons_self) rfl
  · exact unresolved namelessRun "" (by decide +kernel) _
      List.mem_cons_self rfl
  · have each : ∀ token ∈ ["raw-1", "raw-2"],
        ∃ record ∈ (projected mixedRun).evidenceRecords,
          resolveEvidence (projected mixedRun).evidenceRecords
            (projected mixedRun).reportVersion.evidenceIds token =
              some record := by
      decide +kernel
    intro source member
    rcases List.mem_cons.mp member with rfl | later
    · exact each "raw-1" (by simp)
    · rw [List.mem_singleton.mp later]
      exact each "raw-2" (by simp)
  · intro keeps
    have entries : claimEntries mixedRun = [freePlan] := by rfl
    have isMade : (claimRecord settings mixedRun report.workspaceId
        report.scope.projectId (projected mixedRun).evidenceRecords
        freePlan).isSome := by
      decide +kernel
    obtain ⟨claim, made⟩ := Option.isSome_iff_exists.mp isMade
    have isClaim : claim ∈ (projected mixedRun).claimRecords := by
      change claim ∈ distinctBy _
        ((claimEntries mixedRun).filterMap
          (claimRecord settings mixedRun report.workspaceId
            report.scope.projectId (projected mixedRun).evidenceRecords))
      rw [entries, List.filterMap_cons_some made]
      exact List.mem_cons_self
    obtain ⟨record, member, named, kept⟩ :=
      keeps claim isClaim freePlan
        (entries ▸ List.mem_cons_self) made _
        (List.mem_cons_of_mem _ List.mem_cons_self)
        (List.mem_cons_of_mem _ List.mem_cons_self)
    rw [claimRecord_evidenceIds made] at kept
    have lost : ∀ record ∈ (projected mixedRun).evidenceRecords,
        normalizeSourceToken "raw-2" ∈ evidenceSourceTokens record →
          record.id ∉ claimEvidenceIds
            (entryEvidence settings (projected mixedRun).evidenceRecords
              freePlan) := by
      decide +kernel
    exact lost record member named kept

end ProjectionExample

end CompetiScope
