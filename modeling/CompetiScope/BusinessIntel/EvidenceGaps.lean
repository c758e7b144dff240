import CompetiScope.BusinessIntel.ReleaseGate
import CompetiScope.Foundation.Indexed
import CompetiScope.Identity.IdentityKeys
import CompetiScope.Schema.Run
import Mathlib.Data.Prod.Lex

/-!
# Evidence gaps

The gaps that the analysis finds in the coverage, the quality and the support
of a project's evidence, and those it takes from the findings of the business
quality check.
-/

namespace CompetiScope

open Foundation

/-! ## Records -/

inductive AssessedLayer where
  | l1
  | l2
  | l3
  deriving DecidableEq

structure ScenarioPack where
  id : String
  requiredDimensions : List String := []
  optionalDimensions : List String := []

structure BusinessIntelPlan where
  topic : String
  competitorLayer : AssessedLayer
  scenarioPack : ScenarioPack
  requestedDimensions : List String := []

inductive GapSeverity where
  | critical
  | high
  | medium
  | low
  deriving DecidableEq

def GapSeverity.text : GapSeverity → String
  | .critical => "critical"
  | .high => "high"
  | .medium => "medium"
  | .low => "low"

inductive GapType where
  | missingDimensionCoverage
  | missingVerifiedSource
  | staleOrRejectedEvidence
  | claimWithoutUsableEvidence
  | landscapeBreadth
  deriving DecidableEq

def GapType.text : GapType → String
  | .missingDimensionCoverage => "missing_dimension_coverage"
  | .missingVerifiedSource => "missing_verified_source"
  | .staleOrRejectedEvidence => "stale_or_rejected_evidence"
  | .claimWithoutUsableEvidence => "claim_without_usable_evidence"
  | .landscapeBreadth => "landscape_breadth"

/-- The arguments of `_gap`. -/
structure GapContent where
  severity : GapSeverity
  gapType : GapType
  competitorId : Option String := none
  competitorName : Option String := none
  dimension : Option String := none
  sourceTypeRequired : Option String := none
  message : String
  recommendedQuery : String := ""
  evidenceIds : List String := []
  claimIds : List String := []
  deriving DecidableEq

/-- The part of an `EvidenceGapItem` that the analysis fills. -/
structure DetectedGap extends GapContent where
  id : String
  deriving DecidableEq

structure SkillOutputSpec where
  idPrefix : String
  confidenceDefault : Rat
  confidenceNoUrl : Rat
  requiredDimension : String

structure SkillSpec where
  name : String
  subagentClass : String
  description : String
  toolsAllowlist : List String
  queryTemplates : List String
  maxTurns : Nat := 6
  sourceType : String
  output : SkillOutputSpec

structure SchemaEvolutionSuggestion where
  id : String
  dimension : String
  normalizedDimension : String
  reason : String
  sourceGapIds : List String
  proposedSkill : SkillSpec

structure EvidenceGapReport where
  projectId : String
  scenarioId : String
  gapCount : Nat
  criticalCount : Nat
  highCount : Nat
  mediumCount : Nat
  lowCount : Nat
  gaps : List DetectedGap
  schemaSuggestions : List SchemaEvolutionSuggestion

/-- `compute_evidence_gap_id`. -/
def IdentityLibrary.computeEvidenceGapId (library : IdentityLibrary)
    (content : GapContent) : String :=
  stablePrefixedId library.sha256Hex "evidence-gap"
    [.text content.severity.text, .text content.gapType.text,
      .text (content.competitorId.getD ""),
      .text (library.normalizeDimensionKey content.dimension),
      .text content.message, .texts content.evidenceIds,
      .texts content.claimIds] 16

/-- `compute_schema_suggestion_id`. -/
def IdentityLibrary.computeSchemaSuggestionId (library : IdentityLibrary)
    (dimensionKey : String) (gapIds : List String) : String :=
  stablePrefixedId library.sha256Hex "schema-suggestion"
    [.text dimensionKey, .texts gapIds] 16

/-- `_gap`. -/
def gap (library : IdentityLibrary) (content : GapContent) : DetectedGap :=
  { content with
    id := library.computeEvidenceGapId content }

/-! ## Gaps of the evidence -/

def EvidenceQualityLabel.text : EvidenceQualityLabel → String
  | .unreviewed => "unreviewed"
  | .accepted => "accepted"
  | .rejected => "rejected"
  | .stale => "stale"

/-- `_query`. -/
def gapQuery (competitorName dimension : String) : String :=
  if dimension = "pricing" then competitorName ++ " pricing official"
  else if dimension = "security" then
    competitorName ++ " security trust center official"
  else if dimension = "integrations" then
    competitorName ++ " integrations documentation official"
  else if dimension = "market" then
    competitorName ++ " market positioning evidence"
  else competitorName ++ " " ++ dimension ++ " official documentation"

section Source

variable [PyRuntime]

/-- `_unique_dimensions`. -/
def uniqueDimensions (dimensions : List String) : List String :=
  distinctBy (fun dimension => strip (casefold dimension))
    (dimensions.filter fun dimension => strip (casefold dimension) ≠ "")

/-- `effective_analysis_dimensions`. -/
def effectiveAnalysisDimensions (plan : BusinessIntelPlan) : List String :=
  uniqueDimensions
    (plan.scenarioPack.requiredDimensions ++ plan.requestedDimensions)

/-- `_same_dimension`. -/
def sameDimension (left right : String) : Bool :=
  let leftKey := strip (casefold left)
  let rightKey := strip (casefold right)
  leftKey = rightKey || contains rightKey leftKey || contains leftKey rightKey

/-- The gap in the coverage of a dimension of a competitor. -/
def coverageGap (evidence : List EvidenceRecord)
    (competitor : CompetitorRecord) (dimension : String) :
    Option GapContent :=
  let usable := evidence.filter fun item =>
    item.competitorId = competitor.id ∧
      sameDimension item.dimension dimension ∧ ¬ item.qualityLabel.isBad
  let verified := usable.filter (·.sourceType = "webpage_verified")
  if usable = [] then
    some
      { severity := .high
        gapType := .missingDimensionCoverage
        competitorId := some competitor.id
        competitorName := some competitor.name
        dimension := some dimension
        sourceTypeRequired := some "any usable source"
        message := competitor.name ++ " has no usable evidence for " ++
          dimension ++ "."
        recommendedQuery := gapQuery competitor.name dimension }
  else if verified = [] then
    some
      { severity := .medium
        gapType := .missingVerifiedSource
        competitorId := some competitor.id
        competitorName := some competitor.name
        dimension := some dimension
        sourceTypeRequired := some "webpage_verified"
        message := competitor.name ++ " has " ++ dimension ++
          " evidence, but no verified source."
        recommendedQuery := gapQuery competitor.name dimension
        evidenceIds := usable.map (·.id) }
  else none

/-- `_coverage_gaps`. -/
def coverageGaps (plan : BusinessIntelPlan)
    (competitors : List CompetitorRecord) (evidence : List EvidenceRecord) :
    List GapContent :=
  competitors.flatMap fun competitor =>
    (effectiveAnalysisDimensions plan).filterMap fun dimension =>
      coverageGap evidence competitor dimension

end Source

/-- `_quality_gaps`. -/
def qualityGaps (evidence : List EvidenceRecord)
    (competitors : List CompetitorRecord) : List GapContent :=
  let competitorById := indexBy CompetitorRecord.id competitors
  (evidence.filter (·.qualityLabel.isBad)).map fun item =>
    let competitor := competitorById.get? item.competitorId
    { severity := .medium
      gapType := .staleOrRejectedEvidence
      competitorId := competitor.map (·.id)
      competitorName := competitor.map (·.name)
      dimension := some item.dimension
      message := item.title ++ " is marked " ++ item.qualityLabel.text ++
        " and will not support claims."
      recommendedQuery := gapQuery
        ((competitor.map (·.name)).getD item.competitorId) item.dimension
      evidenceIds := [item.id] }

/-- `_claim_gaps`. -/
def claimGaps (claims : List ClaimRecord) (evidence : List EvidenceRecord) :
    List GapContent :=
  let evidenceById := indexBy EvidenceRecord.id evidence
  (claims.filter fun claim =>
    (claim.evidenceIds.filterMap evidenceById.get?).all
      (·.qualityLabel.isBad)).map fun claim =>
    { severity := .critical
      gapType := .claimWithoutUsableEvidence
      dimension := some claim.claimType
      message := "Claim has no accepted or unreviewed evidence after " ++
        "quality filtering."
      recommendedQuery := claim.claimType ++ " official evidence"
      evidenceIds := claim.evidenceIds
      claimIds := [claim.id] }

/-- `_landscape_gaps`. -/
def landscapeGaps (plan : BusinessIntelPlan)
    (competitors : List CompetitorRecord) : List GapContent :=
  if plan.competitorLayer ≠ .l3 ∨ 4 ≤ competitors.length then []
  else
    [{ severity := .medium
       gapType := .landscapeBreadth
       dimension := some "market"
       message := "L3 landscape analysis has fewer than four competitors."
       recommendedQuery := plan.topic ++ " market landscape competitors" }]

/-! ## Gaps of the findings -/

/-- What a gap or a finding is about. -/
structure GapSubject where
  competitorId : Option String
  dimension : Option String
  claimIds : List String
  evidenceIds : List String
  deriving DecidableEq

def GapContent.subject (content : GapContent) : GapSubject :=
  { competitorId := content.competitorId
    dimension := content.dimension
    claimIds := content.claimIds
    evidenceIds := content.evidenceIds }

def BusinessQAFinding.subject (finding : BusinessQAFinding) : GapSubject :=
  { competitorId := finding.competitorId
    dimension := finding.dimension
    claimIds := finding.claimIds
    evidenceIds := finding.evidenceIds }

/-- `_severity_from_qa`. -/
def severityFromQa : FindingSeverity → GapSeverity
  | .blocker => .critical
  | .warn => .high
  | .info => .medium

/-- The gap of a finding. -/
def findingGap (finding : BusinessQAFinding) : GapContent :=
  { severity := severityFromQa finding.severity
    gapType :=
      if finding.claimIds ≠ [] then .claimWithoutUsableEvidence
      else .missingDimensionCoverage
    competitorId := finding.competitorId
    competitorName := finding.competitorName
    dimension := finding.dimension
    message := finding.message
    recommendedQuery := finding.recommendation
    evidenceIds := finding.evidenceIds
    claimIds := finding.claimIds }

/-- `_qa_only_gaps`. -/
def qaOnlyGaps (findings : List BusinessQAFinding)
    (existingGaps : List GapContent) : List GapContent :=
  (findings.filter fun finding =>
    finding.subject ∉ existingGaps.map (·.subject)).map findingGap

/-! ## The report -/

/-- `_severity_rank`. -/
def severityRank : GapSeverity → Nat
  | .critical => 0
  | .high => 1
  | .medium => 2
  | .low => 3

/-- The key of a gap that `_dedupe_gaps` compares. -/
def gapKey (item : DetectedGap) : GapSubject × GapType :=
  (item.subject, item.gapType)

/-- The order of `_dedupe_gaps`. -/
def gapRank (item : DetectedGap) : Nat ×ₗ String :=
  toLex (severityRank item.severity, item.gapType.text)

/-- `_dedupe_gaps`. -/
def dedupeGaps (gaps : List DetectedGap) : List DetectedGap :=
  (distinctBy gapKey gaps).insertionSort fun first second =>
    gapRank first ≤ gapRank second

section Report

variable [PyRuntime]

/-- `_dimension_key`. -/
def dimensionKey (value : String) : String :=
  let spaced := (strip (casefold value)).toList.map fun char =>
    if char = '-' then ' ' else char
  String.ofList (List.intercalate ['_'] (wordsOf isSpace spaced))

/-- `_draft_skill_spec`. -/
def draftSkillSpec (dimensionKey : String) : SkillSpec :=
  { name := dimensionKey
    subagentClass := "GenericCollector"
    description := "Pending collector schema for " ++ dimensionKey ++
      " evidence discovered by gap analysis."
    toolsAllowlist := ["web_search", "robots_check", "fetch_page"]
    queryTemplates :=
      ["\x7bcompetitor\x7d " ++ dimensionKey ++ " official documentation",
        "\x7bcompetitor\x7d " ++ dimensionKey ++ " policy",
        "\x7bcompetitor\x7d " ++ dimensionKey ++ " evidence"]
    sourceType := "webpage"
    output :=
      { idPrefix := dimensionKey
        confidenceDefault := 4 / 5
        confidenceNoUrl := 9 / 20
        requiredDimension := dimensionKey } }

/-- `_schema_evolution_suggestions`. -/
def schemaEvolutionSuggestions (library : IdentityLibrary)
    (plan : BusinessIntelPlan) (gaps : List DetectedGap) :
    List SchemaEvolutionSuggestion :=
  let knownDimensions :=
    ((plan.requestedDimensions ++ plan.scenarioPack.requiredDimensions ++
      plan.scenarioPack.optionalDimensions).filter (· ≠ "")).map dimensionKey
  let keyOf (item : DetectedGap) : String :=
    dimensionKey (item.dimension.getD "")
  let newGaps := gaps.filter fun item =>
    item.dimension.getD "" ≠ "" ∧ keyOf item ≠ "" ∧
      keyOf item ∉ knownDimensions ∧
      item.gapType ∈ [.missingDimensionCoverage, .claimWithoutUsableEvidence]
  (sortedSet (newGaps.map keyOf)).map fun key =>
    let dimensionGaps := newGaps.filter fun item => keyOf item = key
    let gapIds := dimensionGaps.map (·.id)
    { id := library.computeSchemaSuggestionId key gapIds
      dimension := ((dimensionGaps.head?.bind (·.dimension)).getD key)
      normalizedDimension := key
      reason := toString dimensionGaps.length ++
        " evidence gap(s) reference a dimension that is not covered by the " ++
        "active scenario schema."
      sourceGapIds := gapIds
      proposedSkill := draftSkillSpec key }

/-- The gaps that do not come from a finding. -/
def sourceGaps (plan : BusinessIntelPlan)
    (competitors : List CompetitorRecord) (evidence : List EvidenceRecord)
    (claims : List ClaimRecord) : List GapContent :=
  coverageGaps plan competitors evidence ++ qualityGaps evidence competitors ++
    claimGaps claims evidence ++ landscapeGaps plan competitors

/-- `analyze_evidence_gaps`. -/
def analyzeEvidenceGaps (library : IdentityLibrary) (projectId : String)
    (plan : BusinessIntelPlan) (findings : List BusinessQAFinding)
    (competitors : List CompetitorRecord) (evidence : List EvidenceRecord)
    (claims : List ClaimRecord) : EvidenceGapReport :=
  let existing := sourceGaps plan competitors evidence claims
  let gaps := dedupeGaps
    ((existing ++ qaOnlyGaps findings existing).map (gap library))
  { projectId := projectId
    scenarioId := plan.scenarioPack.id
    gapCount := gaps.length
    criticalCount := gaps.countP (·.severity = .critical)
    highCount := gaps.countP (·.severity = .high)
    mediumCount := gaps.countP (·.severity = .medium)
    lowCount := gaps.countP (·.severity = .low)
    gaps := gaps
    schemaSuggestions := schemaEvolutionSuggestions library plan gaps }

end Report

/-! ## Redo scopes -/

/-- `dedupe_redo_scopes`. -/
def dedupeRedoScopes (scopes : List RedoScope) : List RedoScope :=
  distinctBy (fun scope => (scope.kind, scope.targetSubagent,
    scope.targetCompetitor, scope.targetCompetitors)) scopes

/-- The scope of a gap. -/
def gapRedoScope (item : DetectedGap) : RedoScope :=
  { kind := .collector
    targetSubagent := item.dimension
    targetCompetitor := item.competitorName
    targetCompetitors := item.competitorName.toList.filter (· ≠ "")
    rationale :=
      if item.recommendedQuery ≠ "" then item.recommendedQuery
      else item.message }

/-- `evidence_gaps_to_redo_scopes`. -/
def evidenceGapsToRedoScopes (gaps : List DetectedGap) : List RedoScope :=
  dedupeRedoScopes ((gaps.filter fun item =>
    item.severity ∈ [.critical, .high]).map gapRedoScope)

end CompetiScope
