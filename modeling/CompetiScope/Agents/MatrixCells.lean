import CompetiScope.Sources.Matching

/-!
# Cells of the comparison matrix

The comparator has one cell for each dimension and competitor of the plan.
A cell holds what is known in a few words, the ids of the sources of the
competitor and a confidence.
-/

namespace CompetiScope

open Foundation

/-! ## Compact texts -/

/-- `value or default`. -/
def orElseText (value fallback : String) : String :=
  if value = "" then fallback else value

/-- `text.rsplit(" ", 1)[0]`. -/
def beforeLastSpace (text : List Char) : List Char :=
  if ' ' ∈ text then ((text.reverse.dropWhile (· ≠ ' ')).drop 1).reverse
  else text

/-- `_compact_matrix_text`. -/
def compactMatrixText (value : String) (limit : Nat) : String :=
  let text := squeeze value
  if text.length ≤ limit then text
  else
    let truncated := stripRight (String.ofList (text.toList.take (limit - 1)))
    let whole :=
      if ' ' ∈ truncated.toList then
        stripRight (String.ofList (beforeLastSpace truncated.toList))
      else truncated
    whole ++ "..."

/-- `[value.strip() for value in values if value and value.strip()]`. -/
def cleanedTexts (values : List String) : List String :=
  (values.map strip).filter (· ≠ "")

/-- The loop of `_compact_list_text`; it ends at the first value that makes
the joined text too long. -/
def selectWithin (limit : Nat) (selected : List String) :
    List String → List String
  | [] => selected
  | value :: values =>
      if (String.intercalate ", " (selected ++ [value])).length ≤ limit then
        selectWithin limit (selected ++ [value]) values
      else selected

/-- `_compact_list_text`. -/
def compactListText (values : List String) (limit : Nat) : String :=
  match cleanedTexts values with
  | [] => "unknown"
  | first :: rest =>
      let selected := selectWithin limit [] ((first :: rest).take 3)
      if selected = [] then compactMatrixText first limit
      else String.intercalate ", " selected

/-- `_compact_pricing_limits_text`. -/
def compactPricingLimitsText (values : List String) (limit : Nat) : String :=
  let cleaned := cleanedTexts values
  if cleaned = [] then "not stated in collected source"
  else compactMatrixText (String.intercalate ", " (cleaned.take 3)) limit

/-- `_join_structured_parts`. -/
def joinStructuredParts (primaryParts : List String) (fallbackLabel : String)
    (fallbackParts : List String) : String :=
  String.intercalate " | "
    (if primaryParts = [] then
      fallbackParts.map fun part => fallbackLabel ++ "=" ++ part
    else primaryParts)

/-! ## Structured values -/

/-- `_structured_pricing_cell_value`. -/
def structuredPricingCellValue (pricing : PricingModel) : String :=
  let tierParts := (pricing.tiers.take 6).map fun tier =>
    "tier_name=" ++ compactMatrixText (orElseText tier.name "unknown") 44 ++
      "; price=" ++ compactMatrixText (orElseText tier.price "unknown") 120 ++
      "; billing_cycle=" ++
      compactMatrixText (orElseText tier.billingCycle "unknown") 40 ++
      "; limits=" ++ compactPricingLimitsText tier.limits 160
  let noteParts := (pricing.notes.take 2).map fun claim =>
    compactMatrixText claim.claim 180
  joinStructuredParts tierParts "notes" noteParts

/-- `_structured_persona_cell_value`. -/
def structuredPersonaCellValue (personas : UserPersonaModel) : String :=
  let segmentParts := (personas.segments.take 3).map fun segment =>
    "segment=" ++ compactMatrixText (orElseText segment.name "unknown") 36 ++
      "; role=" ++ compactMatrixText (orElseText segment.role "unknown") 36 ++
      "; company_size=" ++
      compactMatrixText (orElseText segment.companySize "unknown") 32 ++
      "; use_cases=" ++ compactListText segment.useCases 180 ++
      "; pain_points=" ++ compactListText segment.painPoints 180
  let summaryParts := (personas.summaryClaims.take 2).map fun claim =>
    compactMatrixText claim.claim 96
  joinStructuredParts segmentParts "summary" summaryParts

/-- `FEATURE_TAXONOMY_ORDER`. -/
def featureTaxonomyOrder : List String :=
  ["code completion", "agentic coding", "chat and q&a", "ide integration",
    "code review and security", "tool and terminal use", "repository context",
    "enterprise administration"]

def FeatureNode.name : FeatureNode → String
  | .mk name _ _ _ => name

def FeatureNode.description : FeatureNode → String
  | .mk _ description _ _ => description

def FeatureNode.children : FeatureNode → List FeatureNode
  | .mk _ _ _ children => children

section

variable [PyRuntime]

/-- `_feature_taxonomy_rank`. -/
def featureTaxonomyRank (name : String) : Nat :=
  let normalized := casefold name
  featureTaxonomyOrder.idxOf
    (if normalized = "autocomplete" then "code completion" else normalized)

/-- `_prioritized_feature_nodes`; nodes of one rank keep their order. -/
def prioritizedFeatureNodes (featureTree : FeatureTree) : List FeatureNode :=
  featureTree.nodes.insertionSort fun first second =>
    featureTaxonomyRank first.name ≤ featureTaxonomyRank second.name

/-- `_structured_feature_cell_value`. -/
def structuredFeatureCellValue (featureTree : FeatureTree) : String :=
  let featureParts := ((prioritizedFeatureNodes featureTree).take 6).map
    fun node =>
      "feature_name=" ++
        compactMatrixText (orElseText node.name "unknown") 44 ++
        "; description=" ++
        compactMatrixText (orElseText node.description "unknown") 120 ++
        "; claim_count=" ++ toString node.claims.length ++
        "; child_count=" ++ toString node.children.length
  let summaryParts := (featureTree.summaryClaims.take 2).map fun claim =>
    compactMatrixText claim.claim 140
  joinStructuredParts featureParts "summary" summaryParts

/-- `_structured_matrix_value`. -/
def structuredMatrixValue (detail : RunDetail)
    (competitor dimension : String) : String :=
  match detail.competitorKnowledge.get? competitor with
  | none => ""
  | some knowledge =>
      let key := casefold dimension
      if contains key "pricing" then
        structuredPricingCellValue knowledge.pricingModel
      else if contains key "persona" || contains key "user" then
        structuredPersonaCellValue knowledge.userPersonas
      else if contains key "feature" then
        structuredFeatureCellValue knowledge.featureTree
      else ""

/-! ## Confidences -/

/-- `sum(values) / len(values)`. -/
def meanOf (values : List Float) : Float :=
  PyRuntime.floatSum values / Float.ofNat values.length

/-- `min(first, second)`. -/
def smaller (first second : Float) : Float :=
  if second < first then second else first

/-- `_structured_claim_confidences`. -/
def structuredClaimConfidences (detail : RunDetail)
    (competitor dimension : String) : List Float :=
  match detail.competitorKnowledge.get? competitor with
  | none => []
  | some knowledge =>
      let key := casefold dimension
      let claims :=
        if contains key "pricing" then
          knowledge.pricingModel.notes ++
            knowledge.pricingModel.tiers.flatMap (·.claims)
        else if contains key "persona" || contains key "user" then
          knowledge.userPersonas.summaryClaims ++
            knowledge.userPersonas.segments.flatMap (·.claims)
        else
          knowledge.featureTree.summaryClaims ++
            knowledge.featureTree.nodes.flatMap (·.claims)
      (claims.map (·.confidence)).filter (0 < ·)

/-- `_persona_user_research_confidence_cap`. -/
def personaUserResearchConfidenceCap (dimension : String)
    (relatedSources : List RawSource) (confidence : Float) : Float :=
  let key := casefold dimension
  if !contains key "persona" && !contains key "user" then confidence
  else
    match (relatedSources.filter fun source =>
        ["interview_record", "survey_simulated"].contains
          source.sourceType).map (·.confidence) with
    | [] => confidence
    | first :: rest => smaller confidence (rest.foldl smaller first)

/-- `_matrix_cell_confidence`. -/
def matrixCellConfidence (detail : RunDetail) (competitor dimension : String)
    (relatedSources : List RawSource) : Float :=
  let sourceConfidence :=
    if relatedSources.isEmpty then 0
    else meanOf (relatedSources.map (·.confidence))
  let claimConfidences :=
    structuredClaimConfidences detail competitor dimension
  let confidence :=
    if claimConfidences.isEmpty then sourceConfidence
    else if sourceConfidence ≤ 0 then meanOf claimConfidences
    else smaller sourceConfidence (meanOf claimConfidences)
  personaUserResearchConfidenceCap dimension relatedSources confidence

/-! ## Cells -/

/-- The text of a cell: what is structured, else two findings, else the text
of a source. -/
def matrixCellValue (detail : RunDetail) (competitor dimension : String)
    (relatedSources : List RawSource) : String :=
  let findings :=
    match detail.competitorKbs.get? competitor with
    | none => []
    | some kb => kb.slices.getD dimension []
  let found := orElseText (structuredMatrixValue detail competitor dimension)
    (String.intercalate "; " (findings.take 2))
  let value :=
    match relatedSources with
    | [] => found
    | source :: _ => orElseText found (orElseText source.snippet source.title)
  orElseText value "No structured finding available."

/-- The cell of `_build_comparison_matrix` for a competitor and dimension. -/
def matrixCellOf (detail : RunDetail) (dimension competitor : String) :
    ComparisonCell :=
  let relatedSources :=
    sourcesForCompetitorDimension detail competitor dimension
  { competitor := competitor
    dimension := dimension
    value := matrixCellValue detail competitor dimension relatedSources
    sourceIds := relatedSources.map (·.id)
    confidence :=
      matrixCellConfidence detail competitor dimension relatedSources }

def matrixCells (detail : RunDetail) : List ComparisonCell :=
  detail.plan.dimensions.flatMap fun dimension =>
    detail.plan.competitors.map (matrixCellOf detail dimension)

end

end CompetiScope
