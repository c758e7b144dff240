import CompetiScope.Agents.KnowledgeSlots

/-!
# Merging one analyst branch into a competitor's knowledge

`_merge_structured_knowledge_payload` and `_apply_kb_cache_entry` write the
slot of the branch's dimension, filter what it cites by the sources of that
dimension and recompute the shared source ids and the confidence.  What the
text extraction finds in the sources is a parameter.
-/

namespace CompetiScope

open Foundation

/-- The extraction of facts from the text of a competitor's sources. -/
structure ExtractionRules where
  /-- The tiers after `_enrich_pricing_model_from_sources` and
  `_dedupe_pricing_model_tiers`; the notes stay as they are. -/
  pricingTiers : List RawSource → PricingModel → List PricingTier
  /-- The segments after `_enrich_persona_model_from_sources`. -/
  personaSegments :
    List RawSource → String → UserPersonaModel → List UserPersonaSegment
  /-- The nodes appended by `_enrich_feature_tree_from_sources`. -/
  featureNodes : List RawSource → FeatureTree → List FeatureNode
  /-- `_build_review_summary_from_community_clusters`. -/
  communityReview : String → String → List RawSource → ReviewThemeSummary
  /-- `_build_review_summary_from_source_dicts`. -/
  sourceReview : String → String → List RawSource → ReviewThemeSummary

/-- A section of a payload: not an object, an object its model rejects, or a
section of that model. -/
inductive SectionPayload (Section : Type) where
  | absent
  | invalid
  | validated (content : Section)

/-- `structured_knowledge` of an analyst's answer; the review summary is read
by `_review_summary_from_dict`. -/
structure StructuredPayload where
  pricingModel : SectionPayload PricingModel := .absent
  userPersonas : SectionPayload UserPersonaModel := .absent
  featureTree : SectionPayload FeatureTree := .absent
  reviewSummary : Option ReviewThemeSummary := none

structure KBCacheEntry where
  confidence : Float
  knowledge : CompetitorKnowledge

namespace KnowledgeSlot

/-- The claims a slot holds; those of nested feature nodes are not read. -/
def claims (knowledge : CompetitorKnowledge) :
    KnowledgeSlot → List KnowledgeClaim
  | pricingModel =>
      knowledge.pricingModel.notes ++
        knowledge.pricingModel.tiers.flatMap (·.claims)
  | userPersonas =>
      knowledge.userPersonas.summaryClaims ++
        knowledge.userPersonas.segments.flatMap (·.claims)
  | featureTree =>
      knowledge.featureTree.summaryClaims ++
        knowledge.featureTree.nodes.flatMap (·.claims)

/-- Take the slot from `cached`. -/
def copyFrom (cached knowledge : CompetitorKnowledge) :
    KnowledgeSlot → CompetitorKnowledge
  | pricingModel => { knowledge with pricingModel := cached.pricingModel }
  | userPersonas => { knowledge with userPersonas := cached.userPersonas }
  | featureTree => { knowledge with featureTree := cached.featureTree }

@[simp] theorem claims_shared (knowledge : CompetitorKnowledge)
    (ids : List String) (confidence : Float) (slot : KnowledgeSlot) :
    slot.claims
        { knowledge with sourceIds := ids, confidence := confidence } =
      slot.claims knowledge := by
  cases slot <;> rfl

end KnowledgeSlot

/-! ## Sanitising citations -/

/-- A claim without the citations that are not valid; `none` when none is
left. -/
def claimWithKnownSourceIds (valid : List String) (claim : KnowledgeClaim) :
    Option KnowledgeClaim :=
  if claim.sourceIds.filter (· ∈ valid) = [] then none
  else some { claim with sourceIds := pruned valid claim.sourceIds }

def sanitizeReviewThemeItem (valid : List String) (item : ReviewThemeItem) :
    ReviewThemeItem :=
  { item with
    sourceIds := pruned valid item.sourceIds
    evidenceGap := item.evidenceGap ||
      (item.sourceIds ≠ [] && pruned valid item.sourceIds = []) }

/-- `_sanitize_review_summary_source_ids`. -/
def sanitizeReviewSummary (valid : List String)
    (summary : ReviewThemeSummary) : ReviewThemeSummary :=
  { summary with
    sourceIds := pruned valid summary.sourceIds
    praiseThemes :=
      summary.praiseThemes.map (sanitizeReviewThemeItem valid)
    complaintThemes :=
      summary.complaintThemes.map (sanitizeReviewThemeItem valid)
    adoptionBlockers :=
      summary.adoptionBlockers.map (sanitizeReviewThemeItem valid)
    switchingTriggers :=
      summary.switchingTriggers.map (sanitizeReviewThemeItem valid) }

/-- `_review_theme_claim_text`. -/
def reviewThemeClaimText (item : ReviewThemeItem) : String :=
  let theme := squeeze item.theme
  let evidence := squeeze item.evidence
  if theme ≠ "" ∧ evidence ≠ "" then theme ++ ": " ++ evidence
  else if theme ≠ "" then theme
  else if evidence ≠ "" then evidence
  else "Review theme"

/-- `_claim_list_confidence`. -/
def claimListConfidence [PyRuntime] (claims : List KnowledgeClaim) : Float :=
  if claims.isEmpty then 0
  else PyRuntime.floatSum (claims.map (·.confidence)) /
    Float.ofNat claims.length

/-- `max`, which keeps the first of equal values. -/
def pyMax (left right : Float) : Float :=
  if left < right then right else left

section

variable [PyRuntime]

def KnowledgeClaim.key (claim : KnowledgeClaim) : String × List String :=
  (casefold claim.claim, claim.sourceIds)

/-- `_claims_with_known_source_ids`. -/
def claimsWithKnownSourceIds (valid : List String)
    (claims : List KnowledgeClaim) : List KnowledgeClaim :=
  distinctBy KnowledgeClaim.key
    (claims.filterMap (claimWithKnownSourceIds valid))

mutual

/-- `_sanitize_feature_node_source_ids`. -/
def sanitizeFeatureNode (valid : List String) : FeatureNode → FeatureNode
  | .mk name description claims children =>
      .mk name description (claimsWithKnownSourceIds valid claims)
        (sanitizeFeatureNodes valid children)

def sanitizeFeatureNodes (valid : List String) :
    List FeatureNode → List FeatureNode
  | [] => []
  | node :: nodes =>
      sanitizeFeatureNode valid node :: sanitizeFeatureNodes valid nodes

end

/-- `_sanitize_pricing_model_source_ids`. -/
def sanitizePricingModel (valid : List String) (model : PricingModel) :
    PricingModel :=
  { notes := claimsWithKnownSourceIds valid model.notes
    tiers := model.tiers.map fun tier =>
      { tier with claims := claimsWithKnownSourceIds valid tier.claims } }

/-- `_sanitize_persona_model_source_ids`. -/
def sanitizePersonaModel (valid : List String) (personas : UserPersonaModel) :
    UserPersonaModel :=
  { summaryClaims := claimsWithKnownSourceIds valid personas.summaryClaims
    segments := personas.segments.map fun segment =>
      { segment with
        claims := claimsWithKnownSourceIds valid segment.claims } }

/-- `_sanitize_feature_tree_source_ids`. -/
def sanitizeFeatureTree (valid : List String) (tree : FeatureTree) :
    FeatureTree :=
  { summaryClaims := claimsWithKnownSourceIds valid tree.summaryClaims
    nodes := sanitizeFeatureNodes valid tree.nodes }

namespace KnowledgeSlot

def sanitize (valid : List String) (knowledge : CompetitorKnowledge) :
    KnowledgeSlot → CompetitorKnowledge
  | pricingModel =>
      { knowledge with
        pricingModel := sanitizePricingModel valid knowledge.pricingModel }
  | userPersonas =>
      { knowledge with
        userPersonas := sanitizePersonaModel valid knowledge.userPersonas }
  | featureTree =>
      { knowledge with
        featureTree := sanitizeFeatureTree valid knowledge.featureTree }

@[simp] theorem sanitize_reviewSummary (valid : List String)
    (knowledge : CompetitorKnowledge) (slot : KnowledgeSlot) :
    (slot.sanitize valid knowledge).reviewSummary =
      knowledge.reviewSummary := by
  cases slot <;> rfl

end KnowledgeSlot

/-- `_sanitize_structured_knowledge_slice_sources`. -/
def sanitizeSliceSources (valid : List String) (dimension : String)
    (sanitizeReview : Bool) (knowledge : CompetitorKnowledge) :
    CompetitorKnowledge :=
  let reviewed : CompetitorKnowledge :=
    if sanitizeReview then
      { knowledge with
        reviewSummary := sanitizeReviewSummary valid knowledge.reviewSummary }
    else knowledge
  if valid = [] then reviewed
  else
    { (knowledgeSlot dimension).sanitize valid reviewed with
      sourceIds := reviewed.sourceIds.filter (· ∈ valid) }

/-- `_review_summary_claims`. -/
def reviewSummaryClaims (summary : ReviewThemeSummary) :
    List KnowledgeClaim :=
  distinctBy KnowledgeClaim.key
    ((summary.themeItems.filter (·.sourceIds ≠ [])).map fun item =>
      { claim := reviewThemeClaimText item
        sourceIds := mergeOrderedRefs [item.sourceIds]
        confidence := item.confidence })

/-- `_structured_claims_for_dimension`. -/
def structuredClaims (dimension : String) (knowledge : CompetitorKnowledge) :
    List KnowledgeClaim :=
  (knowledgeSlot dimension).claims knowledge ++
    if dimensionUsesReviewSummary dimension then
      reviewSummaryClaims knowledge.reviewSummary
    else []

/-- The claims of a dimension do not depend on the shared fields. -/
@[simp] theorem structuredClaims_shared (dimension : String)
    (knowledge : CompetitorKnowledge) (ids : List String)
    (confidence : Float) :
    structuredClaims dimension
        { knowledge with sourceIds := ids, confidence := confidence } =
      structuredClaims dimension knowledge := by
  simp [structuredClaims]

/-! ## The two ways to finish a branch -/

/-- Write the payload's section into the slot of the dimension. -/
def mergeSection (rules : ExtractionRules) (sources : List RawSource)
    (competitor dimension : String) (payload : StructuredPayload)
    (knowledge : CompetitorKnowledge) : CompetitorKnowledge :=
  match knowledgeSlot dimension with
  | .pricingModel =>
      match payload.pricingModel with
      | .absent => knowledge
      | .invalid => { knowledge with pricingModel := {} }
      | .validated model =>
          { knowledge with
            pricingModel :=
              { model with tiers := rules.pricingTiers sources model } }
  | .userPersonas =>
      match payload.userPersonas with
      | .absent => knowledge
      | .invalid => { knowledge with userPersonas := {} }
      | .validated personas =>
          { knowledge with
            userPersonas :=
              { personas with
                segments :=
                  rules.personaSegments sources competitor personas } }
  | .featureTree =>
      match payload.featureTree with
      | .absent => knowledge
      | .invalid => { knowledge with featureTree := {} }
      | .validated tree =>
          { knowledge with
            featureTree :=
              { tree with
                nodes := tree.nodes ++ rules.featureNodes sources tree } }

/-- The summary built from the sources: community clusters first. -/
def builtReview (rules : ExtractionRules) (sources : List RawSource)
    (competitor dimension : String) : ReviewThemeSummary :=
  let community := rules.communityReview competitor dimension sources
  if community.hasCitedItems then community
  else rules.sourceReview competitor dimension sources

/-- The review summary after a payload, and whether it changed. -/
def mergedReview (rules : ExtractionRules) (sources : List RawSource)
    (competitor dimension : String) (payload : StructuredPayload)
    (previous : ReviewThemeSummary) : ReviewThemeSummary × Bool :=
  let usesReview := dimensionUsesReviewSummary dimension
  let built := builtReview rules sources competitor dimension
  let given :=
    match payload.reviewSummary with
    | some summary => (summary, true)
    | none => if usesReview then (built, true) else (previous, false)
  if usesReview && given.1.themeItems.isEmpty && built.hasCitedItems then
    (built, true)
  else given

/-- The knowledge after the section and the review summary of a payload have
been written and sanitised. -/
def sanitizedPayload (rules : ExtractionRules) (detail : RunDetail)
    (competitor dimension : String) (payload : StructuredPayload)
    (knowledge : CompetitorKnowledge) : CompetitorKnowledge :=
  let sources := sourcesForCompetitorDimension detail competitor dimension
  let review :=
    mergedReview rules sources competitor dimension payload
      knowledge.reviewSummary
  sanitizeSliceSources
    (sourceIdsForCompetitorDimension detail competitor dimension) dimension
    review.2
    { mergeSection rules sources competitor dimension payload knowledge with
      reviewSummary := review.1 }

/-- `_merge_structured_knowledge_payload`: the new value of
`detail.competitor_knowledge[competitor]`. -/
def mergeStructuredKnowledgePayload (rules : ExtractionRules)
    (detail : RunDetail) (competitor dimension : String)
    (payload : StructuredPayload) (knowledge : CompetitorKnowledge) :
    CompetitorKnowledge :=
  let sanitized :=
    sanitizedPayload rules detail competitor dimension payload knowledge
  let claims := structuredClaims dimension sanitized
  { sanitized with
    sourceIds :=
      mergeOrderedRefs [sanitized.sourceIds, claims.flatMap (·.sourceIds)]
    confidence := claimListConfidence claims }

/-- The review summary a cache entry brings along. -/
def cachedReview (rules : ExtractionRules) (detail : RunDetail)
    (competitor dimension : String) (cached : CompetitorKnowledge) :
    ReviewThemeSummary :=
  let sanitized :=
    sanitizeReviewSummary
      (sourceIdsForCompetitorDimension detail competitor dimension)
      cached.reviewSummary
  let rebuilt :=
    rules.sourceReview competitor dimension
      (sourcesForCompetitorDimension detail competitor dimension)
  if !sanitized.hasCitedItems && rebuilt.hasCitedItems then rebuilt
  else sanitized

/-- The knowledge after the slot and the review summary of a cache entry have
been copied and sanitised. -/
def sanitizedEntry (rules : ExtractionRules) (detail : RunDetail)
    (competitor dimension : String) (cached knowledge : CompetitorKnowledge) :
    CompetitorKnowledge :=
  let usesReview := dimensionUsesReviewSummary dimension
  sanitizeSliceSources
    (sourceIdsForCompetitorDimension detail competitor dimension) dimension
    usesReview
    { (knowledgeSlot dimension).copyFrom cached knowledge with
      reviewSummary :=
        if usesReview then
          cachedReview rules detail competitor dimension cached
        else knowledge.reviewSummary }

/-- `_apply_kb_cache_entry`: the new value of
`detail.competitor_knowledge[competitor]`. -/
def applyKbCacheEntry (rules : ExtractionRules) (detail : RunDetail)
    (competitor dimension : String) (entry : KBCacheEntry)
    (knowledge : CompetitorKnowledge) : CompetitorKnowledge :=
  let valid := sourceIdsForCompetitorDimension detail competitor dimension
  let sanitized :=
    sanitizedEntry rules detail competitor dimension entry.knowledge knowledge
  { sanitized with
    sourceIds :=
      (mergeOrderedRefs
        [sanitized.sourceIds, valid, entry.knowledge.sourceIds]).filter
        (· ∈ valid)
    confidence :=
      pyMax (pyMax sanitized.confidence entry.knowledge.confidence)
        entry.confidence }

section

variable (rules : ExtractionRules) (detail : RunDetail)
variable (competitor dimension : String) (knowledge : CompetitorKnowledge)

theorem structuredClaims_mergePayload (payload : StructuredPayload) :
    structuredClaims dimension
        (mergeStructuredKnowledgePayload rules detail competitor dimension
          payload knowledge) =
      structuredClaims dimension
        (sanitizedPayload rules detail competitor dimension payload
          knowledge) := by
  rw [mergeStructuredKnowledgePayload, structuredClaims_shared]

theorem mergePayload_sourceIds (payload : StructuredPayload) :
    (mergeStructuredKnowledgePayload rules detail competitor dimension
        payload knowledge).sourceIds =
      mergeOrderedRefs
        [(sanitizedPayload rules detail competitor dimension payload
            knowledge).sourceIds,
          (structuredClaims dimension
            (sanitizedPayload rules detail competitor dimension payload
              knowledge)).flatMap (·.sourceIds)] :=
  rfl

theorem structuredClaims_applyKbCacheEntry (entry : KBCacheEntry) :
    structuredClaims dimension
        (applyKbCacheEntry rules detail competitor dimension entry
          knowledge) =
      structuredClaims dimension
        (sanitizedEntry rules detail competitor dimension entry.knowledge
          knowledge) := by
  rw [applyKbCacheEntry, structuredClaims_shared]

theorem mem_applyKbCacheEntry_sourceIds {entry : KBCacheEntry} {id : String} :
    id ∈ (applyKbCacheEntry rules detail competitor dimension entry
        knowledge).sourceIds ↔
      id ∈ mergeOrderedRefs
          [(sanitizedEntry rules detail competitor dimension entry.knowledge
              knowledge).sourceIds,
            sourceIdsForCompetitorDimension detail competitor dimension,
            entry.knowledge.sourceIds] ∧
        id ∈ sourceIdsForCompetitorDimension detail competitor dimension := by
  simp [applyKbCacheEntry]

end

end

end CompetiScope
