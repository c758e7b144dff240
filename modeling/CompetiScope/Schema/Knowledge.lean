import CompetiScope.Foundation.Json

/-!
# Structured competitor knowledge

The records of `schema/models.py` that analysts write and redo preparation
clears, with the `modelDump(mode="json")` of each.
-/

namespace CompetiScope

open Foundation

structure KnowledgeClaim where
  claim : String
  sourceIds : List String
  confidence : Float := 0

inductive FeatureNode where
  | mk (name description : String) (claims : List KnowledgeClaim)
      (children : List FeatureNode)

namespace FeatureNode

def claims : FeatureNode → List KnowledgeClaim
  | mk _ _ claims _ => claims

end FeatureNode

structure FeatureTree where
  nodes : List FeatureNode := []
  summaryClaims : List KnowledgeClaim := []

structure PricingTier where
  name : String
  price : String := "unknown"
  billingCycle : String := "unknown"
  limits : List String := []
  claims : List KnowledgeClaim := []

structure PricingModel where
  tiers : List PricingTier := []
  notes : List KnowledgeClaim := []

structure UserPersonaSegment where
  name : String
  role : String := "unknown"
  companySize : String := "unknown"
  painPoints : List String := []
  useCases : List String := []
  claims : List KnowledgeClaim := []

structure UserPersonaModel where
  segments : List UserPersonaSegment := []
  summaryClaims : List KnowledgeClaim := []

structure ReviewThemeItem where
  theme : String
  evidence : String := ""
  sourceIds : List String := []
  confidence : Float := 0
  evidenceGap : Bool := false

structure ReviewThemeSummary where
  competitor : String := ""
  dimension : String := "review"
  praiseThemes : List ReviewThemeItem := []
  complaintThemes : List ReviewThemeItem := []
  adoptionBlockers : List ReviewThemeItem := []
  switchingTriggers : List ReviewThemeItem := []
  personaSegments : List String := []
  sentimentHint : String := "unknown"
  sourceIds : List String := []
  confidence : Float := 0

structure SWOTItem where
  text : String
  sourceIds : List String := []
  confidence : Float := 0
  evidenceGap : Bool := false

structure SWOTAnalysis where
  competitor : String := ""
  strengths : List SWOTItem := []
  weaknesses : List SWOTItem := []
  opportunities : List SWOTItem := []
  threats : List SWOTItem := []
  sourceIds : List String := []
  confidence : Float := 0

structure CompetitorKnowledge where
  competitor : String
  featureTree : FeatureTree := {}
  pricingModel : PricingModel := {}
  userPersonas : UserPersonaModel := {}
  reviewSummary : ReviewThemeSummary := {}
  swotAnalysis : SWOTAnalysis := {}
  sourceIds : List String := []
  confidence : Float := 0

structure CompetitorKB where
  competitor : String
  slices : Dict String (List String) := ∅
  sources : List String := []
  confidence : Float := 0

/-! ## JSON dumps -/

def KnowledgeClaim.toJson (claim : KnowledgeClaim) : Json :=
  .obj [("claim", .str claim.claim),
    ("source_ids", .strings claim.sourceIds),
    ("confidence", .float claim.confidence)]

def claimsJson (claims : List KnowledgeClaim) : Json :=
  .arr (claims.map KnowledgeClaim.toJson)

mutual

def FeatureNode.toJson : FeatureNode → Json
  | .mk name description claims children =>
      .obj [("name", .str name), ("description", .str description),
        ("claims", claimsJson claims),
        ("children", .arr (featureNodesJson children))]

def featureNodesJson : List FeatureNode → List Json
  | [] => []
  | node :: nodes => node.toJson :: featureNodesJson nodes

end

def FeatureTree.toJson (tree : FeatureTree) : Json :=
  .obj [("nodes", .arr (featureNodesJson tree.nodes)),
    ("summary_claims", claimsJson tree.summaryClaims)]

def PricingTier.toJson (tier : PricingTier) : Json :=
  .obj [("name", .str tier.name), ("price", .str tier.price),
    ("billing_cycle", .str tier.billingCycle),
    ("limits", .strings tier.limits), ("claims", claimsJson tier.claims)]

def PricingModel.toJson (model : PricingModel) : Json :=
  .obj [("tiers", .arr (model.tiers.map PricingTier.toJson)),
    ("notes", claimsJson model.notes)]

def UserPersonaSegment.toJson (segment : UserPersonaSegment) : Json :=
  .obj [("name", .str segment.name), ("role", .str segment.role),
    ("company_size", .str segment.companySize),
    ("pain_points", .strings segment.painPoints),
    ("use_cases", .strings segment.useCases),
    ("claims", claimsJson segment.claims)]

def UserPersonaModel.toJson (personas : UserPersonaModel) : Json :=
  .obj [("segments", .arr (personas.segments.map UserPersonaSegment.toJson)),
    ("summary_claims", claimsJson personas.summaryClaims)]

def ReviewThemeItem.toJson (item : ReviewThemeItem) : Json :=
  .obj [("theme", .str item.theme), ("evidence", .str item.evidence),
    ("source_ids", .strings item.sourceIds),
    ("confidence", .float item.confidence),
    ("evidence_gap", .bool item.evidenceGap)]

def reviewItemsJson (items : List ReviewThemeItem) : Json :=
  .arr (items.map ReviewThemeItem.toJson)

def ReviewThemeSummary.toJson (summary : ReviewThemeSummary) : Json :=
  .obj [("competitor", .str summary.competitor),
    ("dimension", .str summary.dimension),
    ("praise_themes", reviewItemsJson summary.praiseThemes),
    ("complaint_themes", reviewItemsJson summary.complaintThemes),
    ("adoption_blockers", reviewItemsJson summary.adoptionBlockers),
    ("switching_triggers", reviewItemsJson summary.switchingTriggers),
    ("persona_segments", .strings summary.personaSegments),
    ("sentiment_hint", .str summary.sentimentHint),
    ("source_ids", .strings summary.sourceIds),
    ("confidence", .float summary.confidence)]

def SWOTItem.toJson (item : SWOTItem) : Json :=
  .obj [("text", .str item.text), ("source_ids", .strings item.sourceIds),
    ("confidence", .float item.confidence),
    ("evidence_gap", .bool item.evidenceGap)]

def swotItemsJson (items : List SWOTItem) : Json :=
  .arr (items.map SWOTItem.toJson)

def SWOTAnalysis.toJson (analysis : SWOTAnalysis) : Json :=
  .obj [("competitor", .str analysis.competitor),
    ("strengths", swotItemsJson analysis.strengths),
    ("weaknesses", swotItemsJson analysis.weaknesses),
    ("opportunities", swotItemsJson analysis.opportunities),
    ("threats", swotItemsJson analysis.threats),
    ("source_ids", .strings analysis.sourceIds),
    ("confidence", .float analysis.confidence)]

def CompetitorKnowledge.toJson (knowledge : CompetitorKnowledge) : Json :=
  .obj [("competitor", .str knowledge.competitor),
    ("feature_tree", knowledge.featureTree.toJson),
    ("pricing_model", knowledge.pricingModel.toJson),
    ("user_personas", knowledge.userPersonas.toJson),
    ("review_summary", knowledge.reviewSummary.toJson),
    ("swot_analysis", knowledge.swotAnalysis.toJson),
    ("source_ids", .strings knowledge.sourceIds),
    ("confidence", .float knowledge.confidence)]

end CompetiScope
