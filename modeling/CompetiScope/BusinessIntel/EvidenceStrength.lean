import CompetiScope.Foundation.UrlSyntax
import CompetiScope.Schema.Enterprise
import Mathlib.Data.Rat.Defs
import Mathlib.Algebra.Order.Field.Rat

/-!
# Evidence strength

What kind of report language a record of evidence can support.  Reading its
URL may raise, and then nothing is classified.
-/

namespace CompetiScope

open Foundation

/-- `EvidenceStrength`. -/
inductive EvidenceStrengthLevel where
  | highConfidenceVerified
  | verifiedWebpage
  | secondaryVerified
  | qualitativeSignal
  | syntheticSignal
  | weakUnreviewed
  | blockedOrInvalid
  deriving DecidableEq

/-- `HIGH_CONFIDENCE_SOURCE_TYPES`. -/
def highConfidenceSourceTypes : List String :=
  ["official", "official_docs", "official_pricing", "official_site",
    "official_api", "pricing_page", "trust_center"]

/-- `VERIFIED_SOURCE_TYPES`. -/
def verifiedSourceTypes : List String :=
  highConfidenceSourceTypes ++ ["webpage_verified", "review_site", "news"]

/-- `QUALITATIVE_SOURCE_TYPES`. -/
def qualitativeSourceTypes : List String :=
  ["interview_record", "manual_transcript", "manual_note", "manual",
    "survey_response"]

/-- `SYNTHETIC_SOURCE_TYPES`. -/
def syntheticSourceTypes : List String :=
  ["survey_simulated", "llm_public_knowledge"]

/-- `POLICY_BLOCKING_STATUSES`. -/
def policyBlockingStatuses : List String :=
  ["blocked", "error", "rejected"]

/-- The double next to 0.9. -/
def highConfidenceFloor : Rat := 8106479329266893 / 9007199254740992

def verifiedFloor : Rat := 3 / 4

structure EvidenceStrengthDecision where
  evidenceId : String
  sourceType : String
  strength : EvidenceStrengthLevel
  confidence : Rat
  qualityLabel : EvidenceQualityLabel
  reason : String
  deriving DecidableEq

/-- `can_support_strong_report_section`. -/
def EvidenceStrengthDecision.canSupportStrongReportSection
    (decision : EvidenceStrengthDecision) : Bool :=
  decision.strength ∈
    [EvidenceStrengthLevel.highConfidenceVerified, .verifiedWebpage]

/-- `_evidence_id`. -/
def policyEvidenceId (evidence : EvidenceRecord) : String :=
  if strip evidence.id ≠ "" then strip evidence.id
  else strip evidence.rawSourceId

/-- `_confidence`. -/
def evidenceConfidence (evidence : EvidenceRecord) : Rat :=
  max 0 (min 1 evidence.reliabilityScore)

/-- The canonical URL or the URL. -/
def evidenceUrl (evidence : EvidenceRecord) : String :=
  if strip evidence.canonicalUrl ≠ "" then strip evidence.canonicalUrl
  else strip (evidence.url.getD "")

section Strength

variable [PyRuntime] [UrlTables]

/-- `_policy_status`. -/
def policyStatus (metadata : Dict String MetadataValue) (key : String) :
    String :=
  let value := metadata.get? key
  let value :=
    if MetadataValue.truthy value then value
    else metadata.get? ("source_" ++ key)
  casefold (strip (MetadataValue.textOf value))

/-- `_is_public_web_url`, or nothing when the URL cannot be parsed. -/
def isPublicWebUrl (evidence : EvidenceRecord) : Option Bool :=
  match urlparse (evidenceUrl evidence).toList with
  | .error _ => none
  | .ok parsed =>
      some (parsed.scheme ∈ ["http".toList, "https".toList] &&
        parsed.netloc ≠ [])

/-- `classify_evidence_strength`. -/
def classifyEvidenceStrength (evidence : EvidenceRecord) :
    Option EvidenceStrengthDecision :=
  let sourceType := casefold (strip evidence.sourceType)
  let confidence := evidenceConfidence evidence
  let qualityLabel := evidence.qualityLabel
  let robotsStatus := policyStatus evidence.metadata "robots_status"
  let policyReviewStatus :=
    policyStatus evidence.metadata "policy_review_status"
  let decided := fun (strength : EvidenceStrengthLevel) (reason : String) =>
    ({ evidenceId := policyEvidenceId evidence
       sourceType := sourceType
       strength := strength
       confidence := confidence
       qualityLabel := qualityLabel
       reason := reason } : EvidenceStrengthDecision)
  if qualityLabel = .rejected ∨ qualityLabel = .stale ∨
      robotsStatus ∈ policyBlockingStatuses ∨
      policyReviewStatus ∈ policyBlockingStatuses then
    some (decided .blockedOrInvalid
      "Evidence is rejected, stale, robots-blocked, or policy-blocked.")
  else if sourceType ∈ syntheticSourceTypes then
    some (decided .syntheticSignal
      "Synthetic or model/public-knowledge evidence is directional only.")
  else if sourceType ∈ qualitativeSourceTypes then
    if verifiedFloor ≤ confidence ∧ qualityLabel = .accepted then
      some (decided .qualitativeSignal
        "Reviewed user-research evidence can support qualitative caveats only.")
    else
      some (decided .weakUnreviewed
        "User-research evidence is low-confidence or unreviewed.")
  else if evidenceUrl evidence = "" then
    some (decided .weakUnreviewed
      "Factual evidence without a URL cannot support strong report language.")
  else if sourceType ∈ highConfidenceSourceTypes ∧
      highConfidenceFloor ≤ confidence then
    some (decided .highConfidenceVerified
      "Official or trust source with high confidence.")
  else if sourceType ∈ verifiedSourceTypes ∧ verifiedFloor ≤ confidence then
    some (decided .verifiedWebpage
      "Verified webpage evidence meets the release confidence floor.")
  else
    match isPublicWebUrl evidence with
    | none => none
    | some isPublic =>
        if isPublic ∧ verifiedFloor ≤ confidence then
          some (decided .secondaryVerified
            ("Secondary public web evidence can support non-strong factual " ++
              "context."))
        else
          some (decided .weakUnreviewed
            ("Evidence does not meet verified-source or confidence " ++
              "requirements."))

/-- `evidence_can_support_strong_report_section`. -/
def evidenceCanSupportStrongReportSection (evidence : EvidenceRecord) :
    Option Bool :=
  (classifyEvidenceStrength evidence).map
    (·.canSupportStrongReportSection)

end Strength

end CompetiScope
