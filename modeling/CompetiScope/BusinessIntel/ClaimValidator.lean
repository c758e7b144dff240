import CompetiScope.Foundation.Collections
import CompetiScope.Identity.StableIds
import CompetiScope.Schema.Enterprise
import Mathlib.Data.Rat.Floor

/-!
# Validating the claims of a project

A claim is scored by how well its usable evidence supports its text, how good
that evidence is and how many sources it comes from.  The scores are exact
rationals that are rounded to points.
-/

namespace CompetiScope

open Foundation

/-! ## Scores -/

/-- `round`, which rounds halves to even numbers. -/
def roundHalfEven (value : Rat) : Int :=
  let below := ⌊value⌋
  if value - below < 1 / 2 then below
  else if 1 / 2 < value - below then below + 1
  else if below % 2 = 0 then below
  else below + 1

/-- `f"{value:.2f}"` of a number that is not negative. -/
def twoDecimals (value : Rat) : String :=
  let cents := (roundHalfEven (100 * value)).toNat
  toString (cents / 100) ++ "." ++ toString (cents / 10 % 10) ++
    toString (cents % 10)

/-- What the validator reads of texts and URLs: the sorted, case-folded
matches of `HIGH_RISK_CLAIM_RE`, `extract_structured_fact_positions` and the
case-folded network location of a URL. -/
structure ClaimLibrary where
  sha256Hex : String → String
  riskMatches : String → List String
  factPositions : String → String → List (String × String)
  netloc : String → String

def stopwords : List String :=
  ["a", "an", "and", "as", "by", "for", "from", "has", "in", "is", "it",
    "of", "on", "or", "the", "to", "with"]

/-- `[a-z0-9一-鿿]` under `re.IGNORECASE`. -/
def isClaimTokenChar (char : Char) : Bool :=
  char.isAlphanum || (0x4E00 ≤ char.toNat && char.toNat ≤ 0x9FFF) ||
    char.toNat ∈ [0x130, 0x131, 0x17F, 0x212A]

/-- `_tokens`. -/
def claimTokens [PyRuntime] (value : String) : List String :=
  orderedUnique
    ((((value.toList.splitOnP (! isClaimTokenChar ·)).filter
      (· ≠ [])).map fun token => casefold (String.ofList token)).filter
        fun token => 1 < token.length && token ∉ stopwords)

/-- The text of a record a claim is compared with. -/
def EvidenceRecord.supportText (item : EvidenceRecord) : String :=
  item.title ++ " " ++ item.snippet ++ " " ++ item.dimension

/-- The best of some scores, and zero. -/
def bestScore (scores : List Rat) : Rat :=
  scores.foldl max 0

/-- `_support_score`. -/
def textSupportScore [PyRuntime] (claim : ClaimRecord)
    (evidence : List EvidenceRecord) : Int :=
  let wanted := claimTokens claim.claimText
  if evidence = [] then 0
  else if wanted = [] then 0
  else
    roundHalfEven (100 * bestScore (evidence.map fun item =>
      let found := claimTokens item.supportText
      let overlap : Rat :=
        (wanted.filter (· ∈ found)).length / max wanted.length 1
      let qualityBoost : Rat :=
        if item.qualityLabel = .accepted then 15 / 100 else 0
      let confidenceBoost := min item.reliabilityScore 1 * (15 / 100)
      min (overlap + qualityBoost + confidenceBoost) 1))

/-- What a quality label adds to a record's score. -/
def EvidenceQualityLabel.boost : EvidenceQualityLabel → Rat
  | .accepted => 16 / 100
  | .unreviewed => 4 / 100
  | .rejected => -35 / 100
  | .stale => -35 / 100

/-- `_evidence_quality_score`. -/
def evidenceQualityScore (evidence : List EvidenceRecord) : Int :=
  if evidence = [] then 0
  else
    roundHalfEven (100 * bestScore (evidence.map fun item =>
      let sourceBoost : Rat :=
        if item.sourceType = "webpage_verified" then 18 / 100 else 0
      min (max (item.reliabilityScore + sourceBoost +
        item.qualityLabel.boost) 0) 1))

/-- `_evidence_domain`. -/
def evidenceDomain (library : ClaimLibrary) (item : EvidenceRecord) :
    String :=
  let raw :=
    if item.url.getD "" ≠ "" then item.url.getD "" else item.canonicalUrl
  if raw = "" then item.rawSourceId else library.netloc raw

/-- `_triangulation_score`. -/
def triangulationScore (library : ClaimLibrary)
    (evidence : List EvidenceRecord) : Int :=
  let domains := orderedUnique
    ((evidence.map (evidenceDomain library)).filter (· ≠ ""))
  let verified := (evidence.filter
    (·.sourceType = "webpage_verified")).length
  if evidence = [] then 0
  else if 2 ≤ domains.length ∧ 2 ≤ verified then 100
  else if 2 ≤ evidence.length ∧ 1 ≤ verified then 85
  else if 1 ≤ verified then 70
  else 45

/-- `_self_consistency_score`. -/
def selfConsistencyScore (text quality triangulation : Int) : Int :=
  roundHalfEven (text * (5 / 10) + quality * (3 / 10) +
    triangulation * (2 / 10))

/-! ## Contradictions -/

def supportingPhrases : List String :=
  [" has ", " supports ", " includes ", " provides ", " offers ",
    " is available", " enterprise-ready", " soc 2", " sso", " saml",
    " audit log"]

def contradictionMarkers : List String :=
  ["does not support", "not supported", "no sso", "no saml",
    "not available", "not yet available", "removed", "deprecated",
    "cannot provide", "doesn't include", "does not include"]

/-- `_has_structured_position_conflict`: an area both speak of, with no
position in common. -/
def positionsConflict (claimed found : List (String × String)) : Bool :=
  claimed.any fun position =>
    found.any (·.1 = position.1) &&
      (found.filter (·.1 = position.1)).all fun other =>
        (position.1, other.2) ∉ claimed

/-- `_structured_conflicting_evidence_ids`. -/
def structuredConflictIds (library : ClaimLibrary) (claim : ClaimRecord)
    (evidence : List EvidenceRecord) : List String :=
  let claimed := library.factPositions claim.claimText claim.claimType
  if claimed = [] then []
  else
    (evidence.filter fun item =>
      positionsConflict claimed
        (library.factPositions (item.title ++ " " ++ item.snippet)
          item.dimension)).map (·.id)

/-- `_conflicting_evidence_ids`. -/
def conflictingEvidenceIds [PyRuntime] (library : ClaimLibrary)
    (claim : ClaimRecord) (evidence : List EvidenceRecord) : List String :=
  let structured := structuredConflictIds library claim evidence
  if structured ≠ [] then structured
  else if ¬ supportingPhrases.any
      (contains (casefold claim.claimText)) then []
  else
    (evidence.filter fun item =>
      contradictionMarkers.any
        (contains (casefold (item.title ++ " " ++ item.snippet)))).map (·.id)

/-! ## Results -/

inductive ClaimValidationStatus where
  | supported
  | weak
  | unsupported
  | blocked
  deriving DecidableEq

inductive ClaimRiskStatus where
  | notApplicable
  | supported
  | weakSupport
  | conflicting
  | unsupported
  deriving DecidableEq

inductive RecommendedAction where
  | none
  | collectEvidence
  | humanReview
  | downgradeClaim
  | deleteClaim
  deriving DecidableEq

inductive ClaimIssueType where
  | missingEvidence
  | staleOrRejectedEvidence
  | conflictingEvidence
  | weakTextSupport
  | lowEvidenceQuality
  | singleSourceSupport
  | lowConfidence
  | lowSelfConsistency
  deriving DecidableEq

namespace ClaimIssueType

def value : ClaimIssueType → String
  | .missingEvidence => "missing_evidence"
  | .staleOrRejectedEvidence => "stale_or_rejected_evidence"
  | .conflictingEvidence => "conflicting_evidence"
  | .weakTextSupport => "weak_text_support"
  | .lowEvidenceQuality => "low_evidence_quality"
  | .singleSourceSupport => "single_source_support"
  | .lowConfidence => "low_confidence"
  | .lowSelfConsistency => "low_self_consistency"

/-- The severity and the message of an issue. -/
def blocks : ClaimIssueType → Bool
  | .missingEvidence => true
  | .staleOrRejectedEvidence => true
  | .conflictingEvidence => true
  | _ => false

def message : ClaimIssueType → String
  | .missingEvidence =>
      "Claim has no usable evidence after quality filtering."
  | .staleOrRejectedEvidence =>
      "Claim has no usable evidence after quality filtering."
  | .conflictingEvidence => "Usable evidence appears to contradict the claim."
  | .weakTextSupport =>
      "Evidence text has weak lexical support for the claim."
  | .lowEvidenceQuality =>
      "Usable evidence is present, but source quality is too weak for " ++
        "confident reporting."
  | .singleSourceSupport =>
      "High-risk or comparative claim should be supported by multiple " ++
        "independent sources."
  | .lowConfidence =>
      "Claim confidence is below the enterprise review threshold."
  | .lowSelfConsistency =>
      "Claim failed the multi-check consistency threshold across text, " ++
        "source quality, and triangulation."

end ClaimIssueType

structure ClaimValidationIssue where
  id : String
  claimId : String
  issueType : ClaimIssueType
  evidenceIds : List String
  deriving DecidableEq

/-- A check of a score against a threshold. -/
structure ClaimValidationSample where
  checker : String
  score : Int
  threshold : Int
  evidenceIds : List String
  deriving DecidableEq

def ClaimValidationSample.passed (sample : ClaimValidationSample) : Bool :=
  sample.threshold ≤ sample.score

structure ClaimValidationResult where
  claimId : String
  status : ClaimValidationStatus
  validationStatus : ClaimRiskStatus
  highRisk : Bool
  riskReasons : List String
  recommendedAction : RecommendedAction
  supportScore : Int
  textSupportScore : Int
  evidenceQualityScore : Int
  triangulationScore : Int
  validationSamples : List ClaimValidationSample
  usableEvidenceIds : List String
  issueIds : List String
  deriving DecidableEq

structure ClaimValidationReport where
  projectId : String
  results : List ClaimValidationResult
  issues : List ClaimValidationIssue

section Validation

variable [PyRuntime] (library : ClaimLibrary)

/-- The last of the records with an id. -/
def evidenceById (evidence : List EvidenceRecord) (id : String) :
    Option EvidenceRecord :=
  evidence.reverse.find? (·.id = id)

/-- `BAD_QUALITY_LABELS`. -/
def EvidenceQualityLabel.isBad : EvidenceQualityLabel → Bool
  | .rejected => true
  | .stale => true
  | .accepted => false
  | .unreviewed => false

/-- The evidence of a claim that is neither rejected nor stale. -/
def usableEvidence (claim : ClaimRecord) (evidence : List EvidenceRecord) :
    List EvidenceRecord :=
  (claim.evidenceIds.filterMap (evidenceById evidence)).filter
    (! ·.qualityLabel.isBad)

/-- `_risk_reasons`. -/
def riskReasons (claim : ClaimRecord) : List String :=
  (library.riskMatches (claim.claimText ++ " " ++ claim.claimType)).map
      ("matched:" ++ ·) ++
    if claim.confidence < 55 / 100 then ["low_confidence_claim"] else []

/-- `_issue`. -/
def claimIssue (claimId : String) (issueType : ClaimIssueType)
    (evidenceIds : List String) : ClaimValidationIssue :=
  { id := stablePrefixedId library.sha256Hex "claim-validation-issue"
      [.text claimId, .text issueType.value] 16
    claimId := claimId
    issueType := issueType
    evidenceIds := evidenceIds }

/-- The first complaint about the evidence of a claim. -/
def evidenceIssue (claim : ClaimRecord) (usable : List EvidenceRecord) :
    Option ClaimValidationIssue :=
  let usableIds := usable.map (·.id)
  let conflicts := conflictingEvidenceIds library claim usable
  if claim.evidenceIds = [] then
    some (claimIssue library claim.id .missingEvidence claim.evidenceIds)
  else if usable = [] then
    some (claimIssue library claim.id .staleOrRejectedEvidence
      claim.evidenceIds)
  else if conflicts ≠ [] then
    some (claimIssue library claim.id .conflictingEvidence conflicts)
  else if textSupportScore claim usable < 40 then
    some (claimIssue library claim.id .weakTextSupport usableIds)
  else if evidenceQualityScore usable < 55 then
    some (claimIssue library claim.id .lowEvidenceQuality usableIds)
  else if library.riskMatches (claim.claimText ++ " " ++ claim.claimType) ≠
        [] ∧ triangulationScore library usable < 90 then
    some (claimIssue library claim.id .singleSourceSupport usableIds)
  else none

/-- The score of a claim. -/
def claimSupportScore (claim : ClaimRecord) (usable : List EvidenceRecord) :
    Int :=
  selfConsistencyScore (textSupportScore claim usable)
    (evidenceQualityScore usable) (triangulationScore library usable)

/-- The issues of a claim, in order. -/
def claimIssues (claim : ClaimRecord) (usable : List EvidenceRecord) :
    List ClaimValidationIssue :=
  let usableIds := usable.map (·.id)
  (evidenceIssue library claim usable).toList ++
    (if claim.confidence < 55 / 100 then
      [claimIssue library claim.id .lowConfidence usableIds] else []) ++
    if claimSupportScore library claim usable < 55 ∧ usable ≠ [] then
      [claimIssue library claim.id .lowSelfConsistency usableIds] else []

/-- The status of a claim. -/
def claimStatus (claim : ClaimRecord) (usable : List EvidenceRecord) :
    ClaimValidationStatus :=
  let score := claimSupportScore library claim usable
  if claim.evidenceIds = [] ∨ usable = [] then .blocked
  else if conflictingEvidenceIds library claim usable ≠ [] then .unsupported
  else if 75 ≤ score ∧ claimIssues library claim usable = [] then .supported
  else if 55 ≤ score then .weak
  else .unsupported

/-- `_validation_status`. -/
def claimRiskStatus (highRisk : Bool) (status : ClaimValidationStatus)
    (hasIssues hasConflict : Bool) : ClaimRiskStatus :=
  if ! highRisk then .notApplicable
  else if hasConflict then .conflicting
  else if status = .blocked ∨ status = .unsupported then .unsupported
  else if hasIssues then .weakSupport
  else .supported

/-- `_recommended_action`. -/
def recommendedAction (status : ClaimRiskStatus) (hasIssues : Bool) :
    RecommendedAction :=
  match status with
  | .notApplicable => .none
  | .supported => .none
  | .conflicting => .humanReview
  | .unsupported => if hasIssues then .collectEvidence else .deleteClaim
  | .weakSupport => .downgradeClaim

/-- `_consistency_samples`. -/
def consistencySamples (text quality triangulation : Int)
    (usableIds : List String) : List ClaimValidationSample :=
  [{ checker := "text_support"
     score := text
     threshold := 70
     evidenceIds := usableIds },
    { checker := "evidence_quality"
      score := quality
      threshold := 75
      evidenceIds := usableIds },
    { checker := "triangulation"
      score := triangulation
      threshold := 70
      evidenceIds := usableIds }]

def validateClaim (claim : ClaimRecord) (evidence : List EvidenceRecord) :
    ClaimValidationResult :=
  let usable := usableEvidence claim evidence
  let usableIds := usable.map (·.id)
  let status := claimStatus library claim usable
  let reasons := riskReasons library claim
  let issueIds := (claimIssues library claim usable).map (·.id)
  let riskStatus := claimRiskStatus (reasons ≠ []) status (issueIds ≠ [])
    (conflictingEvidenceIds library claim usable ≠ [])
  { claimId := claim.id
    status := status
    validationStatus := riskStatus
    highRisk := reasons ≠ []
    riskReasons := reasons
    recommendedAction := recommendedAction riskStatus (issueIds ≠ [])
    supportScore := claimSupportScore library claim usable
    textSupportScore := textSupportScore claim usable
    evidenceQualityScore := evidenceQualityScore usable
    triangulationScore := triangulationScore library usable
    validationSamples := consistencySamples (textSupportScore claim usable)
      (evidenceQualityScore usable) (triangulationScore library usable)
      usableIds
    usableEvidenceIds := usableIds
    issueIds := issueIds }

/-- `validate_project_claims`. -/
def validateProjectClaims (projectId : String) (claims : List ClaimRecord)
    (evidence : List EvidenceRecord) : ClaimValidationReport :=
  { projectId := projectId
    results := claims.map fun claim => validateClaim library claim evidence
    issues := claims.flatMap fun claim =>
      claimIssues library claim (usableEvidence claim evidence) }

end Validation

end CompetiScope
