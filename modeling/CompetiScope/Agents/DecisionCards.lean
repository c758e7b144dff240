import CompetiScope.Agents.KnowledgeSlots
import CompetiScope.Identity.IdentityKeys
import Mathlib.Algebra.Order.Ring.Rat

/-!
# Decision cards

The comparator turns the claim cards of the analysts and its matrix into
decision cards: one for each dimension with supported claims, and one over all
of them.  Confidences are rationals here.  The bounds and the checks that the
schema makes of a card are fields of it.
-/

namespace CompetiScope

open Foundation

inductive EvidenceStrength where
  | insufficient
  | weak
  | moderate
  | strong
  deriving DecidableEq

/-- `_EVIDENCE_RANK`. -/
def EvidenceStrength.rank : EvidenceStrength → Nat
  | .insufficient => 0
  | .weak => 1
  | .moderate => 2
  | .strong => 3

/-- `_EVIDENCE_BY_RANK`. -/
def EvidenceStrength.ofRank : Nat → EvidenceStrength
  | 0 => .insufficient
  | 1 => .weak
  | 2 => .moderate
  | _ => .strong

inductive ClaimSupportLevel where
  | official
  | triangulatedCommunity
  | singleSource
  | simulated
  | inferred
  | gap
  deriving DecidableEq

structure ClaimCard where
  id : String
  competitor : String
  dimension : String
  sourceIds : List String
  confidence : Rat
  evidenceStrength : EvidenceStrength
  supportLevel : ClaimSupportLevel
  bounded : 0 ≤ confidence ∧ confidence ≤ 1
  sourced : evidenceStrength ≠ .insufficient → sourceIds ≠ []
  gapUnlessSourced : sourceIds = [] → supportLevel = .gap
  gapInsufficient : supportLevel = .gap → evidenceStrength = .insufficient
  deriving DecidableEq

structure ClaimCardBundle where
  competitor : String
  dimension : String
  cards : List ClaimCard := []

/-- A `ComparisonCell`. -/
structure RatedCell where
  competitor : String
  dimension : String
  value : String
  sourceIds : List String := []
  confidence : Rat := 0
  deriving DecidableEq

/-- A `ComparisonMatrix`. -/
structure RatedMatrix where
  competitors : List String
  dimensions : List String
  cells : List RatedCell := []
  winnerByDimension : Dict String String := ∅
  summary : List String := []
  deriving DecidableEq

inductive DecisionCardType where
  | dimensionWinner
  | overallRecommendation
  | riskAdjustedRecommendation
  | whyNot
  | battlecardPosition
  | swotInterpretation
  deriving DecidableEq

def DecisionCardType.text : DecisionCardType → String
  | .dimensionWinner => "dimension_winner"
  | .overallRecommendation => "overall_recommendation"
  | .riskAdjustedRecommendation => "risk_adjusted_recommendation"
  | .whyNot => "why_not"
  | .battlecardPosition => "battlecard_position"
  | .swotInterpretation => "swot_interpretation"

inductive DecisionPosture where
  | strong
  | tentative
  | watch
  | avoid
  | insufficientEvidence
  deriving DecidableEq

/-- `dimensions` are the ones the metadata names: the dimension of a card, the
supported dimensions of an overall recommendation, and the ones of the cards
an overall risk-adjusted card is built from. -/
structure DecisionCard where
  id : String
  runId : String
  decisionType : DecisionCardType
  subject : String
  recommendation : String
  posture : DecisionPosture
  rationale : String
  claimCardIds : List String
  sourceIds : List String
  winner : Option String
  alternatives : List String
  whyNot : Dict String String
  riskFactors : List String
  evidenceStrength : EvidenceStrength
  confidence : Rat
  dimensions : List String
  supported : claimCardIds ≠ []
  strongSupported : posture = .strong →
    evidenceStrength = .strong ∨ evidenceStrength = .moderate
  bounded : 0 ≤ confidence ∧ confidence ≤ 1

/-- An entry of `coverage_by_dimension`. -/
structure DimensionCoverage where
  winner : Option String
  supportedClaimCardCount : Nat
  sourceIds : List String
  decisionCardEligible : Bool
  deriving DecidableEq

structure DecisionCardBundle where
  runId : String
  cards : List DecisionCard
  matrixSnapshot : RatedMatrix
  coverageByDimension : Dict String DimensionCoverage
  recommendationCardId : Option String
  overallWinnerCounts : Dict String Nat
  overallWinnerTie : Bool
  overallWinnerSplit : Bool

/-! ## Supported claims -/

/-- Not a gap, and with sources. -/
def ClaimCard.isSupported (card : ClaimCard) : Bool :=
  card.supportLevel ≠ .gap && !card.sourceIds.isEmpty

def supportedClaims (claimBundles : List ClaimCardBundle) : List ClaimCard :=
  (claimBundles.flatMap (·.cards)).filter (·.isSupported)

/-- `_supported_claims_by_key`. -/
def supportedClaimsByKey (claimBundles : List ClaimCardBundle) :
    Dict (String × String) (List ClaimCard) :=
  (supportedClaims claimBundles).foldl
    (fun claims card => claims.set (card.competitor, card.dimension)
      (claims.getD (card.competitor, card.dimension) [] ++ [card])) ∅

/-- The claims of `_supported_claims_by_dimension`. -/
def claimsOfDimension (claims : Dict (String × String) (List ClaimCard))
    (dimension : String) : List ClaimCard :=
  (claims.entries.filter fun entry => entry.1.2 = dimension).flatMap Prod.snd

/-! ## Strength, confidence and posture -/

/-- `_aggregate_evidence_strength`. -/
def aggregateEvidenceStrength (claims : List ClaimCard) : EvidenceStrength :=
  if claims = [] then .insufficient
  else
    .ofRank ((claims.map fun claim => claim.evidenceStrength.rank).foldl
      max 0)

/-- `_overall_evidence_strength`. -/
def overallEvidenceStrength (cards : List DecisionCard) : EvidenceStrength :=
  if cards = [] then .insufficient
  else
    .ofRank ((cards.map fun card => card.evidenceStrength.rank).foldl min 3)

def clamp (value : Rat) : Rat :=
  max 0 (min 1 value)

/-- `_average`. -/
def average (values : List Rat) : Rat :=
  if values = [] then 0 else clamp (values.sum / values.length)

/-- `_decision_confidence`. -/
def decisionConfidence (claims : List ClaimCard) (cell : Option RatedCell) :
    Rat :=
  let confidence := average (claims.map (·.confidence))
  clamp
    (match cell with
    | some cell =>
        if 0 < cell.confidence then min confidence cell.confidence
        else confidence
    | none => confidence)

/-- `_FALLBACK_CONFIDENCE_CAP`. -/
def fallbackConfidenceCap : Rat :=
  74 / 100

/-- `_cap_confidence`. -/
def capConfidence (confidence : Rat) (fallbackUsed : Bool) : Rat :=
  if fallbackUsed then min (clamp confidence) fallbackConfidenceCap
  else clamp confidence

/-- `evidence_strength in {"moderate", "strong"}`. -/
def EvidenceStrength.isFirm (strength : EvidenceStrength) : Bool :=
  strength = .moderate || strength = .strong

/-- `_posture_for_decision`. -/
def postureForDecision (strength : EvidenceStrength) (confidence : Rat)
    (fallbackUsed : Bool) : DecisionPosture :=
  if fallbackUsed then if strength.isFirm then .tentative else .watch
  else if strength.isFirm ∧ 8 / 10 ≤ confidence then .strong
  else if strength = .insufficient then .insufficientEvidence
  else .tentative

/-- `_overall_posture_for_decision`. -/
def overallPostureForDecision (supportingCards : List DecisionCard)
    (strength : EvidenceStrength) (confidence : Rat) (fallbackUsed : Bool) :
    DecisionPosture :=
  let posture := postureForDecision strength confidence fallbackUsed
  if posture = .strong ∧ ¬ ∀ card ∈ supportingCards,
      card.evidenceStrength = .strong ∧ card.posture = .strong then
    .tentative
  else posture

/-- `_risk_factors`. -/
def riskFactors (strength : EvidenceStrength) (fallbackUsed : Bool)
    (sourceCount : Nat) : List String :=
  (if fallbackUsed then
      ["Comparator used deterministic fallback; treat posture as non-strong."]
    else []) ++
    (if strength = .weak ∨ strength = .insufficient then
      ["Supporting claim-card evidence is limited."]
    else []) ++
    (if sourceCount < 2 then
      ["Decision is supported by fewer than two source IDs."]
    else [])

theorem clamp_bounded (value : Rat) : 0 ≤ clamp value ∧ clamp value ≤ 1 :=
  ⟨le_max_left 0 _, max_le zero_le_one (min_le_left 1 value)⟩

theorem capConfidence_bounded (confidence : Rat) (fallbackUsed : Bool) :
    0 ≤ capConfidence confidence fallbackUsed ∧
      capConfidence confidence fallbackUsed ≤ 1 := by
  obtain ⟨notNegative, atMostOne⟩ := clamp_bounded confidence
  unfold capConfidence
  split
  · have cap : (0 : Rat) ≤ fallbackConfidenceCap := by decide +kernel
    exact ⟨le_min notNegative cap, (min_le_left _ _).trans atMostOne⟩
  · exact ⟨notNegative, atMostOne⟩

theorem postureForDecision_strong {strength : EvidenceStrength}
    {confidence : Rat} {fallbackUsed : Bool}
    (strong : postureForDecision strength confidence fallbackUsed = .strong) :
    fallbackUsed = false ∧ (strength = .strong ∨ strength = .moderate) := by
  unfold postureForDecision at strong
  cases fallbackUsed with
  | true =>
      rw [if_pos rfl] at strong
      split at strong
      · cases strong
      · cases strong
  | false =>
      rw [if_neg (by decide)] at strong
      split at strong
      · next firm =>
          have isFirm := firm.1
          simp only [EvidenceStrength.isFirm, Bool.or_eq_true,
            decide_eq_true_eq] at isFirm
          exact ⟨rfl, isFirm.symm⟩
      · split at strong
        · cases strong
        · cases strong

theorem overallPostureForDecision_strong {cards : List DecisionCard}
    {strength : EvidenceStrength} {confidence : Rat} {fallbackUsed : Bool}
    (strong : overallPostureForDecision cards strength confidence
      fallbackUsed = .strong) :
    postureForDecision strength confidence fallbackUsed = .strong := by
  unfold overallPostureForDecision at strong
  dsimp only at strong
  split at strong
  · cases strong
  · exact strong

/-! ## Cards -/

/-- `_slug`. -/
def slug [PyRuntime] (value : String) : String :=
  let text := trimMarks '-' (replaceRuns (fun char => !isKeyChar char) '-'
    false (casefold (strip value)).toList)
  if text = [] then "unknown" else String.ofList text

/-- `_decision_card_id`. -/
def decisionCardId [PyRuntime] (sha256Hex : String → String) (runId : String)
    (decisionType : DecisionCardType) (subject winner : String) : String :=
  let digest := sha256Hex (String.intercalate "|"
    [runId, decisionType.text, subject, winner])
  "decision-" ++ slug decisionType.text ++ "-" ++ slug subject ++ "-" ++
    slug winner ++ "-" ++ String.ofList (digest.toList.take 10)

/-- The reason each alternative was not chosen. -/
def reasonsAgainst (alternatives : List String) (reason : String) :
    Dict String String :=
  alternatives.foldl (fun reasons competitor => reasons.set competitor reason)
    ∅

def plural (count : Nat) : String :=
  if count = 1 then "" else "s"

/-- `winner and winner.casefold() != "tie"`. -/
def isDecided [PyRuntime] (winner : Option String) : Bool :=
  match winner with
  | none => false
  | some winner => winner ≠ "" && casefold winner ≠ "tie"

section Cards

variable [PyRuntime] (sha256Hex : String → String) (runId : String)
  (fallbackUsed : Bool)

/-- `_dimension_winner_card` of a claim and the ones behind it. -/
def dimensionWinnerCard (dimension winner : String)
    (competitors : List String) (claim : ClaimCard)
    (claims : List ClaimCard) (cell : Option RatedCell) : DecisionCard :=
  let claims := claim :: claims
  let sourceIds := mergeOrderedRefs [claims.flatMap (·.sourceIds)]
  let strength := aggregateEvidenceStrength claims
  let confidence :=
    capConfidence (decisionConfidence claims cell) fallbackUsed
  let alternatives := competitors.filter (· ≠ winner)
  { id := decisionCardId sha256Hex runId .dimensionWinner dimension winner
    runId := runId
    decisionType := .dimensionWinner
    subject := dimension
    recommendation := "Prefer " ++ winner ++ " for " ++ dimension ++ "."
    posture := postureForDecision strength confidence fallbackUsed
    rationale :=
      winner ++ " is the supported winner for " ++ dimension ++
        " based on " ++ toString claims.length ++ " analyst claim card" ++
        plural claims.length ++ "."
    claimCardIds := claims.map (·.id)
    sourceIds := sourceIds
    winner := some winner
    alternatives := alternatives
    whyNot := reasonsAgainst alternatives
      ("No supported " ++ dimension ++ " win over " ++ winner ++ ".")
    riskFactors := riskFactors strength fallbackUsed sourceIds.length
    evidenceStrength := strength
    confidence := confidence
    dimensions := [dimension]
    supported := List.cons_ne_nil _ _
    strongSupported := fun strong => (postureForDecision_strong strong).2
    bounded := capConfidence_bounded _ _ }

/-- `_dimension_risk_adjusted_card` of a claim and the ones behind it. -/
def dimensionRiskAdjustedCard (dimension : String) (winner : Option String)
    (claim : ClaimCard) (claims : List ClaimCard)
    (competitors : List String) : DecisionCard :=
  let claims := claim :: claims
  let sourceIds := mergeOrderedRefs [claims.flatMap (·.sourceIds)]
  let strength := aggregateEvidenceStrength claims
  let confidence :=
    capConfidence (average (claims.map (·.confidence))) fallbackUsed
  let alternatives := competitors.filter
    (· ∈ claims.map (·.competitor))
  let named := winner.getD ""
  { id := decisionCardId sha256Hex runId .riskAdjustedRecommendation
      dimension (if named = "" then "tie" else named)
    runId := runId
    decisionType := .riskAdjustedRecommendation
    subject := dimension
    recommendation :=
      if isDecided winner then
        "Treat " ++ dimension ++ " as unresolved because " ++ named ++
          " lacks enough supported decision-card evidence."
      else
        "Do not treat " ++ dimension ++ " as a single-vendor win; compare " ++
          "the tied competitors against buyer-specific constraints."
    posture := postureForDecision strength confidence fallbackUsed
    rationale :=
      if isDecided winner then
        "The matrix names " ++ named ++ " for " ++ dimension ++
          ", but the comparator cannot support a winner card from analyst " ++
          "claim cards."
      else
        dimension ++ " is tied or unresolved, but " ++
          toString claims.length ++ " supported analyst claim cards are " ++
          "available for risk-adjusted comparison."
    claimCardIds := claims.map (·.id)
    sourceIds := sourceIds
    winner := if isDecided winner then winner else none
    alternatives := alternatives
    whyNot := reasonsAgainst alternatives
      ("No supported " ++ dimension ++ " win over the compared alternatives.")
    riskFactors := riskFactors strength fallbackUsed sourceIds.length ++
      ["Dimension is tied or unresolved; avoid over-weighting it in the " ++
        "overall recommendation."]
    evidenceStrength := strength
    confidence := confidence
    dimensions := [dimension]
    supported := List.cons_ne_nil _ _
    strongSupported := fun strong => (postureForDecision_strong strong).2
    bounded := capConfidence_bounded _ _ }

variable (matrix : RatedMatrix)

/-- The card of a dimension. -/
def dimensionCard (claims : Dict (String × String) (List ClaimCard))
    (dimension : String) : Option DecisionCard :=
  let winner := matrix.winnerByDimension.get? dimension
  if isDecided winner then
    match claims.getD (winner.getD "", dimension) [] with
    | [] => none
    | claim :: others =>
        some (dimensionWinnerCard sha256Hex runId fallbackUsed dimension
          (winner.getD "") matrix.competitors claim others
          -- the cells are a dictionary: the last one of a key counts
          (matrix.cells.reverse.find? fun cell =>
            cell.dimension = dimension ∧
              cell.competitor = winner.getD ""))
  else
    match claimsOfDimension claims dimension with
    | [] => none
    | claim :: others =>
        some (dimensionRiskAdjustedCard sha256Hex runId fallbackUsed
          dimension (winner.filter (· = "")) claim others matrix.competitors)

/-- `_winner_counts`. -/
def winnerCounts (cards : List DecisionCard) : Dict String Nat :=
  (cards.filterMap fun card => card.winner.filter (· ≠ "")).foldl
    (fun counts winner => counts.set winner (counts.getD winner 0 + 1)) ∅

/-- `_single_supported_winner`. -/
def singleSupportedWinner (counts : Dict String Nat) : Option String :=
  match counts.keys with
  | [winner] => some winner
  | _ => none

/-- `_has_top_count_tie`. -/
def hasTopCountTie (counts : Dict String Nat) : Bool :=
  let top := counts.values.foldl max 0
  2 ≤ counts.values.countP (· = top)

/-- `_has_winner_split`. -/
def hasWinnerSplit (counts : Dict String Nat) : Bool :=
  1 < counts.keys.length

/-- The dimensions without a decided winner. -/
def tiedOrUnresolvedDimensions : List String :=
  matrix.dimensions.filter fun dimension =>
    !isDecided (matrix.winnerByDimension.get? dimension)

/-- `_overall_recommendation_card`. -/
def overallRecommendationCard (dimensionCards : List DecisionCard)
    (counts : Dict String Nat) : Option DecisionCard :=
  if dimensionCards = [] then none
  else
    match singleSupportedWinner counts with
    | none => none
    | some winner =>
        let supportingCards :=
          dimensionCards.filter fun card => card.winner = some winner
        let claimCardIds :=
          mergeOrderedRefs [supportingCards.flatMap (·.claimCardIds)]
        if supported : claimCardIds = [] then none
        else
          let sourceIds :=
            mergeOrderedRefs [supportingCards.flatMap (·.sourceIds)]
          let strength := overallEvidenceStrength supportingCards
          let confidence := capConfidence
            (average (supportingCards.map (·.confidence))) fallbackUsed
          let supportedDimensions := supportingCards.map (·.subject)
          let alternatives := matrix.competitors.filter (· ≠ winner)
          some
            { id := decisionCardId sha256Hex runId .overallRecommendation
                "overall" winner
              runId := runId
              decisionType := .overallRecommendation
              subject := "overall"
              recommendation :=
                "Use " ++ winner ++ " as the leading recommendation across " ++
                  String.intercalate ", " supportedDimensions ++ "."
              posture := overallPostureForDecision supportingCards strength
                confidence fallbackUsed
              rationale :=
                winner ++ " has supported comparator wins in " ++
                  toString supportedDimensions.length ++ " dimension" ++
                  plural supportedDimensions.length ++ "."
              claimCardIds := claimCardIds
              sourceIds := sourceIds
              winner := some winner
              alternatives := alternatives
              whyNot := reasonsAgainst alternatives
                (winner ++ " has stronger supported decision-card coverage.")
              riskFactors :=
                riskFactors strength fallbackUsed sourceIds.length
              evidenceStrength := strength
              confidence := confidence
              dimensions := supportedDimensions
              supported := supported
              strongSupported := fun strong => (postureForDecision_strong
                (overallPostureForDecision_strong strong)).2
              bounded := capConfidence_bounded _ _ }

/-- The winner with the most cards, if no other one has as many. -/
def decisiveWinner (counts : Dict String Nat) : Option String :=
  let top := counts.values.foldl max 0
  match counts.entries.filter fun entry => entry.2 = top with
  | [(winner, _)] => some winner
  | _ => none

/-- `_overall_risk_adjusted_card`. -/
def overallRiskAdjustedCard (dimensionCards : List DecisionCard)
    (counts : Dict String Nat) : Option DecisionCard :=
  let tied := tiedOrUnresolvedDimensions matrix
  let claimCardIds :=
    mergeOrderedRefs [dimensionCards.flatMap (·.claimCardIds)]
  if dimensionCards = [] then none
  else if tied = [] then none
  else if supported : claimCardIds = [] then none
  else
    let sourceIds := mergeOrderedRefs [dimensionCards.flatMap (·.sourceIds)]
    let winner := (decisiveWinner counts).filter (· ≠ "")
    let strength := overallEvidenceStrength dimensionCards
    let confidence := capConfidence
      (average (dimensionCards.map (·.confidence))) fallbackUsed
    some
      { id := decisionCardId sha256Hex runId .riskAdjustedRecommendation
          "overall" (winner.getD "tie")
        runId := runId
        decisionType := .riskAdjustedRecommendation
        subject := "overall"
        recommendation :=
          match winner with
          | none =>
              "Do not make a single-tool recommendation yet; at least one " ++
                "requested dimension is tied or unresolved."
          | some winner =>
              "Treat " ++ winner ++ " as a dimension-limited lead, not an " ++
                "overall winner, because other requested dimensions are " ++
                "tied or unresolved."
        posture := .tentative
        rationale :=
          "The comparator has supported claim cards, but requested " ++
            "dimensions remain tied or unresolved: " ++
            String.intercalate ", " tied ++ "."
        claimCardIds := claimCardIds
        sourceIds := sourceIds
        winner := none
        alternatives := matrix.competitors
        whyNot := reasonsAgainst matrix.competitors
          ("Overall recommendation is withheld because requested " ++
            "dimensions are tied or unresolved.")
        riskFactors := riskFactors strength fallbackUsed sourceIds.length ++
          ["At least one requested dimension is tied or unresolved.",
            "A single decisive dimension is insufficient for an overall " ++
              "recommendation."]
        evidenceStrength := strength
        confidence := confidence
        dimensions := dimensionCards.flatMap (·.dimensions)
        supported := supported
        strongSupported := nofun
        bounded := capConfidence_bounded _ _ }

/-- `_coverage_by_dimension`. -/
def coverageByDimension (claims : Dict (String × String) (List ClaimCard)) :
    Dict String DimensionCoverage :=
  matrix.dimensions.foldl
    (fun coverage dimension =>
      let winner := matrix.winnerByDimension.get? dimension
      let dimensionClaims :=
        if isDecided winner then claims.getD (winner.getD "", dimension) []
        else claimsOfDimension claims dimension
      coverage.set dimension
        { winner := winner
          supportedClaimCardCount := dimensionClaims.length
          sourceIds := mergeOrderedRefs [dimensionClaims.flatMap (·.sourceIds)]
          decisionCardEligible := !dimensionClaims.isEmpty }) ∅

variable (claimBundles : List ClaimCardBundle)

/-- The cards of the dimensions. -/
def dimensionCards : List DecisionCard :=
  matrix.dimensions.filterMap (dimensionCard sha256Hex runId fallbackUsed
    matrix (supportedClaimsByKey claimBundles))

/-- The cards of the dimensions that have a supported winner. -/
def dimensionWinnerCards : List DecisionCard :=
  (dimensionCards sha256Hex runId fallbackUsed matrix claimBundles).filter
    fun card => card.decisionType = .dimensionWinner

/-- The card over all dimensions. -/
def overallCard : Option DecisionCard :=
  let cards := dimensionCards sha256Hex runId fallbackUsed matrix claimBundles
  let winners :=
    dimensionWinnerCards sha256Hex runId fallbackUsed matrix claimBundles
  let counts := winnerCounts winners
  let recommendation :=
    if tiedOrUnresolvedDimensions matrix = [] then
      overallRecommendationCard sha256Hex runId fallbackUsed matrix winners
        counts
    else none
  recommendation.or
    (overallRiskAdjustedCard sha256Hex runId fallbackUsed matrix cards counts)

/-- `build_decision_card_bundle`. -/
def buildDecisionCardBundle : DecisionCardBundle :=
  let cards := dimensionCards sha256Hex runId fallbackUsed matrix claimBundles
  let counts := winnerCounts
    (dimensionWinnerCards sha256Hex runId fallbackUsed matrix claimBundles)
  let overall := overallCard sha256Hex runId fallbackUsed matrix claimBundles
  { runId := runId
    cards := cards ++ overall.toList
    matrixSnapshot := matrix
    coverageByDimension := coverageByDimension matrix
      (supportedClaimsByKey claimBundles)
    recommendationCardId := overall.map (·.id)
    overallWinnerCounts := counts
    overallWinnerTie := hasTopCountTie counts
    overallWinnerSplit := hasWinnerSplit counts }

end Cards

end CompetiScope
