import CompetiScope.Identity.SourceTokens

/-!
# Structured reports

The report as the writer's sections return it, before it is rendered.  What
the schema checks of a value when it is built is a field of the value.
-/

namespace CompetiScope

open Foundation

/-! ## Source tokens in a text -/

/-- A match of `SOURCE_TOKEN_RE` at the front of a text: what stands between
the colon and the closing bracket, and the text after the bracket. -/
def citationAt : List Char → Option (List Char × List Char)
  | [] => none
  | char :: text =>
      if char = '[' then
        match sourceKeyword text with
        | none => none
        | some body =>
            match body.takeWhile (· ≠ ']'), body.dropWhile (· ≠ ']') with
            | first :: others, _ :: rest => some (first :: others, rest)
            | _, _ => none
      else none

/-- `SOURCE_TOKEN_RE.search` finds a match. -/
def hasCitation : List Char → Bool
  | [] => false
  | char :: text => (citationAt (char :: text)).isSome || hasCitation text

/-- `has_source_token`. -/
def hasSourceToken (text : String) : Bool :=
  hasCitation text.toList

/-! ## Cited texts -/

inductive Confidence where
  | high
  | medium
  | low
  deriving DecidableEq

inductive EvidenceRole where
  | officialFact
  | communitySignal
  | simulatedResearch
  | inference
  | evidenceGap
  deriving DecidableEq

/-- What `_clean_source_ids` returns. -/
structure CleanSourceIds (sourceIds : List String) : Prop where
  trimmed : ∀ id ∈ sourceIds, strip id = id
  filled : ∀ id ∈ sourceIds, id ≠ ""
  distinct : sourceIds.Nodup

/-- A text without white space around it and without source tokens. -/
structure PlainText (text : String) : Prop where
  trimmed : strip text = text
  filled : text ≠ ""
  plain : hasSourceToken text = false

structure CitedText where
  text : String
  sourceIds : List String
  confidence : Confidence
  evidenceRole : EvidenceRole
  textIsPlain : PlainText text
  idsAreClean : CleanSourceIds sourceIds
  citedUnlessGap : evidenceRole ≠ .evidenceGap → sourceIds ≠ []
  gapNotHigh : evidenceRole = .evidenceGap → confidence ≠ .high
  deriving DecidableEq

structure CompetitorPosture where
  competitor : String
  posture : CitedText
  named : competitor ≠ ""
  deriving DecidableEq

structure ExecutiveSummarySection where
  recommendation : CitedText
  riskAdjustedRationale : CitedText
  competitorPostures : List CompetitorPosture
  confidenceBoundary : CitedText
  nextActions : List CitedText
  hasPostures : competitorPostures ≠ []
  hasActions : nextActions ≠ []
  deriving DecidableEq

structure CompetitorUserTheme where
  competitor : String
  directUserSignals : List CitedText := []
  simulatedResearchSignals : List CitedText := []
  adoptionBlockers : List CitedText := []
  switchingTriggers : List CitedText := []
  evidenceGaps : List CitedText := []
  named : competitor ≠ ""
  deriving DecidableEq

structure UserReviewThemesSection where
  competitorThemes : List CompetitorUserTheme
  crossCompetitorPatterns : List CitedText := []
  evidenceLimits : List CitedText := []
  hasThemes : competitorThemes ≠ []
  deriving DecidableEq

structure CompetitorDeepDiveSection where
  competitor : String
  positioning : List CitedText := []
  pricingPackaging : List CitedText := []
  featureCapabilities : List CitedText := []
  personaAdoption : List CitedText := []
  communityFeedback : List CitedText := []
  competitivePlays : List CitedText := []
  evidenceGaps : List CitedText := []
  named : competitor ≠ ""
  deriving DecidableEq

structure MatrixCell where
  competitor : String
  summary : String
  sourceIds : List String := []
  confidence : Confidence
  named : competitor ≠ ""
  summaryIsPlain : PlainText summary
  idsAreClean : CleanSourceIds sourceIds
  deriving DecidableEq

structure MatrixDimensionRow where
  dimension : String
  cells : List MatrixCell
  named : dimension ≠ ""
  hasCells : cells ≠ []
  deriving DecidableEq

structure DecisionMatrixSection where
  dimensions : List MatrixDimensionRow
  interpretation : List CitedText := []
  confidenceNotes : List CitedText := []
  hasDimensions : dimensions ≠ []
  deriving DecidableEq

structure CompetitorSwot where
  competitor : String
  strengths : List CitedText := []
  weaknesses : List CitedText := []
  opportunities : List CitedText := []
  threats : List CitedText := []
  named : competitor ≠ ""
  deriving DecidableEq

structure SwotSection where
  competitors : List CompetitorSwot
  hasCompetitors : competitors ≠ []
  deriving DecidableEq

structure BattlecardPlay where
  competitor : String
  targetBuyer : String
  useWhen : CitedText
  attackPoints : List CitedText
  defensePoints : List CitedText
  likelyObjections : List CitedText
  rebuttalTalkTracks : List CitedText
  proofNeededBeforeExternalUse : List CitedText
  named : competitor ≠ ""
  hasBuyer : targetBuyer ≠ ""
  hasAttackPoints : attackPoints ≠ []
  hasDefensePoints : defensePoints ≠ []
  hasObjections : likelyObjections ≠ []
  hasRebuttals : rebuttalTalkTracks ≠ []
  hasProofNeeded : proofNeededBeforeExternalUse ≠ []
  deriving DecidableEq

structure BattlecardSection where
  plays : List BattlecardPlay := []
  evidenceLimits : List CitedText := []
  deriving DecidableEq

structure SourceAppendixRow where
  sourceId : String
  title : String
  url : String := ""
  competitor : String := ""
  dimension : String := ""
  evidenceRole : EvidenceRole
  confidence : Confidence
  idTrimmed : strip sourceId = sourceId
  idFilled : sourceId ≠ ""
  titleTrimmed : strip title = title
  titleFilled : title ≠ ""
  deriving DecidableEq

@[ext]
structure ReportCore where
  executiveSummary : ExecutiveSummarySection
  decisionSummary : List CitedText
  competitiveFindings : List CitedText
  userReviewThemes : UserReviewThemesSection
  competitorDeepDives : List CompetitorDeepDiveSection
  decisionMatrix : DecisionMatrixSection
  swot : SwotSection
  battlecard : BattlecardSection
  communityTriangulation : List CitedText := []
  hasSummary : decisionSummary ≠ []
  hasFindings : competitiveFindings ≠ []
  hasDeepDives : competitorDeepDives ≠ []
  deriving DecidableEq

structure ReportSupport where
  sourceQuality : List CitedText := []
  userResearchEvidence : List CitedText := []
  ragGapFill : List CitedText := []
  scenarioQa : List CitedText := []
  claimRisk : List CitedText := []
  nextCollection : List CitedText := []
  evidenceAppendix : List SourceAppendixRow := []
  deriving DecidableEq

structure ReportMetadata where
  writerMode : String
  segmentCount : Nat
  sourceCount : Nat
  warnings : List String := []
  structuredReportVersion : String
  hasMode : writerMode ≠ ""
  hasVersion : structuredReportVersion ≠ ""
  deriving DecidableEq

structure StructuredReport where
  outputLanguage : String
  topic : String
  competitors : List String
  dimensions : List String := []
  core : ReportCore
  support : ReportSupport
  metadata : ReportMetadata
  hasLanguage : outputLanguage ≠ ""
  hasTopic : topic ≠ ""
  hasCompetitors : competitors ≠ []

/-! ## Walking the cited texts -/

/-- A cited text with its path. -/
abbrev Walked :=
  List (String × CitedText)

/-- `_walk_cited_text` over the items of a list. -/
def walkItems {Item : Type} (walk : String → Item → Walked) (path : String)
    (items : List Item) : Walked :=
  (items.zipIdx.map fun (item, index) =>
    walk (path ++ "[" ++ toString index ++ "]") item).flatten

/-- `_walk_cited_text` of a cited text. -/
def walkText (path : String) (claim : CitedText) : Walked :=
  [(path, claim)]

def walkTexts : String → List CitedText → Walked :=
  walkItems walkText

def CompetitorPosture.walk (path : String) (posture : CompetitorPosture) :
    Walked :=
  walkText (path ++ ".posture") posture.posture

def ExecutiveSummarySection.walk (path : String)
    (summary : ExecutiveSummarySection) : Walked :=
  walkText (path ++ ".recommendation") summary.recommendation ++
    walkText (path ++ ".risk_adjusted_rationale")
      summary.riskAdjustedRationale ++
    walkItems CompetitorPosture.walk (path ++ ".competitor_postures")
      summary.competitorPostures ++
    walkText (path ++ ".confidence_boundary") summary.confidenceBoundary ++
    walkTexts (path ++ ".next_actions") summary.nextActions

def CompetitorUserTheme.walk (path : String) (theme : CompetitorUserTheme) :
    Walked :=
  walkTexts (path ++ ".direct_user_signals") theme.directUserSignals ++
    walkTexts (path ++ ".simulated_research_signals")
      theme.simulatedResearchSignals ++
    walkTexts (path ++ ".adoption_blockers") theme.adoptionBlockers ++
    walkTexts (path ++ ".switching_triggers") theme.switchingTriggers ++
    walkTexts (path ++ ".evidence_gaps") theme.evidenceGaps

def UserReviewThemesSection.walk (path : String)
    (themes : UserReviewThemesSection) : Walked :=
  walkItems CompetitorUserTheme.walk (path ++ ".competitor_themes")
      themes.competitorThemes ++
    walkTexts (path ++ ".cross_competitor_patterns")
      themes.crossCompetitorPatterns ++
    walkTexts (path ++ ".evidence_limits") themes.evidenceLimits

def CompetitorDeepDiveSection.walk (path : String)
    (dive : CompetitorDeepDiveSection) : Walked :=
  walkTexts (path ++ ".positioning") dive.positioning ++
    walkTexts (path ++ ".pricing_packaging") dive.pricingPackaging ++
    walkTexts (path ++ ".feature_capabilities") dive.featureCapabilities ++
    walkTexts (path ++ ".persona_adoption") dive.personaAdoption ++
    walkTexts (path ++ ".community_feedback") dive.communityFeedback ++
    walkTexts (path ++ ".competitive_plays") dive.competitivePlays ++
    walkTexts (path ++ ".evidence_gaps") dive.evidenceGaps

def DecisionMatrixSection.walk (path : String)
    (matrix : DecisionMatrixSection) : Walked :=
  walkTexts (path ++ ".interpretation") matrix.interpretation ++
    walkTexts (path ++ ".confidence_notes") matrix.confidenceNotes

def CompetitorSwot.walk (path : String) (swot : CompetitorSwot) : Walked :=
  walkTexts (path ++ ".strengths") swot.strengths ++
    walkTexts (path ++ ".weaknesses") swot.weaknesses ++
    walkTexts (path ++ ".opportunities") swot.opportunities ++
    walkTexts (path ++ ".threats") swot.threats

def SwotSection.walk (path : String) (swot : SwotSection) : Walked :=
  walkItems CompetitorSwot.walk (path ++ ".competitors") swot.competitors

def BattlecardPlay.walk (path : String) (play : BattlecardPlay) : Walked :=
  walkText (path ++ ".use_when") play.useWhen ++
    walkTexts (path ++ ".attack_points") play.attackPoints ++
    walkTexts (path ++ ".defense_points") play.defensePoints ++
    walkTexts (path ++ ".likely_objections") play.likelyObjections ++
    walkTexts (path ++ ".rebuttal_talk_tracks") play.rebuttalTalkTracks ++
    walkTexts (path ++ ".proof_needed_before_external_use")
      play.proofNeededBeforeExternalUse

def BattlecardSection.walk (path : String) (battlecard : BattlecardSection) :
    Walked :=
  walkItems BattlecardPlay.walk (path ++ ".plays") battlecard.plays ++
    walkTexts (path ++ ".evidence_limits") battlecard.evidenceLimits

def ReportCore.walk (path : String) (core : ReportCore) : Walked :=
  core.executiveSummary.walk (path ++ ".executive_summary") ++
    walkTexts (path ++ ".decision_summary") core.decisionSummary ++
    walkTexts (path ++ ".competitive_findings") core.competitiveFindings ++
    core.userReviewThemes.walk (path ++ ".user_review_themes") ++
    walkItems CompetitorDeepDiveSection.walk
      (path ++ ".competitor_deep_dives") core.competitorDeepDives ++
    core.decisionMatrix.walk (path ++ ".decision_matrix") ++
    core.swot.walk (path ++ ".swot") ++
    core.battlecard.walk (path ++ ".battlecard") ++
    walkTexts (path ++ ".community_triangulation")
      core.communityTriangulation

end CompetiScope
