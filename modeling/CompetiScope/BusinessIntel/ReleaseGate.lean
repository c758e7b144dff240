import CompetiScope.BusinessIntel.ClaimValidator
import CompetiScope.Enterprise.AuditTrail
import CompetiScope.Enterprise.EvidenceLifecycle
import CompetiScope.Identity.SourceResolver

/-!
# The release gate of a report

A report version may be approved or published when none of the checks of the
gate finds a blocker.  The checks of its evidence, its claims and its source
markers are spelled out; the ones that other packages make, of the structure
and the prose of the report, of its run and of its project, are parameters.
-/

namespace CompetiScope

open Foundation

/-! ## Findings -/

inductive FindingSeverity where
  | info
  | warn
  | blocker
  deriving DecidableEq

structure BusinessQAFinding where
  id : String
  ruleId : String
  ruleName : String
  severity : FindingSeverity
  competitorId : Option String := none
  competitorName : Option String := none
  dimension : Option String := none
  message : String
  evidenceIds : List String := []
  claimIds : List String := []
  recommendation : String := ""
  deriving DecidableEq

inductive ReadinessRiskLevel where
  | ready
  | watch
  | atRisk
  | blocked
  deriving DecidableEq

def ReadinessRiskLevel.value : ReadinessRiskLevel → String
  | .ready => "ready"
  | .watch => "watch"
  | .atRisk => "at_risk"
  | .blocked => "blocked"

structure ProjectReadinessScore where
  score : Nat
  riskLevel : ReadinessRiskLevel
  deriving DecidableEq

/-- What is read of a cluster of community claims. -/
structure CommunityCluster where
  label : String
  confidence : Option Rat
  sourceCount : Nat
  independentDomainCount : Option Int
  deriving DecidableEq

/-- The parts of the gate that are not modelled: `urlparse`, the clusters in
the metadata of a record, `_apply_report_competitor_metadata` and the checks
of other packages. -/
structure GateLibrary extends ClaimLibrary where
  hostname : String → String
  communityClusters : EvidenceRecord → List CommunityCluster
  withCompetitorMetadata : ReportVersionRecord → List CompetitorRecord →
    List CompetitorRecord
  businessQa : ProjectRecord → List CompetitorRecord → List EvidenceRecord →
    List ClaimRecord → List BusinessQAFinding
  projectReadiness : ProjectRecord → List BusinessQAFinding →
    List CompetitorRecord → List EvidenceRecord → List ClaimRecord →
      ProjectReadinessScore
  structureIssues : ReportVersionRecord → List BusinessQAFinding
  richnessIssues : ReportVersionRecord → List CompetitorRecord →
    List EvidenceRecord → List String → List BusinessQAFinding
  citationQualityIssues : ReportVersionRecord → List EvidenceRecord →
    List BusinessQAFinding
  runQualityIssues : ReportVersionRecord → List BusinessQAFinding

/-! ## Texts of the findings -/

namespace ClaimValidationStatus

def value : ClaimValidationStatus → String
  | .supported => "supported"
  | .weak => "weak"
  | .unsupported => "unsupported"
  | .blocked => "blocked"

/-- The statuses that block a release. -/
def blocksRelease : ClaimValidationStatus → Bool
  | .blocked => true
  | .unsupported => true
  | .supported => false
  | .weak => false

end ClaimValidationStatus

def ClaimRiskStatus.value : ClaimRiskStatus → String
  | .notApplicable => "not_applicable"
  | .supported => "supported"
  | .weakSupport => "weak_support"
  | .conflicting => "conflicting"
  | .unsupported => "unsupported"

def RecommendedAction.value : RecommendedAction → String
  | .none => "none"
  | .collectEvidence => "collect_evidence"
  | .humanReview => "human_review"
  | .downgradeClaim => "downgrade_claim"
  | .deleteClaim => "delete_claim"

def SourcePolicyReviewStatus.value : SourcePolicyReviewStatus → String
  | .notRequired => "not_required"
  | .pending => "pending"
  | .approved => "approved"
  | .rejected => "rejected"

section Gate

variable [PyRuntime] (library : GateLibrary)

/-- `_gate_issue`, of a finding that blocks. -/
def gateIssue (ruleId ruleName message recommendation : String)
    (evidenceIds claimIds : List String) : BusinessQAFinding :=
  { id := stablePrefixedId library.sha256Hex "release-gate"
      [.text ruleId, .text message, .texts evidenceIds, .texts claimIds] 16
    ruleId := ruleId
    ruleName := ruleName
    severity := .blocker
    message := message
    evidenceIds := evidenceIds
    claimIds := claimIds
    recommendation := recommendation }

/-! ## What the report is about -/

/-- `_scope_evidence`. -/
def scopeEvidence (version : ReportVersionRecord)
    (evidence : List EvidenceRecord) : List EvidenceRecord :=
  evidence.filter fun item => item.id ∈ version.evidenceIds

/-- `_scope_claims`. -/
def scopeClaims (version : ReportVersionRecord) (claims : List ClaimRecord) :
    List ClaimRecord :=
  claims.filter fun item => item.id ∈ version.claimIds

/-- `_source_registry_key`. -/
def gateRegistryKey (item : EvidenceRecord) : String × String × String :=
  let url :=
    if item.canonicalUrl ≠ "" then item.canonicalUrl else item.url.getD ""
  let domain := (casefold (library.hostname url)).toList
  let bare :=
    if "www.".toList.isPrefixOf domain then domain.drop 4 else domain
  (item.workspaceId, String.ofList bare, casefold item.sourceType)

/-- The registry entry of a record: by the id it names, else by its key. -/
def registryEntry (registry : List SourceRegistryRecord)
    (item : EvidenceRecord) : Option SourceRegistryRecord :=
  let named :=
    MetadataValue.textOf (item.metadata.get? "source_registry_id")
  (registry.reverse.find? (·.id = named)).or
    (registry.reverse.find? fun entry =>
      (entry.workspaceId, casefold entry.domain, casefold entry.sourceType) =
        gateRegistryKey library item)

/-- The metadata of a record with the decisions of its registry entry. -/
def registryMetadata (entry : SourceRegistryRecord)
    (metadata : Dict String MetadataValue) : Dict String MetadataValue :=
  let reviewed :=
    if entry.policyReviewStatus ≠ .notRequired then
      metadata.set "policy_review_status"
        (.text entry.policyReviewStatus.value)
    else metadata
  let reasoned :=
    if entry.policyReviewReason ≠ "" then
      reviewed.set "policy_review_reason" (.text entry.policyReviewReason)
    else reviewed
  let robots :=
    if entry.robotsStatus ≠ .unknown then
      reasoned.set "robots_status" (.text entry.robotsStatus.value)
    else reasoned
  robots.set "source_registry_id" (.text entry.id)

/-- `_apply_source_registry_policy`. -/
def applySourceRegistryPolicy (registry : List SourceRegistryRecord)
    (evidence : List EvidenceRecord) : List EvidenceRecord :=
  evidence.map fun item =>
    match registryEntry library registry item with
    | none => item
    | some entry =>
        { item with metadata := registryMetadata entry item.metadata }

/-! ## Checks of the report -/

/-- `_report_status_issues`. -/
def reportStatusIssues (version : ReportVersionRecord) :
    List BusinessQAFinding :=
  if version.status = .rejected ∨ version.status = .archived then
    [gateIssue library "report_status_releasable" "Report status releasable"
      ("Report version status is " ++ version.status.value ++
        "; it cannot be released.")
      ("Create a new draft or restart approval before publishing this " ++
        "report.") [] []]
  else []

/-- The evidence ids of a claim that are outside of the report. -/
def outsideEvidenceIds (evidence : List EvidenceRecord)
    (claim : ClaimRecord) : List String :=
  claim.evidenceIds.filter (· ∉ evidence.map (·.id))

/-- The finding of a claim with evidence outside of the report. -/
def outsideEvidenceFinding (evidence : List EvidenceRecord)
    (claim : ClaimRecord) : BusinessQAFinding :=
  gateIssue library "claim_evidence_in_report"
    "Claim evidence must be in report"
    ("Claim " ++ claim.id ++ " cites evidence outside this report version.")
    "Attach the cited evidence to this report or remove the claim."
    (outsideEvidenceIds evidence claim) [claim.id]

/-- `_report_integrity_issues`. -/
def reportIntegrityIssues (version : ReportVersionRecord)
    (evidence : List EvidenceRecord) (claims : List ClaimRecord) :
    List BusinessQAFinding :=
  (if strip version.reportMd = "" then
    [gateIssue library "report_body_required" "Report body required"
      ("Report body is empty; approval is blocked until a readable report " ++
        "exists.")
      "Regenerate the report after evidence and claims are available." [] []]
  else []) ++
  (if evidence = [] then
    [gateIssue library "report_evidence_required" "Report evidence required"
      "Report version has no scoped evidence records."
      ("Collect and attach verified EvidenceRecord items before " ++
        "approval.") [] []]
  else []) ++
  (if claims = [] then
    [gateIssue library "report_claim_required" "Report claims required"
      "Report version has no scoped knowledge claims."
      ("Project structured claims from accepted evidence before " ++
        "approval.") [] []]
  else []) ++
  (claims.filter (outsideEvidenceIds evidence · ≠ [])).map
    (outsideEvidenceFinding library evidence)

/-- `_report_depth_issues`. -/
def reportDepthIssues (version : ReportVersionRecord) :
    List BusinessQAFinding :=
  if 900 ≤ (strip version.reportMd).length then []
  else
    [gateIssue library "report_depth_required" "Report depth required"
      ("Report body has " ++ toString (strip version.reportMd).length ++
        " character(s); enterprise release requires at least 900 " ++
        "characters of decision-grade analysis.")
      ("Regenerate or revise the report with concrete evidence-backed " ++
        "analysis, tradeoffs, risk notes, and next validation tasks " ++
        "before release.") [] []]

/-! ## Checks of the evidence -/

/-- `_source_policy_review_status`. -/
def gatePolicyReviewStatus (item : EvidenceRecord) :
    SourcePolicyReviewStatus :=
  let given := casefold
    (metadataEither item "policy_review_status"
      "source_policy_review_status")
  if given = "pending" then .pending
  else if given = "approved" then .approved
  else if given = "rejected" then .rejected
  else .notRequired

/-- Whether a review of the source of a record is open or was lost. -/
def awaitsPolicyReview (item : EvidenceRecord) : Bool :=
  gatePolicyReviewStatus item = .pending ||
    gatePolicyReviewStatus item = .rejected ||
    (sourceRobotsStatus item).restricted

def CommunityCluster.isReleaseGrade (cluster : CommunityCluster) : Bool :=
  (cluster.label = "official_confirmed" ||
    cluster.label = "community_triangulated") &&
  (match cluster.confidence with
    | none => false
    | some confidence => (7 / 10 : Rat) ≤ confidence) &&
  (cluster.label = "official_confirmed" || 2 ≤ cluster.sourceCount ||
    (match cluster.independentDomainCount with
      | none => false
      | some count => 2 ≤ count))

/-- `_has_release_grade_community_cluster`. -/
def hasReleaseGradeCommunityCluster (item : EvidenceRecord) : Bool :=
  (library.communityClusters item).any (·.isReleaseGrade)

def communityReleaseGradeSourceTypes : List String :=
  ["github_discussion", "github_issue", "community_forum", "reddit_thread",
    "review_site", "developer_blog"]

/-- `MIN_RELEASE_SOURCE_CONFIDENCE`. -/
def minReleaseSourceConfidence : Rat :=
  75 / 100

/-- `_is_release_grade_evidence`. -/
def isReleaseGradeEvidence (minReliabilityScore : Rat)
    (item : EvidenceRecord) : Bool :=
  if item.qualityLabel.isBad ∨
      item.reliabilityScore < minReliabilityScore then false
  else if item.sourceType = "webpage_verified" then true
  else if item.sourceType ∉ communityReleaseGradeSourceTypes then false
  else if item.reliabilityScore < minReleaseSourceConfidence then false
  else hasReleaseGradeCommunityCluster library item

/-- `_is_release_grade_rate_candidate`. -/
def isReleaseGradeRateCandidate (item : EvidenceRecord) : Bool :=
  item.sourceType = "webpage_verified" ||
    (item.sourceType ∈ communityReleaseGradeSourceTypes &&
      hasReleaseGradeCommunityCluster library item)

/-- The value that is the only one of its kind. -/
def soleText (values : List String) : Option String :=
  match orderedUnique (values.filter (· ≠ "")) with
  | [value] => some value
  | _ => none

/-- The name of the last competitor with an id. -/
def competitorNameById (competitors : List CompetitorRecord)
    (competitorId : String) : Option String :=
  (competitors.reverse.find? (·.id = competitorId)).map (·.name)

/-- A finding with the scope of `_issue_scope_from_evidence`. -/
def BusinessQAFinding.scopedTo (finding : BusinessQAFinding)
    (evidence : List EvidenceRecord) (competitors : List CompetitorRecord) :
    BusinessQAFinding :=
  let competitorId := soleText (evidence.map (·.competitorId))
  { finding with
    competitorId := competitorId
    competitorName := competitorId.bind (competitorNameById competitors)
    dimension := soleText (evidence.map (·.dimension)) }

/-- The evidence the release-grade rate is taken of. -/
def releaseGradeDenominator (evidence : List EvidenceRecord) :
    List EvidenceRecord :=
  let candidates := evidence.filter (isReleaseGradeRateCandidate library)
  if candidates ≠ [] then candidates else evidence

def releaseGradeRate (evidence : List EvidenceRecord) : Rat :=
  let denominator := releaseGradeDenominator library evidence
  (denominator.filter (isReleaseGradeEvidence library (5 / 10))).length /
    denominator.length

/-- `_source_quality_issues`. -/
def sourceQualityIssues (evidence : List EvidenceRecord)
    (competitors : List CompetitorRecord) : List BusinessQAFinding :=
  let awaiting := evidence.filter awaitsPolicyReview
  let statuses := sortedSet (awaiting.map fun item =>
    item.id ++ ":policy=" ++ (gatePolicyReviewStatus item).value ++
      ",robots=" ++ (sourceRobotsStatus item).value)
  let denominator := releaseGradeDenominator library evidence
  let rate := releaseGradeRate library evidence
  if evidence = [] then []
  else
    (if awaiting = [] then []
    else
      [(gateIssue library "source_policy_review_required"
        "Source policy review required"
        ("Report evidence includes source(s) that are pending or " ++
          "rejected by robots/source policy review: " ++
          String.intercalate "; " statuses ++ ".")
        ("Resolve the Source Registry review queue or replace these " ++
          "evidence records before approval.")
        (awaiting.map (·.id)) []).scopedTo awaiting competitors]) ++
    (if 8 / 10 ≤ rate then []
    else
      [(gateIssue library "verified_evidence_rate"
        "Release-grade evidence rate"
        ("Only " ++ toString (roundHalfEven (100 * rate)) ++ "% of " ++
          "release-relevant report evidence is release-grade; minimum " ++
          "is 80%.")
        ("Replace weak sources with verified webpages, high-confidence " ++
          "triangulated community evidence, or mark bad evidence " ++
          "stale/rejected.")
        (denominator.map (·.id)) []).scopedTo denominator competitors])

/-! ## Checks of the claims -/

/-- The evidence of a claim that is below release grade. -/
def weakEvidence (evidence : List EvidenceRecord) (claim : ClaimRecord) :
    List EvidenceRecord :=
  (claim.evidenceIds.filterMap (evidenceById evidence)).filter
    (! isReleaseGradeEvidence library minReleaseSourceConfidence ·)

/-- The finding of a claim with evidence below release grade. -/
def weakEvidenceFinding (evidence : List EvidenceRecord)
    (competitors : List CompetitorRecord) (claim : ClaimRecord) :
    BusinessQAFinding :=
  let weak := weakEvidence library evidence claim
  { gateIssue library "claim_uses_low_confidence_evidence"
      "Claim evidence confidence"
      ("Claim " ++ claim.id ++ " depends on " ++ toString weak.length ++
        " weak evidence item(s); release claims require release-grade " ++
        "evidence with confidence >= 0.75.")
      ("Redo collection for this claim using official, fetched webpages, " ++
        "or high-confidence triangulated community evidence before " ++
        "publishing.")
      (weak.map (·.id)) [claim.id] with
    competitorId := some claim.competitorId
    competitorName := competitorNameById competitors claim.competitorId
    dimension := some claim.claimType }

/-- `_claim_evidence_quality_issues`. -/
def claimEvidenceQualityIssues (claims : List ClaimRecord)
    (evidence : List EvidenceRecord) (competitors : List CompetitorRecord) :
    List BusinessQAFinding :=
  (claims.filter (weakEvidence library evidence · ≠ [])).map
    (weakEvidenceFinding library evidence competitors)

/-- The message of a claim that is not supported. -/
def claimValidationMessage (result : ClaimValidationResult)
    (issueTypes : List String) : String :=
  let failed := (result.validationSamples.filter (! ·.passed)).map (·.checker)
  "Claim " ++ result.claimId ++ " validation is " ++ result.status.value ++
    "; risk_status=" ++ result.validationStatus.value ++
    "; recommended_action=" ++ result.recommendedAction.value ++
    "; self-consistency=" ++ toString result.supportScore ++
    ", text=" ++ toString result.textSupportScore ++
    ", evidence=" ++ toString result.evidenceQualityScore ++
    ", triangulation=" ++ toString result.triangulationScore ++
    (if issueTypes ≠ [] then
      "; issue_types=" ++ String.intercalate ", " issueTypes else "") ++
    (if failed ≠ [] then
      "; failed_checks=" ++ String.intercalate ", " failed else "") ++ "."

/-- The finding of a claim that is not supported. -/
def claimValidationFinding (claims : List ClaimRecord)
    (issues : List ClaimValidationIssue)
    (competitors : List CompetitorRecord) (result : ClaimValidationResult) :
    BusinessQAFinding :=
  let issueTypes := result.issueIds.filterMap fun id =>
    (issues.reverse.find? (·.id = id)).map (·.issueType.value)
  let claim := claims.reverse.find? (·.id = result.claimId)
  { gateIssue library "claim_self_consistency_required"
      "Claim self-consistency" (claimValidationMessage result issueTypes)
      ("Collect stronger independent evidence, resolve the listed " ++
        "claim-validation issue types, or downgrade the claim before " ++
        "release.")
      result.usableEvidenceIds [result.claimId] with
    severity := if result.status.blocksRelease then .blocker else .warn
    competitorId := claim.map (·.competitorId)
    competitorName :=
      claim.bind fun claim => competitorNameById competitors claim.competitorId
    dimension := claim.map (·.claimType) }

/-- `_claim_validation_issues`. -/
def claimValidationIssues (claims : List ClaimRecord)
    (evidence : List EvidenceRecord) (competitors : List CompetitorRecord) :
    List BusinessQAFinding :=
  match claims with
  | [] => []
  | first :: _ =>
      let validation := validateProjectClaims library.toClaimLibrary
        first.projectId claims evidence
      (validation.results.filter (·.status ≠ .supported)).map
        (claimValidationFinding library claims validation.issues competitors)

/-! ## Checks of the source markers -/

/-- `malformed_source_tokens`. -/
def malformedSourceTokens (markdown : String) : List String :=
  dedupeStrings (((sourceMatches markdown).map fun found =>
    String.ofList found.1).filter (! isValidSourceToken ·))

/-- Whether a token is one of a record: a key of
`evidence_by_source_token`. -/
def isEvidenceToken (evidence : List EvidenceRecord) (token : String) :
    Bool :=
  evidence.any fun item => token ∈ evidenceSourceTokens item

/-- The cited tokens that are of no record. -/
def missingSourceTokens (version : ReportVersionRecord)
    (evidence : List EvidenceRecord) : List String :=
  sortedSet ((sourceTokens version.reportMd).filter fun token =>
    ! isEvidenceToken evidence (normalizeSourceToken token))

/-- `_missing_report_citation_issues`. -/
def missingReportCitationIssues (version : ReportVersionRecord)
    (evidence : List EvidenceRecord) : List BusinessQAFinding :=
  let malformed := malformedSourceTokens version.reportMd
  let missing := missingSourceTokens version evidence
  (if malformed = [] then []
  else
    [gateIssue library "report_citation_token_format"
      "Report citation token format"
      ("Report contains malformed source token(s): " ++
        String.intercalate ", " (malformed.take 8) ++ ".")
      ("Remove malformed [source:...] markers or replace them with " ++
        "canonical RawSource ids.") [] []]) ++
  if missing = [] then []
  else
    [gateIssue library "report_citation_resolves" "Report citations resolve"
      ("Report contains source token(s) that do not resolve to the report " ++
        "evidence scope: " ++ String.intercalate ", " (missing.take 8) ++
        ".")
      ("Attach the cited evidence to this report version, replace the " ++
        "token with a canonical RawSource id, or remove the unsupported " ++
        "sentence.") [] []]

/-! ## Checks of the project -/

/-- `_readiness_issues`. -/
def readinessIssues (readiness : ProjectReadinessScore) :
    List BusinessQAFinding :=
  if readiness.riskLevel = .ready ∧ 85 ≤ readiness.score then []
  else
    [gateIssue library "readiness_required" "Readiness threshold"
      ("Readiness is " ++ readiness.riskLevel.value ++ " with score " ++
        toString readiness.score ++
        "; approval requires ready and score >= 85.")
      ("Resolve evidence, coverage, claim, and QA gaps before " ++
        "approval.") [] []]

/-- The findings of a severity. -/
def countSeverity (severity : FindingSeverity)
    (findings : List BusinessQAFinding) : Nat :=
  (findings.filter (·.severity = severity)).length

/-- `_strict_qa_issues`. -/
def strictQaIssues (findings : List BusinessQAFinding) :
    List BusinessQAFinding :=
  let warnCount := countSeverity .warn findings
  let blockerCount := countSeverity .blocker findings
  if findings = [] then []
  else if blockerCount ≠ 0 then
    [gateIssue library "business_qa_clean_required"
      "Business QA blockers must be clean"
      ("Report approval requires zero blocker Business QA findings; " ++
        "current evaluation has " ++ toString blockerCount ++
        " blocker(s) and " ++ toString warnCount ++ " warning(s).")
      ("Resolve blocker Business QA findings or keep the report in " ++
        "draft.") [] []]
  else if warnCount ≠ 0 then
    [{ gateIssue library "business_qa_warnings_present"
        "Business QA warnings present"
        ("Report has non-blocking Business QA warning(s); current " ++
          "evaluation has " ++ toString warnCount ++ " warning(s).")
        ("Carry the warning(s) into caveats or schedule follow-up " ++
          "repair.") [] [] with
      severity := .warn }]
  else
    [{ gateIssue library "business_qa_info_present"
        "Business QA informational findings present"
        ("Report has informational Business QA finding(s); review them " ++
          "before final external publication.")
        "Review informational Business QA findings." [] [] with
      severity := .info }]

/-! ## The verdict -/

/-- The arguments of `evaluate_report_release_gate`. -/
structure GateInput where
  project : ProjectRecord
  reportVersion : ReportVersionRecord
  competitors : List CompetitorRecord
  evidence : List EvidenceRecord
  claims : List ClaimRecord
  sourceRegistry : List SourceRegistryRecord := []

namespace GateInput

variable (input : GateInput)

/-- `scoped_competitors`. -/
def scopedCompetitors : List CompetitorRecord :=
  library.withCompetitorMetadata input.reportVersion input.competitors

/-- `report_scoped_evidence`. -/
def reportScopedEvidence : List EvidenceRecord :=
  scopeEvidence input.reportVersion input.evidence

/-- `scoped_evidence`. -/
def scopedEvidence : List EvidenceRecord :=
  applySourceRegistryPolicy library input.sourceRegistry
    input.reportScopedEvidence

/-- `scoped_claims`. -/
def scopedClaims : List ClaimRecord :=
  scopeClaims input.reportVersion input.claims

def dimensions : List String :=
  let found := sortedSet ((input.scopedEvidence library).map (·.dimension))
  if found ≠ [] then found else ["pricing", "feature", "persona"]

/-- The findings of `evaluate_business_qa`. -/
def qaFindings : List BusinessQAFinding :=
  library.businessQa input.project (input.scopedCompetitors library)
    (input.scopedEvidence library) input.scopedClaims

def readiness : ProjectReadinessScore :=
  library.projectReadiness input.project (input.qaFindings library)
    (input.scopedCompetitors library) (input.scopedEvidence library)
    input.scopedClaims

end GateInput

/-- What each check finds, in order. -/
def releaseGateChecks (input : GateInput) :
    List (List BusinessQAFinding) :=
  [reportStatusIssues library input.reportVersion,
    reportIntegrityIssues library input.reportVersion
      (input.scopedEvidence library) input.scopedClaims,
    library.structureIssues input.reportVersion,
    reportDepthIssues library input.reportVersion,
    library.richnessIssues input.reportVersion
      (input.scopedCompetitors library) input.reportScopedEvidence
      (input.dimensions library),
    sourceQualityIssues library (input.scopedEvidence library)
      (input.scopedCompetitors library),
    claimEvidenceQualityIssues library input.scopedClaims
      (input.scopedEvidence library) (input.scopedCompetitors library),
    claimValidationIssues library input.scopedClaims
      (input.scopedEvidence library) (input.scopedCompetitors library),
    missingReportCitationIssues library input.reportVersion
      input.reportScopedEvidence,
    library.citationQualityIssues input.reportVersion
      input.reportScopedEvidence,
    library.runQualityIssues input.reportVersion,
    readinessIssues library (input.readiness library),
    strictQaIssues library (input.qaFindings library)]

/-- The issues of `evaluate_report_release_gate`, in order. -/
def releaseGateIssues (input : GateInput) : List BusinessQAFinding :=
  (releaseGateChecks library input).flatten

/-- The verdict on some issues. -/
def gateVerdict (readiness : ProjectReadinessScore)
    (qaFindings issues : List BusinessQAFinding) : ReportReleaseGate :=
  { allowed := countSeverity .blocker issues = 0 ∧
      countSeverity .blocker qaFindings = 0
    readinessScore := readiness.score
    readinessRiskLevel := readiness.riskLevel.value
    blockerCount := countSeverity .blocker issues
    warnCount := countSeverity .warn issues
    issueIds := issues.map (·.id) }

def evaluateReportReleaseGate (input : GateInput) : ReportReleaseGate :=
  gateVerdict (input.readiness library) (input.qaFindings library)
    (releaseGateIssues library input)

end Gate

end CompetiScope
