import CompetiScope.BusinessIntel.ReleaseGate

/-!
# What a released report has passed

An allowed release has no blocker among its issues, so every check that ends
in a blocker has found nothing.  What the checks of the claims leave is that
every claim of the report rests on release-grade evidence of the report.
-/

namespace CompetiScope

open Foundation

/-! ## Verdicts, records and statuses -/

theorem countSeverity_eq_zero {severity : FindingSeverity}
    {findings : List BusinessQAFinding} :
    countSeverity severity findings = 0 ↔
      ∀ finding ∈ findings, finding.severity ≠ severity := by
  unfold countSeverity
  rw [List.length_eq_zero_iff, List.filter_eq_nil_iff]
  simp only [decide_eq_true_eq, ne_eq]

theorem gateVerdict_allowed {readiness : ProjectReadinessScore}
    {qaFindings issues : List BusinessQAFinding} :
    (gateVerdict readiness qaFindings issues).allowed = true ↔
      countSeverity .blocker issues = 0 ∧
        countSeverity .blocker qaFindings = 0 :=
  decide_eq_true_iff

/-- A record that may carry a claim of a released report. -/
structure CarriesClaim (library : GateLibrary) (item : EvidenceRecord) :
    Prop where
  usable : item.qualityLabel.isBad = false
  reliable : minReleaseSourceConfidence ≤ item.reliabilityScore
  releaseGrade :
    isReleaseGradeEvidence library minReleaseSourceConfidence item = true

theorem carriesClaim_of_releaseGrade {library : GateLibrary}
    {item : EvidenceRecord}
    (releaseGrade :
      isReleaseGradeEvidence library minReleaseSourceConfidence item = true) :
    CarriesClaim library item := by
  have good : ¬ (item.qualityLabel.isBad ∨
      item.reliabilityScore < minReleaseSourceConfidence) := by
    intro bad
    rw [isReleaseGradeEvidence, if_pos bad] at releaseGrade
    cases releaseGrade
  rw [not_or] at good
  exact
    { usable := Bool.eq_false_of_not_eq_true good.1
      reliable := not_lt.mp good.2
      releaseGrade := releaseGrade }

theorem mem_of_evidenceById {evidence : List EvidenceRecord} {id : String}
    {item : EvidenceRecord} (found : evidenceById evidence id = some item) :
    item ∈ evidence ∧ item.id = id := by
  refine ⟨List.mem_reverse.mp (List.mem_of_find?_eq_some found), ?_⟩
  simpa using List.find?_some found

theorem exists_evidenceById {evidence : List EvidenceRecord} {id : String}
    (known : id ∈ evidence.map (·.id)) :
    ∃ item, evidenceById evidence id = some item := by
  obtain ⟨item, member, rfl⟩ := List.mem_map.mp known
  have found : (evidence.reverse.find? (·.id = item.id)).isSome := by
    rw [List.find?_isSome]
    exact ⟨item, List.mem_reverse.mpr member, decide_eq_true rfl⟩
  exact Option.isSome_iff_exists.mp found

/-- The risk status is unsupported for the statuses that block. -/
theorem claimRiskStatus_ne_unsupported {highRisk : Bool}
    {status : ClaimValidationStatus} {hasIssues hasConflict : Bool}
    (passes : status.blocksRelease = false) :
    claimRiskStatus highRisk status hasIssues hasConflict ≠
      .unsupported := by
  have open_ : ¬ (status = .blocked ∨ status = .unsupported) := by
    rintro (rfl | rfl)
    · cases passes
    · cases passes
  unfold claimRiskStatus
  rw [if_neg open_]
  split
  · exact nofun
  · split
    · exact nofun
    · split
      · exact nofun
      · exact nofun

section Soundness

variable [PyRuntime] {library : GateLibrary} {input : GateInput}

/-! ## The checks that were passed -/

/-- No check of a released report finds a blocker. -/
theorem severity_ne_blocker
    (allowed : (evaluateReportReleaseGate library input).allowed = true)
    (check : List BusinessQAFinding)
    (isCheck : check ∈ releaseGateChecks library input) :
    ∀ finding ∈ check, finding.severity ≠ .blocker := by
  intro finding found
  have clean := countSeverity_eq_zero.mp (gateVerdict_allowed.mp allowed).1
  exact clean finding (List.mem_flatten.mpr ⟨check, isCheck, found⟩)

/-- What the checks of the evidence, the claims and the source markers of a
released report have found. -/
structure GatePassed (library : GateLibrary) (input : GateInput) : Prop where
  inReport : ∀ claim ∈ input.scopedClaims,
    outsideEvidenceIds (input.scopedEvidence library) claim = []
  releaseGrade : ∀ claim ∈ input.scopedClaims,
    weakEvidence library (input.scopedEvidence library) claim = []
  validated : ∀ claim ∈ input.scopedClaims,
    (validateClaim library.toClaimLibrary claim
      (input.scopedEvidence library)).status.blocksRelease = false
  wellFormed : malformedSourceTokens input.reportVersion.reportMd = []
  resolved : missingSourceTokens input.reportVersion
    input.reportScopedEvidence = []

theorem mem_validateProjectClaims (library : ClaimLibrary)
    {claims : List ClaimRecord} {claim : ClaimRecord}
    (member : claim ∈ claims) (projectId : String)
    (evidence : List EvidenceRecord) :
    validateClaim library claim evidence ∈
      (validateProjectClaims library projectId claims evidence).results :=
  List.mem_map_of_mem member

/-- A claim whose status blocks a release has a blocker. -/
theorem exists_claimValidationIssue {claims : List ClaimRecord}
    {claim : ClaimRecord} (member : claim ∈ claims)
    {evidence : List EvidenceRecord} {competitors : List CompetitorRecord}
    (blocks : (validateClaim library.toClaimLibrary claim
      evidence).status.blocksRelease = true) :
    ∃ finding ∈ claimValidationIssues library claims evidence competitors,
      finding.severity = .blocker := by
  cases claims with
  | nil => cases member
  | cons first others =>
      have result := mem_validateProjectClaims library.toClaimLibrary member
        first.projectId evidence
      have unsupported : (validateClaim library.toClaimLibrary claim
          evidence).status ≠ .supported := by
        intro supported
        rw [supported] at blocks
        cases blocks
      refine ⟨_, List.mem_map_of_mem (List.mem_filter.mpr
        ⟨result, decide_eq_true unsupported⟩), ?_⟩
      exact if_pos blocks

theorem gatePassed_of_allowed
    (allowed : (evaluateReportReleaseGate library input).allowed = true) :
    GatePassed library input := by
  have integrity := severity_ne_blocker allowed
    (reportIntegrityIssues library input.reportVersion
      (input.scopedEvidence library) input.scopedClaims)
    (by simp only [releaseGateChecks, List.mem_cons, true_or, or_true])
  have quality := severity_ne_blocker allowed
    (claimEvidenceQualityIssues library input.scopedClaims
      (input.scopedEvidence library) (input.scopedCompetitors library))
    (by simp only [releaseGateChecks, List.mem_cons, true_or, or_true])
  have validation := severity_ne_blocker allowed
    (claimValidationIssues library input.scopedClaims
      (input.scopedEvidence library) (input.scopedCompetitors library))
    (by simp only [releaseGateChecks, List.mem_cons, true_or, or_true])
  have citations := severity_ne_blocker allowed
    (missingReportCitationIssues library input.reportVersion
      input.reportScopedEvidence)
    (by simp only [releaseGateChecks, List.mem_cons, true_or, or_true])
  constructor
  case inReport =>
    intro claim member
    by_contra outside
    exact integrity
      (outsideEvidenceFinding library (input.scopedEvidence library) claim)
      (List.mem_append_right _ (List.mem_map_of_mem
        (List.mem_filter.mpr ⟨member, decide_eq_true outside⟩))) rfl
  case releaseGrade =>
    intro claim member
    by_contra weak
    exact quality
      (weakEvidenceFinding library (input.scopedEvidence library)
        (input.scopedCompetitors library) claim)
      (List.mem_map_of_mem
        (List.mem_filter.mpr ⟨member, decide_eq_true weak⟩)) rfl
  case validated =>
    intro claim member
    by_contra blocks
    obtain ⟨finding, found, blocker⟩ := exists_claimValidationIssue member
      (Bool.of_not_eq_false blocks)
    exact validation finding found blocker
  case wellFormed =>
    by_contra malformed
    rw [missingReportCitationIssues, if_neg malformed] at citations
    exact citations _ (List.mem_append_left _ (List.mem_singleton_self _)) rfl
  case resolved =>
    by_contra missing
    rw [missingReportCitationIssues, if_neg missing] at citations
    exact citations _ (List.mem_append_right _ (List.mem_singleton_self _)) rfl

/-! ## The claims of a released report -/

/-- A claim that may be released with the evidence of its report. -/
structure ReleasableClaim (library : GateLibrary)
    (evidence : List EvidenceRecord) (claim : ClaimRecord) : Prop where
  cites : claim.evidenceIds ≠ []
  inReport : ∀ id ∈ claim.evidenceIds, ∃ item ∈ evidence, item.id = id
  supported : ∃ item ∈ evidence, item.id ∈ claim.evidenceIds ∧
    CarriesClaim library item
  validated : ∀ projectId claims, claim ∈ claims →
    ∃ result ∈ (validateProjectClaims library.toClaimLibrary projectId claims
        evidence).results,
      result.claimId = claim.id ∧ result.status ≠ .blocked ∧
        result.status ≠ .unsupported ∧
          result.validationStatus ≠ .unsupported

/-- Every claim of a released report rests on its evidence. -/
theorem releaseGate_claims_sound
    (allowed : (evaluateReportReleaseGate library input).allowed = true) :
    ∀ claim ∈ input.scopedClaims,
      ReleasableClaim library (input.scopedEvidence library) claim := by
  intro claim member
  have passed := gatePassed_of_allowed allowed
  have known : ∀ id ∈ claim.evidenceIds,
      id ∈ (input.scopedEvidence library).map (·.id) := by
    intro id cited
    have inside := List.filter_eq_nil_iff.mp (passed.inReport claim member)
      id cited
    simpa using inside
  constructor
  case cites => exact claim.cited
  case inReport =>
    intro id cited
    exact List.mem_map.mp (known id cited)
  case supported =>
    obtain ⟨id, cited⟩ := List.exists_mem_of_ne_nil _ claim.cited
    obtain ⟨item, found⟩ := exists_evidenceById (known id cited)
    have grade := List.filter_eq_nil_iff.mp
      (passed.releaseGrade claim member) item
      (List.mem_filterMap.mpr ⟨id, cited, found⟩)
    obtain ⟨inEvidence, rfl⟩ := mem_of_evidenceById found
    refine ⟨item, inEvidence, cited, carriesClaim_of_releaseGrade ?_⟩
    simpa using grade
  case validated =>
    intro projectId claims inClaims
    have passes := passed.validated claim member
    refine ⟨_, mem_validateProjectClaims _ inClaims projectId _, rfl, ?_, ?_,
      claimRiskStatus_ne_unsupported passes⟩
    · intro blocked
      rw [blocked] at passes
      cases passes
    · intro unsupported
      rw [unsupported] at passes
      cases passes

end Soundness

/-! ## A released report -/

namespace ReleasedExample

local instance releasedExampleRuntime : PyRuntime := asciiRuntime

def library : GateLibrary :=
  { sha256Hex := id
    riskMatches := fun _ => []
    factPositions := fun _ _ => []
    netloc := fun _ => "cursor.sh"
    hostname := fun _ => "cursor.sh"
    communityClusters := fun _ => []
    withCompetitorMetadata := fun _ competitors => competitors
    businessQa := fun _ _ _ _ => []
    projectReadiness := fun _ _ _ _ _ =>
      { score := 94
        riskLevel := .ready }
    structureIssues := fun _ => []
    richnessIssues := fun _ _ _ _ => []
    citationQualityIssues := fun _ _ => []
    runQualityIssues := fun _ => [] }

def competitor : CompetitorRecord :=
  { id := "competitor-cursor"
    workspaceId := "workspace-1"
    name := "Cursor"
    normalizedName := "cursor"
    layer := .l1
    metadata := Dict.set ∅ "homepage_verified" (.flag true) }

def project : ProjectRecord :=
  { id := "project-1"
    workspaceId := "workspace-1"
    name := "Cursor pricing"
    topic := "Cursor vs Copilot pricing comparison"
    topicNormalized := "cursor-pricing"
    competitorLayer := .l1
    competitorSetHash := "hash"
    scenarioId := some "l1_pricing_pack" }

def pricingPage : EvidenceRecord :=
  { id := "evidence-1"
    workspaceId := "workspace-1"
    projectId := "project-1"
    rawSourceId := "pricing-1"
    competitorId := "competitor-cursor"
    dimension := "pricing"
    sourceType := "webpage_verified"
    title := "Cursor pricing"
    url := some "https://cursor.sh/pricing"
    snippet := "Cursor publishes pricing."
    contentHash := "hash-1"
    reliabilityScore := 9 / 10
    qualityLabel := .accepted }

def pricingClaim : ClaimRecord :=
  { id := "claim-1"
    workspaceId := "workspace-1"
    projectId := "project-1"
    competitorId := "competitor-cursor"
    claimType := "pricing"
    claimText := "Cursor publishes pricing."
    evidenceIds := ["evidence-1"]
    confidence := 9 / 10 }

def reportFront : List Char :=
  ["# Battlecard\n", "## Executive Summary\n", "Cursor publishes pricing ",
    "[source:evidence-1].\n", "Seats are extra "].flatMap (·.toList)

/-- The rest of the report, from a marker with a blank in it. -/
def reportBack : List Char :=
  ["[source: ghost].\n", "## Source Quality\n", "## Decision Matrix\n",
    "## Claim Validation\n", "## Evidence Appendix\n",
    "## Verification Plan\n"].flatMap (·.toList) ++
  (List.replicate 40 "Read the pricing page. ".toList).flatten

def reportChars : List Char :=
  reportFront ++ reportBack

def reportVersion : ReportVersionRecord :=
  { id := "report-1"
    workspaceId := "workspace-1"
    runId := none
    scope :=
      { projectId := "project-1"
        topicNormalized := "cursor-pricing"
        competitorLayer := "L1"
        competitorSetHash := "hash" }
    versionNumber := 1
    createdAt := 0
    reportMd := String.ofList reportChars
    evidenceIds := ["evidence-1", "evidence-ghost"]
    claimIds := ["claim-1", "claim-ghost"] }

def input : GateInput :=
  { project := project
    reportVersion := reportVersion
    competitors := [competitor]
    evidence := [pricingPage]
    claims := [pricingClaim] }

theorem input_scoped : input.scopedClaims = [pricingClaim] ∧
    input.scopedEvidence library = [pricingPage] ∧
      input.reportScopedEvidence = [pricingPage] := by
  decide +kernel

theorem claims_passed :
    claimEvidenceQualityIssues library [pricingClaim] [pricingPage]
        [competitor] = [] ∧
      claimValidationIssues library [pricingClaim] [pricingPage]
        [competitor] = [] ∧
      sourceQualityIssues library [pricingPage] [competitor] = [] := by
  decide +kernel

theorem reportChars_read : 900 ≤ (stripChars reportChars).length ∧
    sourceTokensFrom 0 reportChars = ["evidence-1".toList] ∧
    (sourceMatchesFrom 0 reportChars).map (·.1) =
      ["evidence-1".toList, " ghost".toList] := by
  decide +kernel

theorem body_length : 900 ≤ (strip reportVersion.reportMd).length := by
  show 900 ≤ (strip (String.ofList reportChars)).length
  rw [strip, String.toList_ofList, String.length_ofList]
  exact reportChars_read.1

theorem integrity_passed :
    reportIntegrityIssues library reportVersion [pricingPage]
      [pricingClaim] = [] := by
  have filled : strip reportVersion.reportMd ≠ "" := by
    intro empty
    have long := body_length
    rw [empty] at long
    cases long
  rw [reportIntegrityIssues, if_neg filled]
  decide +kernel

theorem citations_passed :
    missingReportCitationIssues library reportVersion [pricingPage] = [] := by
  have malformed : malformedSourceTokens reportVersion.reportMd = [] := by
    show malformedSourceTokens (String.ofList reportChars) = []
    have tokens : (sourceMatchesFrom 0 reportChars).map (fun found =>
        String.ofList found.1) = ["evidence-1", " ghost"] := by
      have mapped := congrArg (List.map String.ofList) reportChars_read.2.2
      rw [List.map_map] at mapped
      exact mapped
    rw [malformedSourceTokens, sourceMatches, String.toList_ofList, tokens]
    decide +kernel
  have missing : missingSourceTokens reportVersion [pricingPage] = [] := by
    show sortedSet ((sourceTokens (String.ofList reportChars)).filter _) = []
    rw [sourceTokens, String.toList_ofList, reportChars_read.2.1]
    decide +kernel
  rw [missingReportCitationIssues, malformed, missing]
  rfl

theorem input_allowed :
    (evaluateReportReleaseGate library input).allowed = true := by
  have version : input.reportVersion = reportVersion := rfl
  have competitors : input.scopedCompetitors library = [competitor] := rfl
  have status : reportStatusIssues library reportVersion = [] := rfl
  have structured : library.structureIssues reportVersion = [] := rfl
  have depth : reportDepthIssues library reportVersion = [] := by
    rw [reportDepthIssues, if_pos body_length]
  have rich : library.richnessIssues reportVersion [competitor] [pricingPage]
      (input.dimensions library) = [] := rfl
  have quality : library.citationQualityIssues reportVersion [pricingPage] =
      [] := rfl
  have run : library.runQualityIssues reportVersion = [] := rfl
  have readiness : readinessIssues library (input.readiness library) = [] :=
    rfl
  have qa : strictQaIssues library (input.qaFindings library) = [] := rfl
  obtain ⟨claims, evidence, cited⟩ := input_scoped
  obtain ⟨supported, validated, sourced⟩ := claims_passed
  have clean : releaseGateIssues library input = [] := by
    rw [releaseGateIssues, List.flatten_eq_nil_iff, releaseGateChecks,
      evidence, claims, cited, version, competitors, status,
      integrity_passed, structured, depth, rich, sourced, supported,
      validated, citations_passed, quality, run, readiness, qa]
    decide
  refine gateVerdict_allowed.mpr ⟨?_, rfl⟩
  rw [clean]
  rfl

theorem releaseGate_claims_sound_pricing :
    ReleasableClaim library [pricingPage] pricingClaim := by
  have sound := releaseGate_claims_sound input_allowed
  rw [input_scoped.1, input_scoped.2.1] at sound
  exact sound pricingClaim (List.mem_singleton.mpr rfl)

end ReleasedExample

end CompetiScope
