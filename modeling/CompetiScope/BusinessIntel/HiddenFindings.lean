import CompetiScope.BusinessIntel.EvidenceGaps

/-!
# Hidden findings

A finding is kept just when the gap that takes its place is as severe: one of
the evidence with the same subject, or else that of the first finding with
the subject.
-/

namespace CompetiScope

open Foundation

/-! ## Kept findings -/

/-- The gap is about the subject of the finding and as severe. -/
structure DetectedGap.Keeps (item : DetectedGap)
    (finding : BusinessQAFinding) : Prop where
  about : item.subject = finding.subject
  severe : severityRank item.severity ≤
    severityRank (severityFromQa finding.severity)

/-- No finding is lost or softened. -/
structure KeepsFindings (report : EvidenceGapReport)
    (findings : List BusinessQAFinding) : Prop where
  kept : ∀ finding ∈ findings, ∃ item ∈ report.gaps, item.Keeps finding
  redone : ∀ finding ∈ findings, finding.severity ≠ .info →
    ∃ item ∈ report.gaps, item.Keeps finding ∧
      ∃ scope ∈ evidenceGapsToRedoScopes report.gaps,
        scope.kind = .collector ∧ scope.targetSubagent = finding.dimension ∧
          scope.targetCompetitor = item.competitorName
  counted : report.criticalCount + report.highCount + report.mediumCount +
    report.lowCount = report.gapCount

/-- What takes the place of the finding is as severe: a gap that was found
before, or the first finding with the subject. -/
structure Outranked (existing : List GapContent)
    (findings : List BusinessQAFinding) (finding : BusinessQAFinding) :
    Prop where
  byExisting : finding.subject ∈ existing.map (·.subject) →
    ∃ content ∈ existing, content.subject = finding.subject ∧
      severityRank content.severity ≤
        severityRank (severityFromQa finding.severity)
  byFirst : finding.subject ∉ existing.map (·.subject) →
    ∀ first, findings.find? (·.subject = finding.subject) = some first →
      severityRank (severityFromQa first.severity) ≤
        severityRank (severityFromQa finding.severity)

/-! ## Gaps of the evidence -/

/-- The severity of the gaps of a type that do not come from findings. -/
def GapType.sourceSeverity : GapType → GapSeverity
  | .missingDimensionCoverage => .high
  | .missingVerifiedSource => .medium
  | .staleOrRejectedEvidence => .medium
  | .claimWithoutUsableEvidence => .critical
  | .landscapeBreadth => .medium

section Source

variable [PyRuntime] {plan : BusinessIntelPlan}
  {competitors : List CompetitorRecord} {evidence : List EvidenceRecord}
  {claims : List ClaimRecord}

theorem severity_of_coverageGap {competitor : CompetitorRecord}
    {dimension : String} {content : GapContent}
    (found : coverageGap evidence competitor dimension = some content) :
    content.severity = content.gapType.sourceSeverity := by
  unfold coverageGap at found
  dsimp only at found
  split at found
  · cases found
    rfl
  · split at found
    · cases found
      rfl
    · cases found

/-- The type of such a gap determines its severity. -/
theorem severity_of_sourceGap {content : GapContent}
    (member : content ∈ sourceGaps plan competitors evidence claims) :
    content.severity = content.gapType.sourceSeverity := by
  simp only [sourceGaps, List.mem_append] at member
  rcases member with ((coverage | quality) | claim) | landscape
  · obtain ⟨competitor, -, inDimensions⟩ := List.mem_flatMap.mp coverage
    obtain ⟨dimension, -, found⟩ := List.mem_filterMap.mp inDimensions
    exact severity_of_coverageGap found
  · obtain ⟨item, -, rfl⟩ := List.mem_map.mp quality
    rfl
  · obtain ⟨item, -, rfl⟩ := List.mem_map.mp claim
    rfl
  · unfold landscapeGaps at landscape
    split at landscape
    · cases landscape
    · rw [List.mem_singleton.mp landscape]
      rfl

end Source

/-! ## The gaps that are left -/

theorem mem_dedupeGaps {gaps : List DetectedGap} {item : DetectedGap} :
    item ∈ dedupeGaps gaps ↔ item ∈ distinctBy gapKey gaps :=
  List.mem_insertionSort _

/-- The item that is kept is the first with its key. -/
theorem eq_of_find?_of_mem {gaps : List DetectedGap}
    {first item : DetectedGap}
    (isFirst : gaps.find? (gapKey · = gapKey first) = some first)
    (member : item ∈ distinctBy gapKey gaps)
    (sameKey : gapKey item = gapKey first) : item = first :=
  List.inj_on_of_nodup_map (distinctBy_nodup gapKey gaps) member
    (mem_distinctBy_of_find? isFirst) sameKey

theorem findingGap_type_eq {first second : BusinessQAFinding}
    (same : first.subject = second.subject) :
    (findingGap first).gapType = (findingGap second).gapType := by
  have claimIds : first.claimIds = second.claimIds :=
    congrArg GapSubject.claimIds same
  simp only [findingGap, claimIds]

section Gaps

variable {library : IdentityLibrary} {existing : List GapContent}
  {findings : List BusinessQAFinding} {finding : BusinessQAFinding}

/-- The gaps before the deduplication. -/
def allGaps (library : IdentityLibrary) (existing : List GapContent)
    (findings : List BusinessQAFinding) : List DetectedGap :=
  (existing ++ qaOnlyGaps findings existing).map (gap library)

theorem mem_allGaps {item : DetectedGap}
    (member : item ∈ allGaps library existing findings) :
    (∃ content ∈ existing, item = gap library content) ∨
      ∃ other ∈ findings, other.subject ∉ existing.map (·.subject) ∧
        item = gap library (findingGap other) := by
  obtain ⟨content, inAll, rfl⟩ := List.mem_map.mp member
  rcases List.mem_append.mp inAll with inExisting | inQa
  · exact .inl ⟨content, inExisting, rfl⟩
  · obtain ⟨other, kept, rfl⟩ := List.mem_map.mp inQa
    obtain ⟨inFindings, fresh⟩ := List.mem_filter.mp kept
    exact .inr ⟨other, inFindings, of_decide_eq_true fresh, rfl⟩

/-- The first finding with a new subject brings the first gap with its key. -/
theorem find?_allGaps {first : BusinessQAFinding}
    (fresh : first.subject ∉ existing.map (·.subject))
    (isFirst : findings.find? (·.subject = first.subject) = some first) :
    (allGaps library existing findings).find?
        (gapKey · = gapKey (gap library (findingGap first))) =
      some (gap library (findingGap first)) := by
  have none : existing.find? (fun content =>
      gapKey (gap library content) =
        gapKey (gap library (findingGap first))) = none := by
    rw [List.find?_eq_none]
    intro content inExisting sameKey
    have subject : content.subject = first.subject :=
      congrArg Prod.fst (of_decide_eq_true sameKey)
    exact fresh (subject ▸ List.mem_map_of_mem inExisting)
  have qa : ∀ findings : List BusinessQAFinding,
      findings.find? (·.subject = first.subject) = some first →
        (qaOnlyGaps findings existing).find? (fun content =>
          gapKey (gap library content) =
            gapKey (gap library (findingGap first))) =
          some (findingGap first) := by
    intro findings isFirst
    induction findings with
    | nil => cases isFirst
    | cons head findings induction =>
        by_cases same : head.subject = first.subject
        · rw [List.find?_cons_of_pos (by simpa using same),
            Option.some.injEq] at isFirst
          subst isFirst
          rw [qaOnlyGaps, List.filter_cons_of_pos (by simpa using fresh),
            List.map_cons, List.find?_cons_of_pos (by simp)]
        · rw [List.find?_cons_of_neg (by simpa using same)] at isFirst
          have rest := induction isFirst
          unfold qaOnlyGaps at rest ⊢
          rw [List.filter_cons]
          split
          · rw [List.map_cons, List.find?_cons_of_neg]
            · exact rest
            · intro sameKey
              exact same (congrArg Prod.fst (of_decide_eq_true sameKey))
          · exact rest
  rw [allGaps, List.find?_map, List.find?_append]
  have none' : existing.find? ((fun item => decide (gapKey item =
      gapKey (gap library (findingGap first)))) ∘ gap library) = Option.none :=
    none
  rw [none', Option.none_or]
  exact congrArg (Option.map (gap library)) (qa findings isFirst)

/-- A finding is kept just when what takes its place is as severe. -/
theorem kept_iff
    (fixed : ∀ content ∈ existing,
      content.severity = content.gapType.sourceSeverity)
    (member : finding ∈ findings) :
    (∃ item ∈ dedupeGaps (allGaps library existing findings),
        item.Keeps finding) ↔
      Outranked existing findings finding := by
  constructor
  · intro kept
    obtain ⟨item, isKept, keeps⟩ := kept
    rw [mem_dedupeGaps] at isKept
    have cases := mem_allGaps (mem_of_mem_distinctBy isKept)
    constructor
    case byExisting =>
      intro known
      rcases cases with ⟨content, inExisting, rfl⟩ | ⟨other, -, fresh, rfl⟩
      · exact ⟨content, inExisting, keeps.about, keeps.severe⟩
      · have same : other.subject = finding.subject := keeps.about
        exact absurd (same ▸ known) fresh
    case byFirst =>
      intro fresh first isFirst
      have sameFirst : first.subject = finding.subject := by
        simpa using List.find?_some isFirst
      rcases cases with ⟨content, inExisting, rfl⟩ | ⟨other, -, -, rfl⟩
      · have same : content.subject = finding.subject := keeps.about
        exact absurd (same ▸ List.mem_map_of_mem inExisting) fresh
      · have same : other.subject = finding.subject := keeps.about
        rw [← sameFirst] at fresh isFirst
        have sameKey : gapKey (gap library (findingGap other)) =
            gapKey (gap library (findingGap first)) :=
          Prod.ext (same.trans sameFirst.symm)
            (findingGap_type_eq (same.trans sameFirst.symm))
        have equal := eq_of_find?_of_mem (find?_allGaps fresh isFirst) isKept
          sameKey
        have severe := keeps.severe
        rw [equal] at severe
        exact severe
  · intro outranked
    by_cases known : finding.subject ∈ existing.map (·.subject)
    · obtain ⟨content, inExisting, about, severe⟩ := outranked.byExisting known
      have inAll : gap library content ∈
          allGaps library existing findings :=
        List.mem_map_of_mem (List.mem_append_left _ inExisting)
      obtain ⟨kept, isKept, sameKey⟩ := exists_mem_distinctBy gapKey inAll
      have subject : kept.subject = finding.subject :=
        (congrArg Prod.fst sameKey).trans about
      have gapType : kept.gapType = content.gapType :=
        congrArg Prod.snd sameKey
      refine ⟨kept, mem_dedupeGaps.mpr isKept, subject, ?_⟩
      rcases mem_allGaps (mem_of_mem_distinctBy isKept) with
        ⟨other, inOther, rfl⟩ | ⟨other, -, fresh, rfl⟩
      · have sameSeverity : other.severity = content.severity := by
          have sameType : other.gapType = content.gapType := gapType
          rw [fixed other inOther, fixed content inExisting, sameType]
        show severityRank other.severity ≤ _
        rw [sameSeverity]
        exact severe
      · have same : other.subject = finding.subject := subject
        exact absurd (same ▸ known) fresh
    · cases isFirst : findings.find? (·.subject = finding.subject) with
      | none =>
          have missing := List.find?_eq_none.mp isFirst finding member
          simp at missing
      | some first =>
          have severe := outranked.byFirst known first isFirst
          have sameFirst : first.subject = finding.subject := by
            simpa using List.find?_some isFirst
          rw [← sameFirst] at known isFirst
          have isKept := mem_distinctBy_of_find?
            (@find?_allGaps library _ _ _ known isFirst)
          exact ⟨_, mem_dedupeGaps.mpr isKept, sameFirst, severe⟩

end Gaps

/-! ## Redo scopes and counts -/

/-- A severe gap has a scope. -/
theorem exists_redoScope {gaps : List DetectedGap} {item : DetectedGap}
    (member : item ∈ gaps) (severe : severityRank item.severity ≤ 1) :
    ∃ scope ∈ evidenceGapsToRedoScopes gaps, scope.kind = .collector ∧
      scope.targetSubagent = item.dimension ∧
        scope.targetCompetitor = item.competitorName := by
  have isSevere : item.severity ∈ [GapSeverity.critical, .high] := by
    cases rank : item.severity with
    | critical => decide
    | high => decide
    | medium =>
        rw [rank] at severe
        exact absurd severe (by decide)
    | low =>
        rw [rank] at severe
        exact absurd severe (by decide)
  have inScopes : gapRedoScope item ∈ (gaps.filter fun item =>
      item.severity ∈ [.critical, .high]).map gapRedoScope :=
    List.mem_map_of_mem
      (List.mem_filter.mpr ⟨member, decide_eq_true isSevere⟩)
  obtain ⟨scope, isScope, sameKey⟩ := exists_mem_distinctBy
    (fun scope => (scope.kind, scope.targetSubagent, scope.targetCompetitor,
      scope.targetCompetitors)) inScopes
  simp only [Prod.mk.injEq] at sameKey
  exact ⟨scope, isScope, sameKey.1, sameKey.2.1, sameKey.2.2.1⟩

/-- Every gap has one of the four severities. -/
theorem counts_sum (gaps : List DetectedGap) :
    gaps.countP (·.severity = .critical) + gaps.countP (·.severity = .high) +
        gaps.countP (·.severity = .medium) + gaps.countP (·.severity = .low) =
      gaps.length := by
  induction gaps with
  | nil => rfl
  | cons item gaps induction =>
      simp only [List.countP_cons, List.length_cons]
      cases item.severity with
      | _ => simp; omega

section Report

variable [PyRuntime]

/-- The analysis keeps the findings just when what takes the place of each is
as severe. -/
theorem analyzeEvidenceGaps_keepsFindings_iff (library : IdentityLibrary)
    (projectId : String) (plan : BusinessIntelPlan)
    (findings : List BusinessQAFinding) (competitors : List CompetitorRecord)
    (evidence : List EvidenceRecord) (claims : List ClaimRecord) :
    KeepsFindings (analyzeEvidenceGaps library projectId plan findings
        competitors evidence claims) findings ↔
      ∀ finding ∈ findings,
        Outranked (sourceGaps plan competitors evidence claims) findings
          finding := by
  have fixed : ∀ content ∈ sourceGaps plan competitors evidence claims,
      content.severity = content.gapType.sourceSeverity :=
    fun content member => severity_of_sourceGap member
  constructor
  · intro keeps finding member
    exact (kept_iff fixed member).mp (keeps.kept finding member)
  · intro outranked
    have kept : ∀ finding ∈ findings, ∃ item ∈ (analyzeEvidenceGaps library
        projectId plan findings competitors evidence claims).gaps,
          item.Keeps finding :=
      fun finding member =>
        (kept_iff fixed member).mpr (outranked finding member)
    constructor
    case kept => exact kept
    case redone =>
      intro finding member serious
      obtain ⟨item, isGap, keeps⟩ := kept finding member
      have rank : severityRank (severityFromQa finding.severity) ≤ 1 := by
        cases severity : finding.severity with
        | info => exact absurd severity serious
        | warn => decide
        | blocker => decide
      obtain ⟨scope, isScope, kind, subagent, competitor⟩ :=
        exists_redoScope isGap (keeps.severe.trans rank)
      have dimension : item.dimension = finding.dimension :=
        congrArg GapSubject.dimension keeps.about
      exact ⟨item, isGap, keeps, scope, isScope, kind,
        subagent.trans dimension, competitor⟩
    case counted => exact counts_sum _

end Report

namespace HiddenFindingsExample

local instance hiddenFindingsRuntime : PyRuntime := asciiRuntime

/-- A library whose digest is the text itself. -/
def library : IdentityLibrary :=
  { sha256Hex := id
    lower := fun text => String.ofList (text.toList.map Char.toLower)
    lower_ascii := IdentityExample.library.lower_ascii
    normalizeUrl := fun url => url.getD "" }

def plan : BusinessIntelPlan :=
  { topic := "Editors"
    competitorLayer := .l1
    scenarioPack := { id := "pack" } }

def blocker : BusinessQAFinding :=
  { id := "finding-2"
    ruleId := "report_body_required"
    ruleName := "Report body"
    severity := .blocker
    message := "The report body is missing." }

/-- Two findings about the report, the blocker behind the warning. -/
def findings : List BusinessQAFinding :=
  [{ id := "finding-1"
     ruleId := "report_depth_required"
     ruleName := "Report depth"
     severity := .warn
     message := "The report is too short." },
    blocker]

def gapReport : EvidenceGapReport :=
  analyzeEvidenceGaps library "project" plan findings [] [] []

/-- The blocker leaves no critical gap. -/
theorem blocker_softened : ¬ KeepsFindings gapReport findings := by
  intro keeps
  obtain ⟨item, isGap, keeps⟩ := keeps.kept blocker (by simp [findings])
  have mild : ∀ item ∈ gapReport.gaps, ¬ severityRank item.severity ≤ 0 := by
    decide +kernel
  exact mild item isGap keeps.severe

end HiddenFindingsExample

end CompetiScope
