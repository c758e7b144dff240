import CompetiScope.BusinessIntel.ClaimValidator
import Mathlib.Algebra.Order.Ring.Rat
import Mathlib.Tactic.Linarith

/-!
# More evidence for a claim

The scores of a claim are best scores of its usable evidence, so a record
more cannot lower them, and with the scores the status can only get better.
The counts of the report are counts of the results.
-/

namespace CompetiScope

open Foundation

/-! ## The counts of the report -/

/-- `_average_score`. -/
def averageScore (values : List Int) : Int :=
  if values = [] then 0
  else roundHalfEven ((values.sum : Rat) / values.length)

def riskStatuses : List ClaimRiskStatus :=
  [.supported, .weakSupport, .conflicting, .unsupported, .notApplicable]

/-- The counts of `ClaimValidationReport`. -/
structure ClaimCounts where
  totalClaims : Nat
  supportedCount : Nat
  weakCount : Nat
  unsupportedCount : Nat
  blockedCount : Nat
  issueCount : Nat
  blockerCount : Nat
  warnCount : Nat
  selfConsistencyScore : Int
  lowConsistencyCount : Nat
  highRiskClaimCount : Nat
  highRiskValidatedCount : Nat
  validationStatusCounts : List (ClaimRiskStatus × Nat)
  deriving DecidableEq

/-- The counts `validate_project_claims` reports. -/
def claimCounts (claims : List ClaimRecord) (report : ClaimValidationReport) :
    ClaimCounts :=
  let results := report.results
  let withStatus := fun status : ClaimValidationStatus =>
    results.countP (·.status = status)
  { totalClaims := claims.length
    supportedCount := withStatus .supported
    weakCount := withStatus .weak
    unsupportedCount := withStatus .unsupported
    blockedCount := withStatus .blocked
    issueCount := report.issues.length
    blockerCount := report.issues.countP (·.issueType.blocks)
    warnCount := report.issues.countP (! ·.issueType.blocks)
    selfConsistencyScore := averageScore
      ((results.filter (·.status ≠ .blocked)).map (·.supportScore))
    lowConsistencyCount := results.countP fun result =>
      result.status ≠ .blocked && decide (result.supportScore < 55)
    highRiskClaimCount := results.countP (·.highRisk)
    highRiskValidatedCount := results.countP fun result =>
      result.highRisk && result.validationStatus ≠ .notApplicable
    validationStatusCounts := riskStatuses.map fun status =>
      (status, results.countP (·.validationStatus = status)) }

/-- Every result has one of the statuses. -/
theorem sum_status_counts (results : List ClaimValidationResult) :
    results.countP (·.status = .supported) +
        results.countP (·.status = .weak) +
        results.countP (·.status = .unsupported) +
        results.countP (·.status = .blocked) = results.length := by
  induction results with
  | nil => rfl
  | cons result results induction =>
      simp only [List.countP_cons, List.length_cons, decide_eq_true_eq]
      cases result.status with
      | supported => simp; omega
      | weak => simp; omega
      | unsupported => simp; omega
      | blocked => simp; omega

theorem sum_risk_counts (results : List ClaimValidationResult) :
    (riskStatuses.map fun status =>
      results.countP (·.validationStatus = status)).sum = results.length := by
  induction results with
  | nil => rfl
  | cons result results induction =>
      simp only [riskStatuses, List.map_cons, List.map_nil, List.sum_cons,
        List.sum_nil, List.countP_cons, List.length_cons,
        decide_eq_true_eq] at induction ⊢
      cases result.validationStatus with
      | notApplicable => simp; omega
      | supported => simp; omega
      | weakSupport => simp; omega
      | conflicting => simp; omega
      | unsupported => simp; omega

/-! ## Scores that cannot fall -/

/-- A number is rounded to a neighbour. -/
theorem roundHalfEven_bounds (value : Rat) :
    ⌊value⌋ ≤ roundHalfEven value ∧ roundHalfEven value ≤ ⌊value⌋ + 1 := by
  unfold roundHalfEven
  dsimp only
  split
  case isTrue => omega
  case isFalse =>
    split
    case isTrue => omega
    case isFalse =>
      split
      case isTrue => omega
      case isFalse => omega

theorem roundHalfEven_mono {first second : Rat} (less : first ≤ second) :
    roundHalfEven first ≤ roundHalfEven second := by
  rcases lt_or_eq_of_le (Int.floor_le_floor less) with below | same
  · have upper := (roundHalfEven_bounds first).2
    have lower := (roundHalfEven_bounds second).1
    omega
  · -- one floor: the greater number is not nearer to it
    have lower := (roundHalfEven_bounds second).1
    unfold roundHalfEven at lower ⊢
    dsimp only at lower ⊢
    rw [same]
    by_cases low : first - ⌊second⌋ < 1 / 2
    · rw [if_pos low]
      exact lower
    · have notLow : ¬ second - ⌊second⌋ < 1 / 2 := by
        intro contrary
        apply low
        linarith
      rw [if_neg low, if_neg notLow]
      by_cases high : 1 / 2 < first - ⌊second⌋
      · have higher : 1 / 2 < second - ⌊second⌋ := by linarith
        rw [if_pos high, if_pos higher]
      · rw [if_neg high]
        by_cases even : ⌊second⌋ % 2 = 0
        · rw [if_pos even]
          split
          · omega
          · exact le_refl _
        · rw [if_neg even]
          split
          · exact le_refl _
          · exact le_refl _

theorem bestScore_le_iff {scores : List Rat} {bound : Rat} :
    bestScore scores ≤ bound ↔ 0 ≤ bound ∧ ∀ score ∈ scores, score ≤ bound := by
  have general : ∀ start : Rat, scores.foldl max start ≤ bound ↔
      start ≤ bound ∧ ∀ score ∈ scores, score ≤ bound := by
    induction scores with
    | nil => simp
    | cons score scores induction =>
        intro start
        rw [List.foldl_cons, induction, max_le_iff, List.forall_mem_cons,
          and_assoc]
  exact general 0

theorem bestScore_mono {first second : List Rat}
    (more : ∀ score ∈ first, score ∈ second) :
    bestScore first ≤ bestScore second := by
  obtain ⟨notNegative, reached⟩ := bestScore_le_iff.mp (le_refl
    (bestScore second))
  exact bestScore_le_iff.mpr
    ⟨notNegative, fun score member => reached score (more score member)⟩

theorem roundHalfEven_percent_mono {first second : Rat}
    (less : first ≤ second) :
    roundHalfEven (100 * first) ≤ roundHalfEven (100 * second) := by
  apply roundHalfEven_mono
  linarith

theorem zero_le_percent (scores : List Rat) :
    0 ≤ roundHalfEven (100 * bestScore scores) := by
  have notNegative : 0 ≤ bestScore scores :=
    (bestScore_le_iff.mp (le_refl (bestScore scores))).1
  have rounded := roundHalfEven_percent_mono notNegative
  rw [mul_zero] at rounded
  have zero : roundHalfEven 0 = 0 := by simp [roundHalfEven]
  rw [zero] at rounded
  exact rounded

/-- More points of one kind are not less points in all. -/
theorem selfConsistencyScore_mono {text text' quality quality' triangulation
    triangulation' : Int} (texts : text ≤ text') (qualities : quality ≤ quality')
    (triangulations : triangulation ≤ triangulation') :
    selfConsistencyScore text quality triangulation ≤
      selfConsistencyScore text' quality' triangulation' := by
  apply roundHalfEven_mono
  have first : (text : Rat) ≤ text' := by exact_mod_cast texts
  have second : (quality : Rat) ≤ quality' := by exact_mod_cast qualities
  have third : (triangulation : Rat) ≤ triangulation' := by
    exact_mod_cast triangulations
  linarith

section MoreEvidence

variable {usable more : List EvidenceRecord}

theorem ne_nil_of_sublist (sublist : usable.Sublist more)
    (something : usable ≠ []) : more ≠ [] := by
  intro empty
  rw [empty] at sublist
  exact something (List.eq_nil_of_sublist_nil sublist)

theorem textSupportScore_mono [PyRuntime] (claim : ClaimRecord)
    (sublist : usable.Sublist more) :
    textSupportScore claim usable ≤ textSupportScore claim more := by
  unfold textSupportScore
  dsimp only
  by_cases nothing : usable = []
  · rw [if_pos nothing]
    split
    · exact le_refl 0
    · split
      · exact le_refl 0
      · exact zero_le_percent _
  · rw [if_neg nothing, if_neg (ne_nil_of_sublist sublist nothing)]
    split
    · exact le_refl 0
    · apply roundHalfEven_percent_mono
      apply bestScore_mono
      intro score member
      exact (sublist.map _).subset member

theorem evidenceQualityScore_mono (sublist : usable.Sublist more) :
    evidenceQualityScore usable ≤ evidenceQualityScore more := by
  unfold evidenceQualityScore
  by_cases nothing : usable = []
  · rw [if_pos nothing]
    split
    · exact le_refl 0
    · exact zero_le_percent _
  · rw [if_neg nothing, if_neg (ne_nil_of_sublist sublist nothing)]
    apply roundHalfEven_percent_mono
    apply bestScore_mono
    intro score member
    exact (sublist.map _).subset member

/-- The points for a number of records, of their domains and of the verified
ones among them. -/
def triangulationPoints (count domains verified : Nat) : Int :=
  if count = 0 then 0
  else if 2 ≤ domains ∧ 2 ≤ verified then 100
  else if 2 ≤ count ∧ 1 ≤ verified then 85
  else if 1 ≤ verified then 70
  else 45

theorem triangulationPoints_mono {count count' domains domains' verified
    verified' : Nat} (counts : count ≤ count') (ofDomains : domains ≤ domains')
    (ofVerified : verified ≤ verified') :
    triangulationPoints count domains verified ≤
      triangulationPoints count' domains' verified' := by
  unfold triangulationPoints
  split_ifs <;> omega

theorem triangulationScore_eq (library : ClaimLibrary)
    (evidence : List EvidenceRecord) :
    triangulationScore library evidence =
      triangulationPoints evidence.length
        (orderedUnique ((evidence.map
          (evidenceDomain library)).filter (· ≠ ""))).length
        (evidence.filter (·.sourceType = "webpage_verified")).length := by
  unfold triangulationScore triangulationPoints
  simp only [List.length_eq_zero_iff]

theorem triangulationScore_mono (library : ClaimLibrary)
    (sublist : usable.Sublist more) :
    triangulationScore library usable ≤ triangulationScore library more := by
  rw [triangulationScore_eq, triangulationScore_eq]
  apply triangulationPoints_mono sublist.length_le
  · apply List.Subperm.length_le
    apply List.subperm_of_subset (orderedUnique_nodup _)
    intro domain member
    rw [mem_orderedUnique] at member ⊢
    exact ((sublist.map _).filter _).subset member
  · exact (sublist.filter _).length_le

theorem claimSupportScore_mono [PyRuntime] (library : ClaimLibrary)
    (claim : ClaimRecord) (sublist : usable.Sublist more) :
    claimSupportScore library claim usable ≤
      claimSupportScore library claim more :=
  selfConsistencyScore_mono (textSupportScore_mono claim sublist)
    (evidenceQualityScore_mono sublist)
    (triangulationScore_mono library sublist)

end MoreEvidence

/-! ## A status that cannot get worse -/

/-- From the worst status to the best. -/
def ClaimValidationStatus.rank : ClaimValidationStatus → Nat
  | .blocked => 0
  | .unsupported => 1
  | .weak => 2
  | .supported => 3

def ClaimRiskStatus.rank : ClaimRiskStatus → Nat
  | .conflicting => 0
  | .unsupported => 1
  | .weakSupport => 2
  | .supported => 3
  | .notApplicable => 4

theorem rank_claimRiskStatus_mono {status better : ClaimValidationStatus}
    {highRisk hasIssues stillIssues hasConflict : Bool}
    (ranks : status.rank ≤ better.rank)
    (issues : hasIssues = false → stillIssues = false) :
    (claimRiskStatus highRisk status hasIssues hasConflict).rank ≤
      (claimRiskStatus highRisk better stillIssues hasConflict).rank := by
  revert highRisk hasIssues stillIssues hasConflict
  cases status <;> cases better <;> revert ranks <;> decide

section Statuses

variable [PyRuntime] (library : ClaimLibrary) (claim : ClaimRecord)
variable {usable more : List EvidenceRecord}

omit [PyRuntime] in
theorem structuredConflictIds_eq_nil_iff :
    structuredConflictIds library claim usable = [] ↔
      ∀ item ∈ usable, structuredConflictIds library claim [item] = [] := by
  unfold structuredConflictIds
  dsimp only
  by_cases nothing : library.factPositions claim.claimText claim.claimType = []
  · simp [nothing]
  · simp [nothing]

/-- Conflicts are found record by record. -/
theorem conflictingEvidenceIds_eq_nil_iff :
    conflictingEvidenceIds library claim usable = [] ↔
      ∀ item ∈ usable, conflictingEvidenceIds library claim [item] = [] := by
  have structuredEach : structuredConflictIds library claim usable = [] ↔ _ :=
    structuredConflictIds_eq_nil_iff library claim
  unfold conflictingEvidenceIds
  dsimp only
  by_cases structured : structuredConflictIds library claim usable = []
  · have each := structuredEach.mp structured
    rw [if_neg (not_not.mpr structured)]
    by_cases positive : supportingPhrases.any
        (contains (casefold claim.claimText)) = true
    · rw [if_neg (not_not.mpr positive), List.map_eq_nil_iff,
        List.filter_eq_nil_iff]
      apply forall₂_congr
      intro item member
      rw [if_neg (not_not.mpr (each item member)),
        if_neg (not_not.mpr positive), List.map_eq_nil_iff,
        List.filter_eq_nil_iff]
      simp only [List.mem_singleton, forall_eq]
    · rw [if_pos positive]
      refine ⟨fun _ item member => ?_, fun _ => rfl⟩
      rw [if_neg (not_not.mpr (each item member)), if_pos positive]
  · rw [if_pos structured]
    constructor
    · intro nothing
      exact absurd nothing structured
    · intro each
      apply structuredEach.mpr
      intro item member
      have alone := each item member
      by_contra conflict
      rw [if_pos conflict] at alone
      exact conflict alone

omit [PyRuntime] in
theorem optional_eq_nil_iff {condition : Prop} [Decidable condition]
    {issue : ClaimValidationIssue} :
    (if condition then [issue] else []) = [] ↔ ¬ condition := by
  by_cases given : condition
  · simp [given]
  · simp [given]

theorem evidenceIssue_eq_none_iff :
    evidenceIssue library claim usable = none ↔
      usable ≠ [] ∧ conflictingEvidenceIds library claim usable = [] ∧
        40 ≤ textSupportScore claim usable ∧
        55 ≤ evidenceQualityScore usable ∧
        (library.riskMatches (claim.claimText ++ " " ++ claim.claimType) = [] ∨
          90 ≤ triangulationScore library usable) := by
  unfold evidenceIssue
  dsimp only
  rw [if_neg claim.cited]
  by_cases nothing : usable = []
  · simp [nothing]
  · by_cases agrees : conflictingEvidenceIds library claim usable = []
    · by_cases text : textSupportScore claim usable < 40
      · simp [nothing, agrees, text]
      · by_cases quality : evidenceQualityScore usable < 55
        · simp [nothing, agrees, text, quality]
        · simp [nothing, agrees, text, quality, not_lt.mp text,
            not_lt.mp quality, or_iff_not_imp_left]
    · simp [nothing, agrees]

theorem claimIssues_eq_nil_iff :
    claimIssues library claim usable = [] ↔
      evidenceIssue library claim usable = none ∧
        ¬ claim.confidence < 55 / 100 ∧
        ¬ (claimSupportScore library claim usable < 55 ∧ usable ≠ []) := by
  unfold claimIssues
  dsimp only
  rw [List.append_eq_nil_iff, List.append_eq_nil_iff, and_assoc,
    Option.toList_eq_nil_iff, optional_eq_nil_iff, optional_eq_nil_iff]

variable (sublist : usable.Sublist more)
  (agrees : ∀ item ∈ more, item ∈ usable ∨
    conflictingEvidenceIds library claim [item] = [])

include sublist agrees

theorem conflicting_iff :
    conflictingEvidenceIds library claim more = [] ↔
      conflictingEvidenceIds library claim usable = [] := by
  have each : conflictingEvidenceIds library claim usable = [] ↔ _ :=
    conflictingEvidenceIds_eq_nil_iff library claim
  rw [conflictingEvidenceIds_eq_nil_iff, each]
  constructor
  · intro all item member
    exact all item (sublist.subset member)
  · intro all item member
    rcases agrees item member with before | alone
    · exact all item before
    · exact alone

/-- What has no issue has none with more evidence. -/
theorem claimIssues_eq_nil_of_more
    (clean : claimIssues library claim usable = []) :
    claimIssues library claim more = [] := by
  obtain ⟨noIssue, confident, consistent⟩ :=
    (claimIssues_eq_nil_iff library claim).mp clean
  obtain ⟨something, noConflict, text, quality, sources⟩ :=
    (evidenceIssue_eq_none_iff library claim).mp noIssue
  have texts := textSupportScore_mono claim sublist
  have qualities := evidenceQualityScore_mono sublist
  have triangulations := triangulationScore_mono library sublist
  have scores := claimSupportScore_mono library claim sublist
  apply (claimIssues_eq_nil_iff library claim).mpr
  refine ⟨?_, confident, ?_⟩
  · apply (evidenceIssue_eq_none_iff library claim).mpr
    refine ⟨ne_nil_of_sublist sublist something,
      (conflicting_iff library claim sublist agrees).mpr noConflict,
      by omega, by omega, ?_⟩
    rcases sources with lowRisk | enough
    · exact Or.inl lowRisk
    · exact Or.inr (by omega)
  · intro low
    apply consistent
    exact ⟨by omega, something⟩

theorem claimStatus_rank_mono :
    (claimStatus library claim usable).rank ≤
      (claimStatus library claim more).rank := by
  have scores := claimSupportScore_mono library claim sublist
  have conflicts := conflicting_iff library claim sublist agrees
  have issues := claimIssues_eq_nil_of_more library claim sublist agrees
  unfold claimStatus
  dsimp only
  by_cases nothing : usable = []
  · rw [if_pos (Or.inr nothing)]
    exact Nat.zero_le _
  · have something := ne_nil_of_sublist sublist nothing
    rw [if_neg (not_or.mpr ⟨claim.cited, nothing⟩),
      if_neg (not_or.mpr ⟨claim.cited, something⟩)]
    by_cases noConflict : conflictingEvidenceIds library claim usable = []
    · rw [if_neg (not_not.mpr noConflict),
        if_neg (not_not.mpr (conflicts.mpr noConflict))]
      by_cases supported : 75 ≤ claimSupportScore library claim usable ∧
          claimIssues library claim usable = []
      · rw [if_pos supported, if_pos ⟨by omega, issues supported.2⟩]
      · rw [if_neg supported]
        by_cases weak : 55 ≤ claimSupportScore library claim usable
        · rw [if_pos weak]
          split
          · decide
          · rw [if_pos (by omega)]
        · rw [if_neg weak]
          split
          · decide
          · split
            · decide
            · decide
    · rw [if_pos noConflict, if_pos (mt conflicts.mp noConflict)]

/-- The risk status as well. -/
theorem claimRiskStatus_rank_mono (highRisk : Bool) :
    (claimRiskStatus highRisk (claimStatus library claim usable)
        ((claimIssues library claim usable).map (·.id) ≠ [])
        (conflictingEvidenceIds library claim usable ≠ [])).rank ≤
      (claimRiskStatus highRisk (claimStatus library claim more)
        ((claimIssues library claim more).map (·.id) ≠ [])
        (conflictingEvidenceIds library claim more ≠ [])).rank := by
  have sameConflict :
      decide (conflictingEvidenceIds library claim more ≠ []) =
        decide (conflictingEvidenceIds library claim usable ≠ []) := by
    simp only [ne_eq, conflicting_iff library claim sublist agrees]
  rw [sameConflict]
  apply rank_claimRiskStatus_mono
  · exact claimStatus_rank_mono library claim sublist agrees
  · intro clean
    have none := List.map_eq_nil_iff.mp
      (not_not.mp (of_decide_eq_false clean))
    have stillNone := claimIssues_eq_nil_of_more library claim sublist agrees
      none
    rw [stillNone]
    rfl

end Statuses

/-! ## A record more -/

section Adding

variable {front back : List EvidenceRecord} {item : EvidenceRecord}

theorem evidenceById_insert (fresh : ∀ other ∈ front ++ back, other.id ≠ item.id)
    (id : String) :
    evidenceById (front ++ item :: back) id =
      if id = item.id then some item else evidenceById (front ++ back) id := by
  unfold evidenceById
  rw [List.reverse_append, List.reverse_cons, List.append_assoc,
    List.singleton_append, List.find?_append, List.find?_cons,
    List.reverse_append, List.find?_append]
  by_cases same : id = item.id
  · have none : back.reverse.find? (fun other => other.id = id) = none := by
      apply List.find?_eq_none.mpr
      intro other member
      have differs := fresh other
        (List.mem_append_right _ (List.mem_reverse.mp member))
      simp [same, differs]
    rw [none, if_pos same]
    simp [same]
  · have other : item.id ≠ id := fun equal => same equal.symm
    rw [if_neg same]
    simp [other]

/-- More found items are a longer list of them. -/
theorem filterMap_sublist_filterMap {α β : Type} {find findMore : α → Option β}
    (keeps : ∀ key item, find key = some item → findMore key = some item)
    (keys : List α) :
    (keys.filterMap find).Sublist (keys.filterMap findMore) := by
  induction keys with
  | nil => exact List.Sublist.refl _
  | cons key keys induction =>
      cases found : find key with
      | some item =>
          rw [List.filterMap_cons_some found,
            List.filterMap_cons_some (keeps key item found)]
          exact induction.cons_cons item
      | none =>
          rw [List.filterMap_cons_none found]
          cases foundMore : findMore key with
          | some item =>
              rw [List.filterMap_cons_some foundMore]
              exact induction.cons item
          | none =>
              rw [List.filterMap_cons_none foundMore]
              exact induction

/-- A record with a new id adds at most itself to the usable evidence. -/
theorem usableEvidence_insert (claim : ClaimRecord)
    (fresh : ∀ other ∈ front ++ back, other.id ≠ item.id) :
    (usableEvidence claim (front ++ back)).Sublist
        (usableEvidence claim (front ++ item :: back)) ∧
      ∀ other ∈ usableEvidence claim (front ++ item :: back),
        other ∈ usableEvidence claim (front ++ back) ∨ other = item := by
  unfold usableEvidence
  constructor
  · apply List.Sublist.filter
    apply filterMap_sublist_filterMap
    intro id other found
    have member : other ∈ front ++ back :=
      List.mem_reverse.mp (List.mem_of_find?_eq_some found)
    have isFound : (front ++ back).reverse.find?
        (fun other => other.id = id) = some other := found
    have holds := List.find?_some isFound
    have same : other.id = id := of_decide_eq_true holds
    rw [evidenceById_insert fresh, if_neg, found]
    rw [← same]
    exact fresh other member
  · intro other member
    obtain ⟨inAll, usable⟩ := List.mem_filter.mp member
    obtain ⟨id, cited, found⟩ := List.mem_filterMap.mp inAll
    rw [evidenceById_insert fresh] at found
    split at found
    case isTrue => exact Or.inr (Option.some.inj found).symm
    case isFalse =>
      left
      exact List.mem_filter.mpr
        ⟨List.mem_filterMap.mpr ⟨id, cited, found⟩, usable⟩

/-- A record that is not cited leaves the usable evidence as it is. -/
theorem usableEvidence_of_not_cited (claim : ClaimRecord)
    (notCited : item.id ∉ claim.evidenceIds) :
    usableEvidence claim (front ++ item :: back) =
      usableEvidence claim (front ++ back) := by
  unfold usableEvidence
  congr 1
  apply List.filterMap_congr
  intro id cited
  have differs : item.id ≠ id := fun same => notCited (same ▸ cited)
  unfold evidenceById
  rw [List.reverse_append, List.reverse_cons, List.append_assoc,
    List.singleton_append, List.find?_append, List.find?_cons,
    List.reverse_append, List.find?_append]
  simp [differs]

end Adding

/-- A usable record with a new id that is in the scope of a claim and does not
conflict with it lowers none of its scores and makes no status worse, a record
outside its scope changes nothing, and the counts of the statuses add up to
the number of the claims. -/
theorem validation_monotone [PyRuntime] (library : ClaimLibrary)
    (claim : ClaimRecord) (front back : List EvidenceRecord)
    (item : EvidenceRecord) :
    ((∀ other ∈ front ++ back, other.id ≠ item.id) →
        item.id ∈ claim.evidenceIds → item.qualityLabel.isBad = false →
        conflictingEvidenceIds library claim [item] = [] →
          let before := validateClaim library claim (front ++ back)
          let after := validateClaim library claim (front ++ item :: back)
          before.supportScore ≤ after.supportScore ∧
            before.status.rank ≤ after.status.rank ∧
            before.validationStatus.rank ≤ after.validationStatus.rank) ∧
      (item.id ∉ claim.evidenceIds →
        validateClaim library claim (front ++ item :: back) =
          validateClaim library claim (front ++ back)) ∧
      ∀ (projectId : String) (claims : List ClaimRecord)
        (evidence : List EvidenceRecord),
        let counts := claimCounts claims
          (validateProjectClaims library projectId claims evidence)
        counts.supportedCount + counts.weakCount + counts.unsupportedCount +
            counts.blockedCount = claims.length ∧
          (counts.validationStatusCounts.map Prod.snd).sum = claims.length := by
  refine ⟨?_, ?_, ?_⟩
  · intro fresh inScope usable noConflict
    obtain ⟨sublist, added⟩ := usableEvidence_insert claim fresh
    have agrees : ∀ other ∈ usableEvidence claim (front ++ item :: back),
        other ∈ usableEvidence claim (front ++ back) ∨
          conflictingEvidenceIds library claim [other] = [] := by
      intro other member
      rcases added other member with before | isItem
      · exact Or.inl before
      · rw [isItem]
        exact Or.inr noConflict
    exact ⟨claimSupportScore_mono library claim sublist,
      claimStatus_rank_mono library claim sublist agrees,
      claimRiskStatus_rank_mono library claim sublist agrees _⟩
  · intro notCited
    unfold validateClaim
    rw [usableEvidence_of_not_cited claim notCited]
  · intro projectId claims evidence
    have length : (validateProjectClaims library projectId claims
        evidence).results.length = claims.length := List.length_map _
    dsimp only
    rw [← length]
    refine ⟨sum_status_counts _, ?_⟩
    unfold claimCounts
    dsimp only
    rw [List.map_map]
    exact sum_risk_counts _

section Example

local instance validationRuntime : PyRuntime := asciiRuntime

/-- Texts without risks and without structured facts. -/
@[reducible] def plainLibrary : ClaimLibrary :=
  { sha256Hex := id
    riskMatches := fun _ => []
    factPositions := fun _ _ => []
    netloc := id }

@[reducible] def priceClaim : ClaimRecord :=
  { id := "c1"
    projectId := "p1"
    claimText := "monthly price"
    evidenceIds := ["e1", "e2"]
    confidence := 1 }

@[reducible] def priceEvidence (id title : String) : EvidenceRecord :=
  { id := id
    projectId := "p1"
    rawSourceId := id
    title := title
    sourceType := "webpage_verified"
    reliabilityScore := 1
    qualityLabel := .accepted }

theorem validation_monotone_price :
    (validateClaim plainLibrary priceClaim
        [priceEvidence "e1" "monthly price"]).supportScore ≤
      (validateClaim plainLibrary priceClaim
        [priceEvidence "e1" "monthly price",
          priceEvidence "e2" "pricing"]).supportScore :=
  ((validation_monotone plainLibrary priceClaim
    [priceEvidence "e1" "monthly price"] [] (priceEvidence "e2" "pricing")).1
      (by decide) (by decide) (by decide) (by decide +kernel)).1

/-- A second record with an id replaces the first. -/
theorem validation_lowered :
    conflictingEvidenceIds plainLibrary priceClaim
        [priceEvidence "e1" "imprint"] = [] ∧
      (validateClaim plainLibrary priceClaim
          [priceEvidence "e1" "monthly price",
            priceEvidence "e1" "imprint"]).supportScore <
        (validateClaim plainLibrary priceClaim
          [priceEvidence "e1" "monthly price"]).supportScore := by
  decide +kernel

end Example

end CompetiScope
