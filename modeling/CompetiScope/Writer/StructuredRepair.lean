import CompetiScope.Foundation.Collections
import CompetiScope.Schema.Run
import CompetiScope.Writer.StructuredReport

/-!
# Scoped repairs of a structured report

After a scoped redo the previous report is kept and only the sections of the
scopes are taken from the new one.  The support part is always among them, so
a core section that is kept cites into an evidence appendix it was not written
with.
-/

namespace CompetiScope

open Foundation

/-! ## Sections of a scope -/

/-- The keys of `scoped_structured_section_keys`, and the core sections that
no scope names.  `competitorDeepDive name` is `competitor_deep_dive::{name}`. -/
inductive SectionKey where
  | executiveSummary
  | decisionSummary
  | competitiveFindings
  | userReviewThemes
  | competitorDeepDives
  | competitorDeepDive (competitor : String)
  | decisionMatrix
  | swot
  | battlecard
  | communityTriangulation
  | support
  deriving DecidableEq

/-- `_scope_competitors`. -/
def scopeCompetitors (scope : RedoScope) : List String :=
  orderedUnique ((scope.targetCompetitor.toList ++
    scope.targetCompetitors).filter (· ≠ ""))

/-- `_add_competitor_deep_dive_keys`. -/
def competitorDeepDiveKeys (competitors : List String) : List SectionKey :=
  if competitors = [] then [.competitorDeepDives]
  else competitors.map .competitorDeepDive

/-- The keys that a scope adds. -/
def scopeSectionKeys [PyRuntime] (scope : RedoScope) : List SectionKey :=
  let dimension := squeeze (casefold (scope.targetSubagent.getD ""))
  let competitors := scopeCompetitors scope
  (if dimension ∈ ["persona", "review", "customer", "user"] then
      .userReviewThemes :: competitorDeepDiveKeys competitors
    else if dimension = "pricing" then
      .decisionMatrix :: competitorDeepDiveKeys competitors
    else if dimension = "feature" then competitorDeepDiveKeys competitors
    else if competitors ≠ [] then competitorDeepDiveKeys competitors
    else [.competitiveFindings]) ++ [.support]

/-- `scoped_structured_section_keys`. -/
def scopedStructuredSectionKeys [PyRuntime] (scopes : List RedoScope) :
    List SectionKey :=
  scopes.flatMap scopeSectionKeys

/-! ## The merge -/

/-- The candidate's deep dive of a competitor: the last one, when it has
several. -/
def candidateDeepDive (candidate : List CompetitorDeepDiveSection)
    (competitor : String) : Option CompetitorDeepDiveSection :=
  candidate.reverse.find? fun dive => dive.competitor = competitor

/-- What stands in the place of a previous deep dive. -/
def mergedDeepDive (affected : List SectionKey)
    (candidate : List CompetitorDeepDiveSection)
    (previousItem : CompetitorDeepDiveSection) : CompetitorDeepDiveSection :=
  if .competitorDeepDive previousItem.competitor ∈ affected then
    (candidateDeepDive candidate previousItem.competitor).getD previousItem
  else previousItem

/-- The deep dives when the section is not affected as a whole. -/
def mergedDeepDives (affected : List SectionKey)
    (previous candidate : List CompetitorDeepDiveSection) :
    List CompetitorDeepDiveSection :=
  previous.map (mergedDeepDive affected candidate) ++
    candidate.filter fun dive =>
      .competitorDeepDive dive.competitor ∈ affected ∧
        dive.competitor ∉ previous.map (·.competitor)

theorem mergedDeepDives_ne_nil (affected : List SectionKey)
    {previous candidate : List CompetitorDeepDiveSection}
    (filled : previous ≠ []) :
    mergedDeepDives affected previous candidate ≠ [] := by
  simp [mergedDeepDives, filled]

/-- The core of the merged report. -/
def mergedCore (affected : List SectionKey) (previous candidate : ReportCore) :
    ReportCore :=
  { previous with
    competitiveFindings :=
      if .competitiveFindings ∈ affected then candidate.competitiveFindings
      else previous.competitiveFindings
    userReviewThemes :=
      if .userReviewThemes ∈ affected then candidate.userReviewThemes
      else previous.userReviewThemes
    decisionMatrix :=
      if .decisionMatrix ∈ affected then candidate.decisionMatrix
      else previous.decisionMatrix
    competitorDeepDives :=
      if .competitorDeepDives ∈ affected then candidate.competitorDeepDives
      else mergedDeepDives affected previous.competitorDeepDives
        candidate.competitorDeepDives
    hasFindings := by
      split
      · exact candidate.hasFindings
      · exact previous.hasFindings
    hasDeepDives := by
      split
      · exact candidate.hasDeepDives
      · exact mergedDeepDives_ne_nil affected previous.hasDeepDives }

/-- `merge_scoped_structured_report`. -/
def mergeScopedStructuredReport [PyRuntime]
    (previous candidate : StructuredReport) (scopes : List RedoScope) :
    StructuredReport :=
  let affected := scopedStructuredSectionKeys scopes
  if affected = [] then candidate
  else
    { previous with
      metadata := candidate.metadata
      core := mergedCore affected previous.core candidate.core
      support :=
        if .support ∈ affected then candidate.support
        else previous.support }

/-! ## Citations -/

/-- The source ids of walked texts. -/
def walkedIds (walked : Walked) : List String :=
  walked.flatMap fun entry => entry.2.sourceIds

/-- The source ids of cited texts. -/
def citedIds (claims : List CitedText) : List String :=
  claims.flatMap (·.sourceIds)

def DecisionMatrixSection.cellIds (matrix : DecisionMatrixSection) :
    List String :=
  matrix.dimensions.flatMap fun row => row.cells.flatMap (·.sourceIds)

/-- Every source id cited in the core. -/
def ReportCore.sourceIds (core : ReportCore) : List String :=
  walkedIds (core.walk "core") ++ core.decisionMatrix.cellIds

def CompetitorDeepDiveSection.sourceIds (dive : CompetitorDeepDiveSection) :
    List String :=
  walkedIds (dive.walk "")

/-- The deep dives of a competitor in a list. -/
def divesOf (dives : List CompetitorDeepDiveSection) (competitor : String) :
    List CompetitorDeepDiveSection :=
  dives.filter fun dive => dive.competitor = competitor

/-- The deep dives of a competitor. -/
def ReportCore.deepDivesOf (core : ReportCore) (competitor : String) :
    List CompetitorDeepDiveSection :=
  divesOf core.competitorDeepDives competitor

/-- The source ids cited in a section of the core. -/
def SectionKey.sourceIds (core : ReportCore) : SectionKey → List String
  | .executiveSummary => walkedIds (core.executiveSummary.walk "")
  | .decisionSummary => citedIds core.decisionSummary
  | .competitiveFindings => citedIds core.competitiveFindings
  | .userReviewThemes => walkedIds (core.userReviewThemes.walk "")
  | .competitorDeepDives =>
      core.competitorDeepDives.flatMap (·.sourceIds)
  | .competitorDeepDive competitor =>
      (core.deepDivesOf competitor).flatMap (·.sourceIds)
  | .decisionMatrix =>
      walkedIds (core.decisionMatrix.walk "") ++ core.decisionMatrix.cellIds
  | .swot => walkedIds (core.swot.walk "")
  | .battlecard => walkedIds (core.battlecard.walk "")
  | .communityTriangulation => citedIds core.communityTriangulation
  | .support => []

def ReportSupport.appendixIds (support : ReportSupport) : List String :=
  support.evidenceAppendix.map (·.sourceId)

/-- Every source id cited in the core is in the evidence appendix. -/
def StructuredReport.Closed (report : StructuredReport) : Prop :=
  ∀ id ∈ report.core.sourceIds, id ∈ report.support.appendixIds

/-! ## What a merge keeps -/

/-- Two reports have the same section. -/
def SameSection (first second : StructuredReport) : SectionKey → Prop
  | .executiveSummary =>
      first.core.executiveSummary = second.core.executiveSummary
  | .decisionSummary =>
      first.core.decisionSummary = second.core.decisionSummary
  | .competitiveFindings =>
      first.core.competitiveFindings = second.core.competitiveFindings
  | .userReviewThemes =>
      first.core.userReviewThemes = second.core.userReviewThemes
  | .competitorDeepDives =>
      first.core.competitorDeepDives = second.core.competitorDeepDives
  | .competitorDeepDive competitor =>
      first.core.deepDivesOf competitor = second.core.deepDivesOf competitor
  | .decisionMatrix => first.core.decisionMatrix = second.core.decisionMatrix
  | .swot => first.core.swot = second.core.swot
  | .battlecard => first.core.battlecard = second.core.battlecard
  | .communityTriangulation =>
      first.core.communityTriangulation = second.core.communityTriangulation
  | .support => first.support = second.support

/-- One key is the other, or the whole section that the other is a part of. -/
def SectionKey.overlaps : SectionKey → SectionKey → Bool
  | .competitorDeepDives, .competitorDeepDive _ => true
  | .competitorDeepDive _, .competitorDeepDives => true
  | first, second => first = second

/-- A section that no key of a list reaches. -/
def Apart (affected : List SectionKey) (key : SectionKey) : Prop :=
  ∀ other ∈ affected, other.overlaps key = false

structure ScopedMerge [PyRuntime] (previous candidate : StructuredReport)
    (scopes : List RedoScope) (merged : StructuredReport) : Prop where
  fromCandidate : ∀ key ∈ scopedStructuredSectionKeys scopes,
    SameSection merged candidate key
  fromPrevious : ∀ key, key ≠ .support →
    Apart (scopedStructuredSectionKeys scopes) key →
      SameSection merged previous key
  oneDeepDive : ∀ dive ∈ previous.core.competitorDeepDives,
    (merged.core.deepDivesOf dive.competitor).length = 1
  closed : merged.Closed

/-- What the previous report and the candidate have to be like. -/
structure Mergeable [PyRuntime] (previous candidate : StructuredReport)
    (scopes : List RedoScope) : Prop where
  unscoped : scopes = [] → candidate.core = previous.core
  oncePreviously : .competitorDeepDives ∉ scopedStructuredSectionKeys scopes →
    ∀ dive ∈ previous.core.competitorDeepDives,
      (previous.core.deepDivesOf dive.competitor).length = 1
  onceInCandidate : ∀ dive ∈ previous.core.competitorDeepDives,
    ¬ Apart (scopedStructuredSectionKeys scopes)
        (.competitorDeepDive dive.competitor) →
      (candidate.core.deepDivesOf dive.competitor).length = 1
  keptCited : ∀ key, Apart (scopedStructuredSectionKeys scopes) key →
    ∀ id ∈ key.sourceIds previous.core, id ∈ candidate.support.appendixIds

/-! ## Citations by section -/

@[simp] theorem walkedIds_append (first second : Walked) :
    walkedIds (first ++ second) = walkedIds first ++ walkedIds second :=
  List.flatMap_append

private theorem walkedIds_walkFrom {Item : Type}
    {walk : String → Item → Walked} {ids : Item → List String}
    (each : ∀ path item, walkedIds (walk path item) = ids item)
    (path : String) (items : List Item) (start : Nat) :
    walkedIds ((items.zipIdx start).map fun (item, index) =>
      walk (path ++ "[" ++ toString index ++ "]") item).flatten =
        items.flatMap ids := by
  induction items generalizing start with
  | nil => rfl
  | cons item items induction =>
      rw [List.zipIdx_cons, List.map_cons, List.flatten_cons,
        walkedIds_append, each, induction, List.flatMap_cons]

/-- The ids of walked items do not depend on their paths. -/
theorem walkedIds_walkItems {Item : Type} {walk : String → Item → Walked}
    {ids : Item → List String}
    (each : ∀ path item, walkedIds (walk path item) = ids item)
    (path : String) (items : List Item) :
    walkedIds (walkItems walk path items) = items.flatMap ids :=
  walkedIds_walkFrom each path items 0

@[simp] theorem walkedIds_walkText (path : String) (claim : CitedText) :
    walkedIds (walkText path claim) = claim.sourceIds := by
  simp [walkedIds, walkText]

@[simp] theorem walkedIds_walkTexts (path : String)
    (claims : List CitedText) :
    walkedIds (walkTexts path claims) = citedIds claims :=
  walkedIds_walkItems walkedIds_walkText path claims

theorem walkedIds_executiveSummary (path : String)
    (summary : ExecutiveSummarySection) :
    walkedIds (summary.walk path) = walkedIds (summary.walk "") := by
  have each : ∀ path (posture : CompetitorPosture),
      walkedIds (posture.walk path) = posture.posture.sourceIds := by
    intro path posture
    simp [CompetitorPosture.walk]
  simp [ExecutiveSummarySection.walk, walkedIds_walkItems each]

theorem walkedIds_userReviewThemes (path : String)
    (themes : UserReviewThemesSection) :
    walkedIds (themes.walk path) = walkedIds (themes.walk "") := by
  have each : ∀ path (theme : CompetitorUserTheme),
      walkedIds (theme.walk path) = walkedIds (theme.walk "") := by
    intro path theme
    simp [CompetitorUserTheme.walk]
  simp [UserReviewThemesSection.walk, walkedIds_walkItems each]

theorem walkedIds_deepDive (path : String)
    (dive : CompetitorDeepDiveSection) :
    walkedIds (dive.walk path) = dive.sourceIds := by
  simp [CompetitorDeepDiveSection.sourceIds, CompetitorDeepDiveSection.walk]

theorem walkedIds_decisionMatrix (path : String)
    (matrix : DecisionMatrixSection) :
    walkedIds (matrix.walk path) = walkedIds (matrix.walk "") := by
  simp [DecisionMatrixSection.walk]

theorem walkedIds_swot (path : String) (swot : SwotSection) :
    walkedIds (swot.walk path) = walkedIds (swot.walk "") := by
  have each : ∀ path (swot : CompetitorSwot),
      walkedIds (swot.walk path) = walkedIds (swot.walk "") := by
    intro path swot
    simp [CompetitorSwot.walk]
  simp [SwotSection.walk, walkedIds_walkItems each]

theorem walkedIds_battlecard (path : String)
    (battlecard : BattlecardSection) :
    walkedIds (battlecard.walk path) = walkedIds (battlecard.walk "") := by
  have each : ∀ path (play : BattlecardPlay),
      walkedIds (play.walk path) = walkedIds (play.walk "") := by
    intro path play
    simp [BattlecardPlay.walk]
  simp [BattlecardSection.walk, walkedIds_walkItems each]

/-- The sections of the core. -/
def coreSections : List SectionKey :=
  [.executiveSummary, .decisionSummary, .competitiveFindings,
    .userReviewThemes, .competitorDeepDives, .decisionMatrix, .swot,
    .battlecard, .communityTriangulation]

/-- The core cites what its sections cite. -/
theorem mem_sourceIds {core : ReportCore} {id : String} :
    id ∈ core.sourceIds ↔ ∃ key ∈ coreSections, id ∈ key.sourceIds core := by
  simp only [ReportCore.sourceIds, ReportCore.walk, walkedIds_append,
    walkedIds_walkTexts, walkedIds_walkItems walkedIds_deepDive,
    walkedIds_executiveSummary (_ ++ _), walkedIds_userReviewThemes (_ ++ _),
    walkedIds_decisionMatrix (_ ++ _), walkedIds_swot (_ ++ _),
    walkedIds_battlecard (_ ++ _), List.mem_append, coreSections,
    List.mem_cons, List.not_mem_nil, or_false, exists_eq_or_imp,
    exists_eq_left, SectionKey.sourceIds]
  tauto

theorem mem_sourceIds_deepDives {core : ReportCore} {id : String} :
    id ∈ SectionKey.competitorDeepDives.sourceIds core ↔
      ∃ dive ∈ core.competitorDeepDives,
        id ∈ (SectionKey.competitorDeepDive dive.competitor).sourceIds
          core := by
  simp only [SectionKey.sourceIds, ReportCore.deepDivesOf, divesOf,
    List.mem_flatMap,
    List.mem_filter, decide_eq_true_eq]
  constructor
  · rintro ⟨dive, member, cited⟩
    exact ⟨dive, member, dive, ⟨member, rfl⟩, cited⟩
  · rintro ⟨-, -, dive, ⟨member, -⟩, cited⟩
    exact ⟨dive, member, cited⟩

/-- What a section cites is cited in the core. -/
theorem mem_sourceIds_of_section {core : ReportCore} {key : SectionKey}
    {id : String} (cited : id ∈ key.sourceIds core) :
    id ∈ core.sourceIds := by
  apply mem_sourceIds.mpr
  cases key with
  | competitorDeepDive competitor =>
      refine ⟨.competitorDeepDives, by decide, ?_⟩
      rcases List.mem_flatMap.mp cited with ⟨dive, ofCompetitor, inDive⟩
      have member := (List.mem_filter.mp ofCompetitor).1
      exact List.mem_flatMap.mpr ⟨dive, member, inDive⟩
  | support => cases cited
  | _ => exact ⟨_, by decide, cited⟩

/-- Sections that are the same cite the same ids. -/
theorem SameSection.sourceIds_eq {first second : StructuredReport}
    {key : SectionKey} (same : SameSection first second key) :
    key.sourceIds first.core = key.sourceIds second.core := by
  cases key with
  | support => rfl
  | _ => simp only [SectionKey.sourceIds, show _ = _ from same]

/-! ## The deep dives of a competitor -/

section DeepDives

variable {affected : List SectionKey}
  {previous candidate : List CompetitorDeepDiveSection} {competitor : String}

theorem mergedDeepDive_competitor (dive : CompetitorDeepDiveSection) :
    (mergedDeepDive affected candidate dive).competitor = dive.competitor := by
  unfold mergedDeepDive
  split
  · cases found : candidateDeepDive candidate dive.competitor with
    | none => rfl
    | some chosen => simpa using List.find?_some found
  · rfl

theorem divesOf_map_merged :
    divesOf (previous.map (mergedDeepDive affected candidate)) competitor =
      (divesOf previous competitor).map
        (mergedDeepDive affected candidate) := by
  rw [divesOf, divesOf, List.filter_map]
  congr 1
  apply List.filter_congr
  intro dive _
  simp [mergedDeepDive_competitor]

/-- A competitor that no scope names keeps its deep dives. -/
theorem divesOf_merged_of_unaffected
    (unaffected : .competitorDeepDive competitor ∉ affected) :
    divesOf (mergedDeepDives affected previous candidate) competitor =
      divesOf previous competitor := by
  have kept : ∀ dive ∈ divesOf previous competitor,
      mergedDeepDive affected candidate dive = dive := by
    intro dive member
    have named : dive.competitor = competitor := by
      simpa using (List.mem_filter.mp member).2
    rw [mergedDeepDive, named, if_neg unaffected]
  have noneAdded : divesOf (candidate.filter fun dive =>
      .competitorDeepDive dive.competitor ∈ affected ∧
        dive.competitor ∉ previous.map (·.competitor)) competitor = [] := by
    rw [divesOf, List.filter_eq_nil_iff]
    intro dive added
    have isAffected := (List.mem_filter.mp added).2
    simp only [decide_eq_true_eq] at isAffected ⊢
    intro named
    rw [named] at isAffected
    exact unaffected isAffected.1
  rw [mergedDeepDives, divesOf, List.filter_append, ← divesOf, ← divesOf,
    noneAdded, List.append_nil, divesOf_map_merged,
    List.map_congr_left kept, List.map_id']

/-- A competitor that only the candidate has gets the candidate's. -/
theorem divesOf_merged_of_new
    (isAffected : .competitorDeepDive competitor ∈ affected)
    (new : competitor ∉ previous.map (·.competitor)) :
    divesOf (mergedDeepDives affected previous candidate) competitor =
      divesOf candidate competitor := by
  have noneKept : divesOf (previous.map (mergedDeepDive affected candidate))
      competitor = [] := by
    rw [divesOf_map_merged, divesOf, List.map_eq_nil_iff,
      List.filter_eq_nil_iff]
    intro dive member named
    exact new (List.mem_map.mpr ⟨dive, member, by simpa using named⟩)
  rw [mergedDeepDives, divesOf, List.filter_append, ← divesOf, ← divesOf,
    noneKept, List.nil_append, divesOf, divesOf, List.filter_filter]
  apply List.filter_congr
  intro dive _
  by_cases named : dive.competitor = competitor
  · simp only [named, decide_true, Bool.true_and, decide_eq_true_eq]
    exact ⟨isAffected, new⟩
  · simp [named]

/-- A competitor that a scope names and both reports have. -/
theorem divesOf_merged_of_both
    (isAffected : .competitorDeepDive competitor ∈ affected)
    (known : competitor ∈ previous.map (·.competitor)) :
    divesOf (mergedDeepDives affected previous candidate) competitor =
      (divesOf previous competitor).map fun dive =>
        (candidateDeepDive candidate competitor).getD dive := by
  have noneAdded : divesOf (candidate.filter fun dive =>
      .competitorDeepDive dive.competitor ∈ affected ∧
        dive.competitor ∉ previous.map (·.competitor)) competitor = [] := by
    rw [divesOf, List.filter_eq_nil_iff]
    intro dive added
    have fresh := (List.mem_filter.mp added).2
    simp only [decide_eq_true_eq] at fresh ⊢
    intro named
    rw [named] at fresh
    exact fresh.2 known
  rw [mergedDeepDives, divesOf, List.filter_append, ← divesOf, ← divesOf,
    noneAdded, List.append_nil, divesOf_map_merged]
  apply List.map_congr_left
  intro dive member
  have named : dive.competitor = competitor := by
    simpa using (List.mem_filter.mp member).2
  rw [mergedDeepDive, named, if_pos isAffected]

/-- With one deep dive on each side, the candidate's takes the place. -/
theorem divesOf_merged_of_once
    (isAffected : .competitorDeepDive competitor ∈ affected)
    (oncePreviously : (divesOf previous competitor).length = 1)
    (onceInCandidate : (divesOf candidate competitor).length = 1) :
    divesOf (mergedDeepDives affected previous candidate) competitor =
      divesOf candidate competitor := by
  obtain ⟨dive, onlyPrevious⟩ := List.length_eq_one_iff.mp oncePreviously
  obtain ⟨chosen, onlyCandidate⟩ := List.length_eq_one_iff.mp onceInCandidate
  have known : competitor ∈ previous.map (·.competitor) := by
    have member : dive ∈ divesOf previous competitor := by
      rw [onlyPrevious]
      exact List.mem_singleton_self dive
    rcases List.mem_filter.mp member with ⟨member, named⟩
    exact List.mem_map.mpr ⟨dive, member, by simpa using named⟩
  have found : candidateDeepDive candidate competitor = some chosen := by
    rw [candidateDeepDive, ← List.head?_filter, List.filter_reverse,
      ← divesOf, onlyCandidate]
    rfl
  rw [divesOf_merged_of_both isAffected known, onlyPrevious, onlyCandidate,
    found]
  rfl

end DeepDives

/-! ## Keys of the scopes -/

theorem SectionKey.overlaps_self (key : SectionKey) :
    key.overlaps key = true := by
  cases key with
  | _ => simp [SectionKey.overlaps]

theorem Apart.not_mem {affected : List SectionKey} {key : SectionKey}
    (apart : Apart affected key) : key ∉ affected := by
  intro member
  have overlaps := apart key member
  rw [SectionKey.overlaps_self] at overlaps
  cases overlaps

theorem apart_deepDive_iff {affected : List SectionKey}
    {competitor : String} :
    Apart affected (.competitorDeepDive competitor) ↔
      .competitorDeepDives ∉ affected ∧
        .competitorDeepDive competitor ∉ affected := by
  constructor
  · intro apart
    refine ⟨?_, apart.not_mem⟩
    intro whole
    cases apart _ whole
  · rintro ⟨notWhole, notNamed⟩ other member
    cases other with
    | competitorDeepDives => exact absurd member notWhole
    | competitorDeepDive name =>
        have different : name ≠ competitor := by
          rintro rfl
          exact notNamed member
        simpa [SectionKey.overlaps] using different
    | _ => rfl

/-- A section with no parts overlaps itself only. -/
theorem overlaps_eq {other key : SectionKey}
    (notWhole : key ≠ .competitorDeepDives)
    (notPart : ∀ competitor, key ≠ .competitorDeepDive competitor) :
    other.overlaps key = decide (other = key) := by
  cases key with
  | competitorDeepDives => exact absurd rfl notWhole
  | competitorDeepDive competitor => exact absurd rfl (notPart competitor)
  | _ =>
      cases other with
      | _ => rfl

theorem apart_of_not_mem {affected : List SectionKey} {key : SectionKey}
    (notWhole : key ≠ .competitorDeepDives)
    (notPart : ∀ competitor, key ≠ .competitorDeepDive competitor)
    (absent : key ∉ affected) : Apart affected key := by
  intro other member
  rw [overlaps_eq notWhole notPart, decide_eq_false_iff_not]
  rintro rfl
  exact absent member

section Scopes

variable [PyRuntime] {scopes : List RedoScope}

/-- The sections that a scope can name. -/
def SectionKey.IsScoped : SectionKey → Prop
  | .competitiveFindings => True
  | .userReviewThemes => True
  | .competitorDeepDives => True
  | .competitorDeepDive _ => True
  | .decisionMatrix => True
  | .support => True
  | _ => False

omit [PyRuntime] in
theorem isScoped_competitorDeepDiveKeys {competitors : List String}
    {key : SectionKey} (member : key ∈ competitorDeepDiveKeys competitors) :
    key.IsScoped := by
  unfold competitorDeepDiveKeys at member
  split at member
  · rw [List.mem_singleton.mp member]
    trivial
  · rcases List.mem_map.mp member with ⟨competitor, -, rfl⟩
    trivial

theorem isScoped_of_mem {key : SectionKey}
    (member : key ∈ scopedStructuredSectionKeys scopes) : key.IsScoped := by
  rcases List.mem_flatMap.mp member with ⟨scope, -, ofScope⟩
  unfold scopeSectionKeys at ofScope
  rcases List.mem_append.mp ofScope with ofScope | ofScope
  · split at ofScope
    · rcases List.mem_cons.mp ofScope with rfl | ofDives
      · trivial
      · exact isScoped_competitorDeepDiveKeys ofDives
    · split at ofScope
      · rcases List.mem_cons.mp ofScope with rfl | ofDives
        · trivial
        · exact isScoped_competitorDeepDiveKeys ofDives
      · split at ofScope
        · exact isScoped_competitorDeepDiveKeys ofScope
        · split at ofScope
          · exact isScoped_competitorDeepDiveKeys ofScope
          · rw [List.mem_singleton.mp ofScope]
            trivial
  · rw [List.mem_singleton.mp ofScope]
    trivial

theorem support_mem_keys (someScope : scopes ≠ []) :
    .support ∈ scopedStructuredSectionKeys scopes := by
  obtain ⟨scope, member⟩ := List.exists_mem_of_ne_nil scopes someScope
  apply List.mem_flatMap.mpr
  refine ⟨scope, member, ?_⟩
  simp [scopeSectionKeys]

end Scopes

/-! ## The merged report -/

section Merge

variable [PyRuntime] {previous candidate : StructuredReport}
  {scopes : List RedoScope}

theorem merge_unscoped (previous candidate : StructuredReport) :
    mergeScopedStructuredReport previous candidate [] = candidate := by
  unfold mergeScopedStructuredReport
  exact if_pos rfl

theorem keys_ne_nil (someScope : scopes ≠ []) :
    scopedStructuredSectionKeys scopes ≠ [] :=
  List.ne_nil_of_mem (support_mem_keys someScope)

theorem merge_core (someScope : scopes ≠ []) :
    (mergeScopedStructuredReport previous candidate scopes).core =
      mergedCore (scopedStructuredSectionKeys scopes) previous.core
        candidate.core := by
  unfold mergeScopedStructuredReport
  dsimp only
  rw [if_neg (keys_ne_nil someScope)]

theorem merge_support (someScope : scopes ≠ []) :
    (mergeScopedStructuredReport previous candidate scopes).support =
      candidate.support := by
  unfold mergeScopedStructuredReport
  dsimp only
  rw [if_neg (keys_ne_nil someScope)]
  exact if_pos (support_mem_keys someScope)

/-- The support part is always the candidate's. -/
theorem merge_support_eq :
    (mergeScopedStructuredReport previous candidate scopes).support =
      candidate.support := by
  by_cases someScope : scopes = []
  · rw [someScope, merge_unscoped]
  · exact merge_support someScope

/-- The merged deep dives, section by section. -/
theorem merge_deepDives (someScope : scopes ≠ []) :
    (mergeScopedStructuredReport previous candidate
        scopes).core.competitorDeepDives =
      if .competitorDeepDives ∈ scopedStructuredSectionKeys scopes then
        candidate.core.competitorDeepDives
      else mergedDeepDives (scopedStructuredSectionKeys scopes)
        previous.core.competitorDeepDives
          candidate.core.competitorDeepDives := by
  rw [merge_core someScope]
  rfl

/-- A section that no scope names is the previous one. -/
theorem merge_fromPrevious (someScope : scopes ≠ []) (key : SectionKey)
    (inCore : key ≠ .support)
    (apart : Apart (scopedStructuredSectionKeys scopes) key) :
    SameSection (mergeScopedStructuredReport previous candidate scopes)
      previous key := by
  have absent := apart.not_mem
  cases key with
  | competitorDeepDives =>
      have noneNamed : ∀ competitor, SectionKey.competitorDeepDive competitor ∉
          scopedStructuredSectionKeys scopes := by
        intro competitor member
        cases apart _ member
      have kept : ∀ dive ∈ previous.core.competitorDeepDives,
          mergedDeepDive (scopedStructuredSectionKeys scopes)
            candidate.core.competitorDeepDives dive = dive := by
        intro dive _
        exact if_neg (noneNamed dive.competitor)
      show _ = _
      rw [merge_deepDives someScope, if_neg absent, mergedDeepDives,
        List.map_congr_left kept, List.map_id']
      simp [noneNamed]
  | competitorDeepDive competitor =>
      obtain ⟨notWhole, notNamed⟩ := apart_deepDive_iff.mp apart
      show divesOf _ _ = divesOf _ _
      rw [merge_deepDives someScope, if_neg notWhole,
        divesOf_merged_of_unaffected notNamed]
  | support => exact absurd rfl inCore
  | _ =>
      simp only [SameSection, merge_core someScope, mergedCore]
      try exact if_neg absent

/-- A named section is the candidate's, when no deep dive is doubled or
missing. -/
theorem merge_fromCandidate (mergeable : Mergeable previous candidate scopes)
    {key : SectionKey}
    (member : key ∈ scopedStructuredSectionKeys scopes) :
    SameSection (mergeScopedStructuredReport previous candidate scopes)
      candidate key := by
  have someScope : scopes ≠ [] := by
    rintro rfl
    cases member
  have isScoped := isScoped_of_mem member
  cases key with
  | competitorDeepDives =>
      show _ = _
      rw [merge_deepDives someScope, if_pos member]
  | competitorDeepDive competitor =>
      show divesOf _ _ = divesOf _ _
      rw [merge_deepDives someScope]
      split
      · rfl
      · next notWhole =>
          by_cases known : competitor ∈
              previous.core.competitorDeepDives.map (·.competitor)
          · rcases List.mem_map.mp known with ⟨dive, isPrevious, rfl⟩
            have reached : ¬ Apart (scopedStructuredSectionKeys scopes)
                (.competitorDeepDive dive.competitor) :=
              fun apart => apart.not_mem member
            exact divesOf_merged_of_once member
              (mergeable.oncePreviously notWhole dive isPrevious)
              (mergeable.onceInCandidate dive isPrevious reached)
          · exact divesOf_merged_of_new member known
  | support => exact merge_support someScope
  | competitiveFindings =>
      simp only [SameSection, merge_core someScope, mergedCore]
      exact if_pos member
  | userReviewThemes =>
      simp only [SameSection, merge_core someScope, mergedCore]
      exact if_pos member
  | decisionMatrix =>
      simp only [SameSection, merge_core someScope, mergedCore]
      exact if_pos member
  | _ => cases isScoped

theorem deepDivesOf_once (mergeable : Mergeable previous candidate scopes)
    {dive : CompetitorDeepDiveSection}
    (isPrevious : dive ∈ previous.core.competitorDeepDives) :
    ((mergeScopedStructuredReport previous candidate
      scopes).core.deepDivesOf dive.competitor).length = 1 := by
  by_cases apart : Apart (scopedStructuredSectionKeys scopes)
      (.competitorDeepDive dive.competitor)
  · have once := mergeable.oncePreviously (apart_deepDive_iff.mp apart).1
      dive isPrevious
    by_cases someScope : scopes = []
    · subst someScope
      rw [merge_unscoped, mergeable.unscoped rfl]
      exact once
    · have same : _ = _ := @merge_fromPrevious _ previous candidate scopes
        someScope (.competitorDeepDive dive.competitor) nofun apart
      rw [same]
      exact once
  · have reached := apart
    rw [apart_deepDive_iff, not_and_or, not_not, not_not] at reached
    have onceInCandidate := mergeable.onceInCandidate dive isPrevious apart
    rcases reached with whole | named
    · have same : _ = _ := merge_fromCandidate mergeable whole
      rw [ReportCore.deepDivesOf, same]
      exact onceInCandidate
    · have same : _ = _ := merge_fromCandidate mergeable named
      rw [same]
      exact onceInCandidate

theorem merge_closed (candidateClosed : candidate.Closed)
    (mergeable : Mergeable previous candidate scopes) :
    (mergeScopedStructuredReport previous candidate scopes).Closed := by
  by_cases someScope : scopes = []
  · subst someScope
    rw [merge_unscoped]
    exact candidateClosed
  intro id cited
  rw [merge_support_eq]
  -- a section that is taken over as a whole
  have ofSection : ∀ key : SectionKey, key ≠ .support →
      key ∈ scopedStructuredSectionKeys scopes ∨
        Apart (scopedStructuredSectionKeys scopes) key →
      id ∈ key.sourceIds (mergeScopedStructuredReport previous candidate
        scopes).core →
      id ∈ candidate.support.appendixIds := by
    intro key inCore provenance inSection
    rcases provenance with member | apart
    · rw [(merge_fromCandidate mergeable member).sourceIds_eq] at inSection
      exact candidateClosed id (mem_sourceIds_of_section inSection)
    · rw [(merge_fromPrevious someScope key inCore apart).sourceIds_eq] at inSection
      exact mergeable.keptCited key apart id inSection
  obtain ⟨key, isSection, inSection⟩ := mem_sourceIds.mp cited
  by_cases whole : key = .competitorDeepDives
  · subst whole
    by_cases wholeMember : .competitorDeepDives ∈
        scopedStructuredSectionKeys scopes
    · exact ofSection .competitorDeepDives nofun (.inl wholeMember)
        inSection
    · obtain ⟨dive, -, inDive⟩ := mem_sourceIds_deepDives.mp inSection
      apply ofSection (.competitorDeepDive dive.competitor) nofun ?_ inDive
      by_cases named : .competitorDeepDive dive.competitor ∈
          scopedStructuredSectionKeys scopes
      · exact .inl named
      · exact .inr (apart_deepDive_iff.mpr ⟨wholeMember, named⟩)
  · have notPart : ∀ competitor, key ≠ .competitorDeepDive competitor := by
      rintro competitor rfl
      simp [coreSections] at isSection
    have inCore : key ≠ .support := by
      rintro rfl
      simp [coreSections] at isSection
    apply ofSection key inCore ?_ inSection
    by_cases member : key ∈ scopedStructuredSectionKeys scopes
    · exact .inl member
    · exact .inr (apart_of_not_mem whole notPart member)

end Merge

/-- When a scoped merge is closed and local, for a candidate that is closed. -/
theorem mergeScopedStructuredReport_scopedMerge_iff [PyRuntime]
    (previous : StructuredReport) {candidate : StructuredReport}
    (scopes : List RedoScope) (candidateClosed : candidate.Closed) :
    ScopedMerge previous candidate scopes
        (mergeScopedStructuredReport previous candidate scopes) ↔
      Mergeable previous candidate scopes := by
  constructor
  · intro merge
    constructor
    case unscoped =>
      rintro rfl
      have same : ∀ key, key ≠ SectionKey.support →
          SameSection candidate previous key := by
        intro key inCore
        have kept := merge.fromPrevious key inCore nofun
        rwa [merge_unscoped] at kept
      exact ReportCore.ext (same .executiveSummary nofun)
        (same .decisionSummary nofun) (same .competitiveFindings nofun)
        (same .userReviewThemes nofun) (same .competitorDeepDives nofun)
        (same .decisionMatrix nofun) (same .swot nofun)
        (same .battlecard nofun) (same .communityTriangulation nofun)
    case oncePreviously =>
      intro notWhole dive isPrevious
      have once := merge.oneDeepDive dive isPrevious
      by_cases named : .competitorDeepDive dive.competitor ∈
          scopedStructuredSectionKeys scopes
      · have someScope : scopes ≠ [] := by
          rintro rfl
          cases named
        rw [ReportCore.deepDivesOf, merge_deepDives someScope,
          if_neg notWhole, divesOf_merged_of_both named
            (List.mem_map.mpr ⟨dive, isPrevious, rfl⟩),
          List.length_map] at once
        exact once
      · have kept : _ = _ := merge.fromPrevious
          (.competitorDeepDive dive.competitor) nofun
          (apart_deepDive_iff.mpr ⟨notWhole, named⟩)
        rwa [kept] at once
    case onceInCandidate =>
      intro dive isPrevious reached
      have once := merge.oneDeepDive dive isPrevious
      rw [apart_deepDive_iff, not_and_or, not_not, not_not] at reached
      rcases reached with whole | named
      · have taken : _ = _ := merge.fromCandidate _ whole
        rwa [ReportCore.deepDivesOf, taken] at once
      · have taken : _ = _ := merge.fromCandidate _ named
        rwa [taken] at once
    case keptCited =>
      intro key apart id cited
      by_cases isSupport : key = .support
      · subst isSupport
        cases cited
      · rw [← (merge.fromPrevious key isSupport apart).sourceIds_eq] at cited
        have inAppendix := merge.closed id (mem_sourceIds_of_section cited)
        rwa [merge_support_eq] at inAppendix
  · intro mergeable
    constructor
    case fromCandidate =>
      intro key member
      exact merge_fromCandidate mergeable member
    case fromPrevious =>
      intro key inCore apart
      by_cases someScope : scopes = []
      · subst someScope
        have same := mergeable.unscoped rfl
        rw [merge_unscoped]
        cases key with
        | support => exact absurd rfl inCore
        | _ => simp only [SameSection, same]
      · exact merge_fromPrevious someScope key inCore apart
    case oneDeepDive =>
      intro dive isPrevious
      exact deepDivesOf_once mergeable isPrevious
    case closed => exact merge_closed candidateClosed mergeable

namespace StructuredRepairExample

local instance structuredRepairRuntime : PyRuntime := asciiRuntime

/-- A source of the two reports. -/
inductive ExampleSource where
  | first
  | second

def ExampleSource.id : ExampleSource → String
  | .first => "s1"
  | .second => "s2"

def claim (source : ExampleSource) : CitedText :=
  { text := "Cursor ships weekly."
    sourceIds := [source.id]
    confidence := .high
    evidenceRole := .officialFact
    textIsPlain :=
      { trimmed := by decide
        filled := by decide
        plain := by decide }
    idsAreClean :=
      { trimmed := by cases source with | _ => decide
        filled := by cases source with | _ => decide
        distinct := List.nodup_singleton _ }
    citedUnlessGap := fun _ => List.cons_ne_nil _ _
    gapNotHigh := nofun }

def core (source : ExampleSource) : ReportCore :=
  { executiveSummary :=
      { recommendation := claim source
        riskAdjustedRationale := claim source
        competitorPostures :=
          [{ competitor := "Cursor"
             posture := claim source
             named := by decide }]
        confidenceBoundary := claim source
        nextActions := [claim source]
        hasPostures := List.cons_ne_nil _ _
        hasActions := List.cons_ne_nil _ _ }
    decisionSummary := [claim source]
    competitiveFindings := [claim source]
    userReviewThemes :=
      { competitorThemes :=
          [{ competitor := "Cursor"
             named := by decide }]
        hasThemes := List.cons_ne_nil _ _ }
    competitorDeepDives :=
      [{ competitor := "Cursor"
         positioning := [claim source]
         named := by decide }]
    decisionMatrix :=
      { dimensions :=
          [{ dimension := "pricing"
             cells :=
               [{ competitor := "Cursor"
                  summary := "Priced per seat."
                  confidence := .high
                  named := by decide
                  summaryIsPlain :=
                    { trimmed := by decide
                      filled := by decide
                      plain := by decide }
                  idsAreClean :=
                    { trimmed := by decide
                      filled := by decide
                      distinct := List.nodup_nil } }]
             named := by decide
             hasCells := List.cons_ne_nil _ _ }]
        hasDimensions := List.cons_ne_nil _ _ }
    swot :=
      { competitors :=
          [{ competitor := "Cursor"
             named := by decide }]
        hasCompetitors := List.cons_ne_nil _ _ }
    battlecard := {}
    hasSummary := List.cons_ne_nil _ _
    hasFindings := List.cons_ne_nil _ _
    hasDeepDives := List.cons_ne_nil _ _ }

/-- A report whose only source is its only appendix row. -/
def report (source : ExampleSource) : StructuredReport :=
  { outputLanguage := "en-US"
    topic := "Editors"
    competitors := ["Cursor"]
    core := core source
    support :=
      { evidenceAppendix :=
          [{ sourceId := source.id
             title := "Changelog"
             evidenceRole := .officialFact
             confidence := .high
             idTrimmed := by cases source with | _ => decide
             idFilled := by cases source with | _ => decide
             titleTrimmed := by decide
             titleFilled := by decide }] }
    metadata :=
      { writerMode := "structured"
        segmentCount := 1
        sourceCount := 1
        structuredReportVersion := "1"
        hasMode := by decide
        hasVersion := by decide }
    hasLanguage := by decide
    hasTopic := by decide
    hasCompetitors := List.cons_ne_nil _ _ }

theorem report_closed (source : ExampleSource) : (report source).Closed := by
  intro id cited
  have only : ∀ id ∈ (report source).core.sourceIds, id = source.id := by
    cases source with
    | _ => decide
  rw [only id cited]
  exact List.mem_singleton_self _

/-- A redo of Cursor's user research. -/
def scope : RedoScope :=
  { kind := .collector
    targetSubagent := some "persona"
    targetCompetitor := some "Cursor" }

theorem mergeScopedStructuredReport_scopedMerge_iff_redo :
    ScopedMerge (report .first) (report .second) [scope]
        (mergeScopedStructuredReport (report .first) (report .second)
          [scope]) ↔
      Mergeable (report .first) (report .second) [scope] :=
  mergeScopedStructuredReport_scopedMerge_iff (report .first) [scope]
    (report_closed .second)

/-- The findings that are kept cite a source that the new appendix lacks. -/
theorem kept_findings_uncited :
    (report .first).Closed ∧ (report .second).Closed ∧
      ¬ ScopedMerge (report .first) (report .second) [scope]
        (mergeScopedStructuredReport (report .first) (report .second)
          [scope]) := by
  refine ⟨report_closed .first, report_closed .second, ?_⟩
  intro merge
  have cited : "s1" ∈ SectionKey.competitiveFindings.sourceIds
      (mergeScopedStructuredReport (report .first) (report .second)
        [scope]).core := by
    decide
  have inAppendix := merge.closed "s1" (mem_sourceIds_of_section cited)
  rw [merge_support_eq] at inAppendix
  exact absurd inAppendix (by decide)

end StructuredRepairExample

end CompetiScope
