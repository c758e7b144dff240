import CompetiScope.Agents.ClearedOutputs
import CompetiScope.Orchestrator.Graph

/-!
# What a rerun empties and what it dispatches

A rerun removes sources and clears outputs in one place and computes the
slices it dispatches in another.  Each way to start a rerun has a footprint on
the run detail; comparing the footprint with the dispatched slices tells which
slots of the plan are emptied without being produced again.
-/

namespace CompetiScope

open Foundation

/-- The ways to start a rerun: a phase QA sends its phase back, or a redo
scope is prepared by the final QA or by a scoped redo. -/
inductive Rerun where
  | phaseRetry (phase : Phase)
  | redo (scope : RedoScope)

/-- The slices the graph dispatches for a prepared rerun. -/
def PreparedRedo.dispatched (redo : PreparedRedo) : List Branch :=
  branchesOf (orElse redo.dimensions redo.detail.plan.dimensions)
    (orElse redo.targetCompetitors redo.detail.plan.competitors)

private theorem map_filter_ne_iff {Item Key : Type} {key : Item → Key}
    {items : List Item} {removes : Item → Bool} :
    (items.filter fun item => !removes item).map key ≠ items.map key ↔
      ∃ item ∈ items, removes item = true := by
  constructor
  · intro different
    by_contra kept
    apply different
    have all : items.filter (fun item => !removes item) = items := by
      rw [List.filter_eq_self]
      intro item member
      simpa using fun removed => kept ⟨item, member, removed⟩
    rw [all]
  · rintro ⟨item, member, removed⟩ same
    have lengths := congrArg List.length same
    simp only [List.length_map] at lengths
    have all := List.length_filter_eq_length_iff.mp lengths item member
    simp [removed] at all

section

variable [PyRuntime]

/-- Preparing a rerun; a retry has no failing path. -/
def Rerun.prepare (detail : RunDetail) : Rerun → Except RedoError PreparedRedo
  | .phaseRetry phase =>
      .ok
        { detail := preparePhaseRetry detail phase
          dimensions := issueDimensions detail.plan
            (blockingPhaseIssues detail phase)
          targetCompetitors := issueTargetCompetitors detail.plan
            (blockingPhaseIssues detail phase) }
  | .redo scope => prepareRedoScopeInputs detail scope

/-! ## Emptied slots -/

def StructuredSliceFilled (detail : RunDetail) (branch : Branch) : Prop :=
  ∃ knowledge,
    detail.competitorKnowledge.get? branch.competitor = some knowledge ∧
      ¬ (knowledgeSlot branch.dimension).IsEmpty knowledge

/-- The dimension reads the review summary and finds cited items there. -/
def ReviewSliceFilled (detail : RunDetail) (branch : Branch) : Prop :=
  dimensionUsesReviewSummary branch.dimension = true ∧
    ∃ knowledge,
      detail.competitorKnowledge.get? branch.competitor = some knowledge ∧
        knowledge.reviewSummary.hasCitedItems = true

/-- A slot loses sources, its KB slice or its structured knowledge. -/
def SlotEmptied (before after : RunDetail) (branch : Branch) : Prop :=
  sourceIdsForCompetitorDimension after branch.competitor branch.dimension ≠
      sourceIdsForCompetitorDimension before branch.competitor
        branch.dimension ∨
    (kbSlice before branch.competitor branch.dimension ≠ none ∧
      kbSlice after branch.competitor branch.dimension = none) ∨
    (StructuredSliceFilled before branch ∧
      ¬ StructuredSliceFilled after branch) ∨
    (ReviewSliceFilled before branch ∧ ¬ ReviewSliceFilled after branch)

/-- No slot of the plan is emptied without being dispatched. -/
def RerunClosed (before : RunDetail) (redo : PreparedRedo) : Prop :=
  ∀ branch ∈ before.plan.branches,
    SlotEmptied before redo.detail branch → branch ∈ redo.dispatched

/-! ## Footprints -/

/-- What preparing a rerun takes away: sources, KB slices and structured
knowledge of each competitor. -/
structure Footprint where
  removes : RawSource → Bool
  slices : String → List String
  knowledge : String → List String

namespace Footprint

def none : Footprint :=
  { removes := fun _ => false
    slices := fun _ => []
    knowledge := fun _ => [] }

/-- Ids of the competitor's sources that stay in the run. -/
def survivingIds (footprint : Footprint) (detail : RunDetail)
    (competitor : String) : List String :=
  (detail.rawSources.filter fun source =>
    sourceMatchesCompetitor source competitor &&
      !footprint.removes source).map (·.id)

/-- The footprint spares a slot: it keeps the sources, finds no KB slice to
drop, clears no dimension that shares a filled section, and leaves the review
summary a citation. -/
structure Spares (footprint : Footprint) (detail : RunDetail)
    (branch : Branch) : Prop where
  sources : ∀ source ∈ sourcesForCompetitorDimension detail branch.competitor
    branch.dimension, footprint.removes source = false
  kbSlice : branch.dimension ∈ footprint.slices branch.competitor →
    kbSlice detail branch.competitor branch.dimension = Option.none
  sections : ∀ other ∈ footprint.knowledge branch.competitor,
    knowledgeSlot other = knowledgeSlot branch.dimension →
      ¬ StructuredSliceFilled detail branch
  reviews : ReviewSliceFilled detail branch →
    ∃ knowledge,
      detail.competitorKnowledge.get? branch.competitor = some knowledge ∧
        ∃ ids ∈ knowledge.reviewSummary.citations, ∃ id ∈ ids,
          SurvivesPruning (footprint.survivingIds detail branch.competitor)
            (prunings (footprint.knowledge branch.competitor)) id

end Footprint

/-- The footprint of one dimension cleared for target competitors. -/
def dimensionFootprint (plan : AnalysisPlan) (removes : RawSource → Bool)
    (targets : List String) (dimension : String) : Footprint :=
  { removes := removes
    slices := droppedSlices targets dimension
    knowledge := clearedSections plan targets dimension }

/-- The competitors a collector redo clears: those of the scope and those
whose outputs mention a removed source. -/
def collectorRedoCompetitors (detail : RunDetail) (dimension : String)
    (inScope : List String) : List String :=
  mergeOrderedRefs
    [inScope ++
      competitorsWithRemovedSourceDependency detail dimension
        (removedSourceIds dimension inScope
          (reportCitedRawSourceIds detail.reportMd) detail.rawSources)]

def phaseRetryFootprint (detail : RunDetail) (phase : Phase) : Footprint :=
  let dimensions := issueDimensions detail.plan
    (blockingPhaseIssues detail phase)
  let targets := issueTargetCompetitors detail.plan
    (blockingPhaseIssues detail phase)
  { removes := fun source =>
      phase = .collect && collectRetryRemoves dimensions targets source
    slices := fun competitor =>
      dimensions.flatMap fun dimension =>
        droppedSlices targets dimension competitor
    knowledge := fun competitor =>
      dimensions.flatMap fun dimension =>
        clearedSections detail.plan targets dimension competitor }

def collectorRedoFootprint (detail : RunDetail) (dimension : String)
    (inScope : List String) : Footprint :=
  let removes := collectorRedoRemoves dimension inScope
    (reportCitedRawSourceIds detail.reportMd)
  if inScope = [] then
    dimensionFootprint detail.plan removes [] dimension
  else
    let cleared (competitor : String) : List String :=
      List.replicate
        ((collectorRedoCompetitors detail dimension inScope).count competitor)
        dimension
    { removes := removes
      slices := cleared
      knowledge := cleared }

def Rerun.footprint (detail : RunDetail) : Rerun → Footprint
  | .phaseRetry phase => phaseRetryFootprint detail phase
  | .redo scope =>
      match scope.kind, redoDimension detail scope with
      | .analyst, some dimension =>
          dimensionFootprint detail.plan (fun _ => false)
            (scopedCompetitors scope) dimension
      | .collector, some dimension =>
          collectorRedoFootprint detail dimension (scopedCompetitors scope)
      | _, _ => .none

/-- The slices a rerun dispatches, read off its blockers or its scope. -/
def Rerun.scope (detail : RunDetail) : Rerun → List Branch
  | .phaseRetry phase =>
      branchesOf
        (orElse (issueDimensions detail.plan
          (blockingPhaseIssues detail phase)) detail.plan.dimensions)
        (orElse (issueTargetCompetitors detail.plan
          (blockingPhaseIssues detail phase)) detail.plan.competitors)
  | .redo scope =>
      match scope.kind, redoDimension detail scope with
      | .analyst, some dimension =>
          branchesOf [dimension]
            (orElse (scopedCompetitors scope) detail.plan.competitors)
      | .collector, some dimension =>
          branchesOf [dimension]
            (orElse (scopedCompetitors scope) detail.plan.competitors)
      | _, _ => detail.plan.branches

/-! ## Preparing has the footprint -/

/-- `after` is `before` with the footprint taken away. -/
structure HasFootprint (before after : RunDetail) (footprint : Footprint) :
    Prop where
  sourceIds : ∀ competitor dimension,
    sourceIdsForCompetitorDimension after competitor dimension =
      ((sourcesForCompetitorDimension before competitor dimension).filter
        fun source => !footprint.removes source).map (·.id)
  kbSlice : ∀ competitor ∈ before.plan.competitors, ∀ dimension,
    kbSlice after competitor dimension =
      if dimension ∈ footprint.slices competitor then none
      else kbSlice before competitor dimension
  knowledge : ∀ competitor ∈ before.plan.competitors,
    after.competitorKnowledge.get? competitor =
      (before.competitorKnowledge.get? competitor).map
        (clearedDimensions (footprint.survivingIds before competitor)
          competitor (footprint.knowledge competitor))

/-- A kept source may be annotated, but stays attributed as it was. -/
structure KeepsAttribution (annotate : RawSource → RawSource) : Prop where
  id : ∀ source, (annotate source).id = source.id
  dimension : ∀ source, (annotate source).dimension = source.dimension
  matching : ∀ source competitor,
    sourceMatchesCompetitor (annotate source) competitor =
      sourceMatchesCompetitor source competitor

/-- Sources are removed first, then outputs are cleared. -/
private theorem hasFootprint_of_clears {before after : RunDetail}
    {footprint : Footprint} {annotate : RawSource → RawSource}
    (keeps : KeepsAttribution annotate)
    (cleared : Clears
      { before with
        rawSources := (before.rawSources.filter fun source =>
          !footprint.removes source).map annotate }
      after footprint.slices footprint.knowledge) :
    HasFootprint before after footprint := by
  refine ⟨?_, cleared.kbSlice, ?_⟩
  · intro competitor dimension
    unfold sourceIdsForCompetitorDimension sourcesForCompetitorDimension
    rw [cleared.rawSources]
    simp only [List.filter_map, List.filter_filter, List.map_map,
      Function.comp_def, keeps.id, keeps.dimension, keeps.matching]
    simp only [Bool.and_comm]
  · intro competitor member
    have surviving : validSourceIds
        { before with
          rawSources := (before.rawSources.filter fun source =>
            !footprint.removes source).map annotate } competitor =
        footprint.survivingIds before competitor := by
      unfold validSourceIds Footprint.survivingIds
      simp only [List.filter_map, List.filter_filter, List.map_map,
        Function.comp_def, keeps.id, keeps.matching]
    rw [cleared.knowledge competitor member, surviving]

private theorem keepsAttribution_id : KeepsAttribution fun source => source :=
  ⟨fun _ => rfl, fun _ => rfl, fun _ _ => rfl⟩

private theorem keepsAttribution_mark (dimension : String)
    (inScope : List String) (selected : RawSource → Bool) :
    KeepsAttribution fun source =>
      if selected source then markPreserved dimension inScope source
      else source := by
  constructor
  · intro source
    cases selected source <;> rfl
  · intro source
    cases selected source <;> rfl
  · intro source competitor
    cases selected source <;> rfl

/-- Dropping the matrix and the reflections touches no slot. -/
private theorem HasFootprint.dropComparison {before after : RunDetail}
    {footprint : Footprint} (has : HasFootprint before after footprint) :
    HasFootprint before (dropComparison after) footprint :=
  ⟨has.sourceIds, has.kbSlice, has.knowledge⟩

private theorem phaseRetry_hasFootprint (detail : RunDetail) (phase : Phase) :
    HasFootprint detail (preparePhaseRetry detail phase)
      (phaseRetryFootprint detail phase) := by
  have narrowed : removeRetrySources phase
      (issueDimensions detail.plan (blockingPhaseIssues detail phase))
      (issueTargetCompetitors detail.plan (blockingPhaseIssues detail phase))
      detail =
        { detail with
          rawSources := (detail.rawSources.filter fun source =>
            !(phaseRetryFootprint detail phase).removes source).map
              fun source => source } := by
    cases phase with
    | collect => simp [removeRetrySources, phaseRetryFootprint]
    | analyst => simp [removeRetrySources, phaseRetryFootprint]
  have cleared : HasFootprint detail
      (clearRetryOutputs
        (issueDimensions detail.plan (blockingPhaseIssues detail phase))
        (issueTargetCompetitors detail.plan (blockingPhaseIssues detail phase))
        (removeRetrySources phase
          (issueDimensions detail.plan (blockingPhaseIssues detail phase))
          (issueTargetCompetitors detail.plan
            (blockingPhaseIssues detail phase)) detail))
      (phaseRetryFootprint detail phase) := by
    apply hasFootprint_of_clears keepsAttribution_id
    rw [narrowed]
    have each : ∀ (targets : List String) (middle : RunDetail)
        (dimension : String), middle.plan = detail.plan →
        Clears middle (clearDimensionFor targets middle dimension)
          (droppedSlices targets dimension)
          (clearedSections detail.plan targets dimension) := by
      intro targets middle dimension same
      rw [← same]
      exact clearDimensionFor_clears targets middle dimension
    exact Clears.foldl (each _) _ _ rfl
  exact ⟨cleared.sourceIds, cleared.kbSlice, cleared.knowledge⟩

private theorem collectorRedo_hasFootprint (detail : RunDetail)
    (dimension : String) (inScope : List String) :
    HasFootprint detail
      (if inScope = [] then clearForWholeCollectorRedo detail dimension
        else clearForCollectorRedo detail dimension inScope)
      (collectorRedoFootprint detail dimension inScope) := by
  unfold collectorRedoFootprint
  by_cases whole : inScope = []
  · subst whole
    simp only [if_true]
    apply hasFootprint_of_clears (keepsAttribution_mark dimension []
      (collectorRedoSelects dimension []))
    exact clearDimensionFor_clears [] _ dimension
  · simp only [whole, if_false]
    apply hasFootprint_of_clears (keepsAttribution_mark dimension inScope
      (collectorRedoSelects dimension inScope))
    exact clearCompetitors_clears
      (collectorRedoCompetitors detail dimension inScope) _ dimension

/-! ## Closed reruns -/

/-- Preparing a rerun has its footprint, unless the whole plan is
dispatched. -/
private theorem prepare_hasFootprint {detail : RunDetail} {rerun : Rerun}
    {redo : PreparedRedo} (prepared : rerun.prepare detail = .ok redo) :
    HasFootprint detail redo.detail (rerun.footprint detail) ∨
      rerun.scope detail = detail.plan.branches := by
  cases rerun with
  | phaseRetry phase =>
      cases prepared
      exact .inl (phaseRetry_hasFootprint detail phase)
  | redo scope =>
      simp only [Rerun.prepare, prepareRedoScopeInputs] at prepared
      simp only [Rerun.footprint, Rerun.scope]
      cases kind : scope.kind with
      | analyst =>
          cases dimension : redoDimension detail scope <;>
            simp only [kind, dimension] at prepared <;> cases prepared
          left
          apply HasFootprint.dropComparison
          apply hasFootprint_of_clears keepsAttribution_id
          simpa [dimensionFootprint] using
            clearDimensionFor_clears (scopedCompetitors scope) detail _
      | collector =>
          cases dimension : redoDimension detail scope <;>
            simp only [kind, dimension] at prepared <;> cases prepared
          left
          exact (collectorRedo_hasFootprint detail _ _).dropComparison
      | comparator => exact .inr rfl
      | full => exact .inr rfl
      | writerOnly => exact .inr rfl

private theorem prepare_dispatched {detail : RunDetail} {rerun : Rerun}
    {redo : PreparedRedo} (prepared : rerun.prepare detail = .ok redo) :
    redo.dispatched = rerun.scope detail := by
  cases rerun with
  | phaseRetry phase =>
      cases prepared
      simp only [PreparedRedo.dispatched, Rerun.scope,
        (preparePhaseRetry_sameSettings detail phase).plan]
  | redo scope =>
      have plan := (prepareRedoScopeInputs_sameSettings prepared).plan
      simp only [Rerun.prepare, prepareRedoScopeInputs] at prepared
      simp only [PreparedRedo.dispatched, plan, Rerun.scope]
      cases kind : scope.kind with
      | analyst =>
          cases dimension : redoDimension detail scope <;>
            simp only [kind, dimension] at prepared <;> cases prepared
          rfl
      | collector =>
          cases dimension : redoDimension detail scope <;>
            simp only [kind, dimension] at prepared <;> cases prepared
          rfl
      | comparator =>
          simp only [kind] at prepared
          cases prepared
          simp [AnalysisPlan.branches]
      | full =>
          simp only [kind] at prepared
          cases prepared
          simp [AnalysisPlan.branches]
      | writerOnly =>
          simp only [kind] at prepared
          cases prepared
          simp [AnalysisPlan.branches]

private theorem structuredSliceFilled_after {before after : RunDetail}
    {footprint : Footprint} {branch : Branch}
    (has : HasFootprint before after footprint)
    (planned : branch.competitor ∈ before.plan.competitors) :
    StructuredSliceFilled after branch ↔
      StructuredSliceFilled before branch ∧
        ∀ other ∈ footprint.knowledge branch.competitor,
          knowledgeSlot other ≠ knowledgeSlot branch.dimension := by
  unfold StructuredSliceFilled
  rw [has.knowledge branch.competitor planned]
  cases before.competitorKnowledge.get? branch.competitor with
  | none => simp
  | some knowledge =>
      simp only [Option.map_some, Option.some.injEq, exists_eq_left',
        isEmpty_clearedDimensions, not_or, not_exists, not_and]
      exact and_comm

private theorem reviewSliceFilled_after {before after : RunDetail}
    {footprint : Footprint} {branch : Branch}
    (has : HasFootprint before after footprint)
    (planned : branch.competitor ∈ before.plan.competitors) :
    ReviewSliceFilled after branch ↔
      dimensionUsesReviewSummary branch.dimension = true ∧
        ∃ knowledge,
          before.competitorKnowledge.get? branch.competitor = some knowledge ∧
            ∃ ids ∈ knowledge.reviewSummary.citations, ∃ id ∈ ids,
              SurvivesPruning (footprint.survivingIds before branch.competitor)
                (prunings (footprint.knowledge branch.competitor)) id := by
  unfold ReviewSliceFilled
  rw [has.knowledge branch.competitor planned]
  cases before.competitorKnowledge.get? branch.competitor with
  | none => simp
  | some knowledge =>
      simp only [Option.map_some, Option.some.injEq, exists_eq_left',
        hasCitedItems_clearedDimensions]

/-- A footprint empties exactly the slots it does not spare. -/
theorem slotEmptied_iff {before after : RunDetail} {footprint : Footprint}
    {branch : Branch} (has : HasFootprint before after footprint)
    (planned : branch.competitor ∈ before.plan.competitors) :
    SlotEmptied before after branch ↔ ¬ footprint.Spares before branch := by
  have sources := has.sourceIds branch.competitor branch.dimension
  have slice := has.kbSlice branch.competitor planned branch.dimension
  unfold SlotEmptied
  rw [sources, slice, structuredSliceFilled_after has planned,
    reviewSliceFilled_after has planned]
  unfold sourceIdsForCompetitorDimension
  rw [map_filter_ne_iff]
  constructor
  · rintro (⟨source, member, removed⟩ | ⟨present, dropped⟩ |
      ⟨filled, lost⟩ | ⟨⟨uses, cited⟩, lost⟩) spares
    · rw [spares.sources source member] at removed
      cases removed
    · split at dropped
      · next cleared => exact present (spares.kbSlice cleared)
      · exact present dropped
    · apply lost
      refine ⟨filled, ?_⟩
      intro other member same
      exact spares.sections other member same filled
    · exact lost ⟨uses, spares.reviews ⟨uses, cited⟩⟩
  · intro notSpared
    by_contra kept
    simp only [not_or] at kept
    obtain ⟨keptSources, keptSlice, keptSection, keptReviews⟩ := kept
    apply notSpared
    refine ⟨?_, ?_, ?_, ?_⟩
    · intro source member
      exact Bool.eq_false_iff.mpr fun removed =>
        keptSources ⟨source, member, removed⟩
    · intro cleared
      by_contra present
      exact keptSlice ⟨present, if_pos cleared⟩
    · intro other member same filled
      exact keptSection ⟨filled, fun both => both.2 other member same⟩
    · intro filled
      by_contra lost
      exact keptReviews ⟨filled, fun both => lost both.2⟩

end

/-- A redo of the only slice of a plan. -/
def oneSliceDetail : RunDetail :=
  { id := "run-1"
    plan :=
      { competitors := ["Acme"]
        dimensions := ["pricing"] } }

/-- A source that covers two competitors goes away with the redo of one. -/
def sharedSourceDetail : RunDetail :=
  { id := "run-1"
    plan :=
      { competitors := ["Acme", "Bolt"]
        dimensions := ["pricing"] }
    rawSources :=
      [{ id := "S1"
         competitor := "Acme"
         coveredCompetitors := ["Acme", "Bolt"]
         dimension := "pricing" }] }

end CompetiScope
