import CompetiScope.Foundation.Collections
import CompetiScope.Sources.Matching

/-!
# Knowledge slots and their clearing

A competitor's structured knowledge has three slots.  Every dimension maps to
one of them, so several dimensions of a plan may share a slot; the dimensions
about users read the review summary as well.
-/

namespace CompetiScope

open Foundation

/-- `merge_ordered_refs`. -/
def mergeOrderedRefs (groups : List (List String)) : List String :=
  orderedUnique ((groups.flatten.map strip).filter (· ≠ ""))

theorem mem_mergeOrderedRefs {groups : List (List String)} {id : String} :
    id ∈ mergeOrderedRefs groups ↔
      ∃ ref ∈ groups.flatten, strip ref = id ∧ id ≠ "" := by
  simp only [mergeOrderedRefs, mem_orderedUnique, List.mem_filter,
    List.mem_map, decide_eq_true_eq]
  constructor
  · rintro ⟨⟨ref, member, same⟩, nonempty⟩
    exact ⟨ref, member, same, nonempty⟩
  · rintro ⟨ref, member, same, nonempty⟩
    exact ⟨⟨ref, member, same⟩, nonempty⟩

/-- Merging into recorded refs keeps their merged form in front. -/
theorem mergeOrderedRefs_isPrefix (refs more : List String) :
    mergeOrderedRefs [refs] <+: mergeOrderedRefs [refs, more] := by
  simp only [mergeOrderedRefs, List.flatten_cons, List.flatten_nil,
    List.append_nil, List.map_append, List.filter_append]
  exact orderedUnique_append_isPrefix _ _

/-- What has been merged is not changed by another merge. -/
theorem mergeOrderedRefs_mergeOrderedRefs (groups : List (List String)) :
    mergeOrderedRefs [mergeOrderedRefs groups] = mergeOrderedRefs groups := by
  have trimmed : ∀ id ∈ mergeOrderedRefs groups, strip id = id ∧ id ≠ "" := by
    intro id member
    obtain ⟨ref, -, rfl, nonempty⟩ := mem_mergeOrderedRefs.mp member
    exact ⟨strip_strip ref, nonempty⟩
  have stripped : (mergeOrderedRefs groups).map strip =
      mergeOrderedRefs groups := by
    calc (mergeOrderedRefs groups).map strip
        = (mergeOrderedRefs groups).map id :=
          List.map_congr_left fun id member => (trimmed id member).1
      _ = mergeOrderedRefs groups := List.map_id _
  have kept : (mergeOrderedRefs groups).filter (· ≠ "") =
      mergeOrderedRefs groups :=
    List.filter_eq_self.mpr fun id member => by
      simpa using (trimmed id member).2
  calc mergeOrderedRefs [mergeOrderedRefs groups]
      = orderedUnique (((mergeOrderedRefs groups).map strip).filter
          (· ≠ "")) := by
        simp [mergeOrderedRefs]
    _ = orderedUnique (mergeOrderedRefs groups) := by rw [stripped, kept]
    _ = mergeOrderedRefs groups := orderedUnique_orderedUnique _

/-- A new trimmed ref goes right behind the recorded ones. -/
theorem mergeOrderedRefs_new {refs more : List String} {id : String}
    (trimmed : strip id = id) (nonempty : id ≠ "")
    (fresh : id ∉ mergeOrderedRefs [refs]) :
    mergeOrderedRefs [refs] ++ [id] <+:
      mergeOrderedRefs [refs, id :: more] := by
  have unseen : id ∉ (refs.map strip).filter (· ≠ "") := by
    simpa [mergeOrderedRefs] using fresh
  have last := orderedUnique_concat unseen
  have front := orderedUnique_append_isPrefix
    ((refs.map strip).filter (· ≠ "") ++ [id])
    ((more.map strip).filter (· ≠ ""))
  rw [last] at front
  simpa [mergeOrderedRefs, trimmed, nonempty] using front

inductive KnowledgeSlot where
  | pricingModel
  | userPersonas
  | featureTree
  deriving DecidableEq

section

variable [PyRuntime]

/-- The slot selected by the chain of tests on `dimension.casefold()`. -/
def knowledgeSlot (dimension : String) : KnowledgeSlot :=
  let key := casefoldChars dimension.toList
  if hasInfix "pricing".toList key then .pricingModel
  else if hasInfix "persona".toList key || hasInfix "user".toList key then
    .userPersonas
  else .featureTree

def reviewSummaryDimensionHints : List String :=
  ["review", "persona", "user", "customer", "buyer", "feedback", "adoption",
    "switching"]

/-- `_dimension_uses_review_summary`. -/
def dimensionUsesReviewSummary (dimension : String) : Bool :=
  let key := (casefoldChars dimension.toList).map fun char =>
    if char = '-' then '_' else char
  reviewSummaryDimensionHints.any fun hint => hasInfix hint.toList key

end

namespace KnowledgeSlot

/-- The slot holds nothing: neither entries nor summary claims. -/
def IsEmpty (knowledge : CompetitorKnowledge) : KnowledgeSlot → Prop
  | pricingModel =>
      knowledge.pricingModel.tiers = [] ∧ knowledge.pricingModel.notes = []
  | userPersonas =>
      knowledge.userPersonas.segments = [] ∧
        knowledge.userPersonas.summaryClaims = []
  | featureTree =>
      knowledge.featureTree.nodes = [] ∧
        knowledge.featureTree.summaryClaims = []

def clear (knowledge : CompetitorKnowledge) :
    KnowledgeSlot → CompetitorKnowledge
  | pricingModel => { knowledge with pricingModel := {} }
  | userPersonas => { knowledge with userPersonas := {} }
  | featureTree => { knowledge with featureTree := {} }

theorem isEmpty_clear (knowledge : CompetitorKnowledge)
    (slot cleared : KnowledgeSlot) :
    slot.IsEmpty (cleared.clear knowledge) ↔
      slot = cleared ∨ slot.IsEmpty knowledge := by
  cases slot <;> cases cleared <;> simp [IsEmpty, clear]

end KnowledgeSlot

namespace ReviewThemeSummary

/-- `_review_summary_theme_items`. -/
def themeItems (summary : ReviewThemeSummary) : List ReviewThemeItem :=
  summary.praiseThemes ++ summary.complaintThemes ++
    summary.adoptionBlockers ++ summary.switchingTriggers

/-- `_review_summary_has_cited_items`. -/
def hasCitedItems (summary : ReviewThemeSummary) : Bool :=
  summary.themeItems.any fun item => item.sourceIds ≠ []

end ReviewThemeSummary

/-! ## Clearing a slice -/

/-- `_ordered_source_ids` of the valid ones among `ids`. -/
def pruned (valid ids : List String) : List String :=
  mergeOrderedRefs [ids.filter (· ∈ valid)]

theorem mem_pruned {valid ids : List String} {id : String} :
    id ∈ pruned valid ids ↔
      ∃ cited ∈ ids, cited ∈ valid ∧ strip cited = id ∧ id ≠ "" := by
  simp [pruned, mem_mergeOrderedRefs, and_assoc]

@[simp] theorem pruned_nil (valid : List String) : pruned valid [] = [] :=
  rfl

/-- One item in `_clear_review_summary_removed_sources`: an item that loses
all of its citations goes away, one that never cited anything stays. -/
def retainReviewItem (valid : List String) (item : ReviewThemeItem) :
    Option ReviewThemeItem :=
  if pruned valid item.sourceIds ≠ [] ∨ item.sourceIds = [] then
    some { item with sourceIds := pruned valid item.sourceIds }
  else none

def retainReviewItems (valid : List String) (items : List ReviewThemeItem) :
    List ReviewThemeItem :=
  items.filterMap (retainReviewItem valid)

def prunedReviewSummary (summary : ReviewThemeSummary) (valid : List String) :
    ReviewThemeSummary :=
  { summary with
    sourceIds := pruned valid summary.sourceIds
    praiseThemes := retainReviewItems valid summary.praiseThemes
    complaintThemes := retainReviewItems valid summary.complaintThemes
    adoptionBlockers := retainReviewItems valid summary.adoptionBlockers
    switchingTriggers := retainReviewItems valid summary.switchingTriggers }

/-- `_clear_review_summary_removed_sources`: a summary without citations left
starts afresh. -/
def clearReviewSummaryRemovedSources (summary : ReviewThemeSummary)
    (competitor dimension : String) (valid : List String) :
    ReviewThemeSummary :=
  if (prunedReviewSummary summary valid).sourceIds = [] ∧
      (prunedReviewSummary summary valid).hasCitedItems = false then
    { competitor := competitor, dimension := dimension }
  else prunedReviewSummary summary valid

section

variable [PyRuntime]

/-- Ids of all sources attributed to a competitor, in any dimension. -/
def validSourceIds (detail : RunDetail) (competitor : String) : List String :=
  (detail.rawSources.filter fun source =>
    sourceMatchesCompetitor source competitor).map (·.id)

/-- The record left by `_clear_structured_knowledge_slice`. -/
def clearedKnowledge (valid : List String) (competitor dimension : String)
    (knowledge : CompetitorKnowledge) : CompetitorKnowledge :=
  let slotCleared := (knowledgeSlot dimension).clear knowledge
  { slotCleared with
    reviewSummary :=
      if dimensionUsesReviewSummary dimension then
        clearReviewSummaryRemovedSources knowledge.reviewSummary competitor
          dimension valid
      else knowledge.reviewSummary
    sourceIds := knowledge.sourceIds.filter (· ∈ valid) }

/-- `_clear_structured_knowledge_slice`. -/
def clearStructuredKnowledgeSlice (detail : RunDetail)
    (competitor dimension : String) : RunDetail :=
  match detail.competitorKnowledge.get? competitor with
  | none => detail
  | some knowledge =>
      { detail with
        competitorKnowledge := detail.competitorKnowledge.set competitor
          (clearedKnowledge (validSourceIds detail competitor) competitor
            dimension knowledge) }

/-- The KB update of both clearing functions. -/
def clearedKB (valid : List String) (dimension : String)
    (kb : CompetitorKB) : CompetitorKB :=
  { kb with
    slices := kb.slices.erase dimension
    sources := kb.sources.filter (· ∈ valid) }

def clearKBSlice (detail : RunDetail) (competitor dimension : String) :
    RunDetail :=
  match detail.competitorKbs.get? competitor with
  | none => detail
  | some kb =>
      { detail with
        competitorKbs := detail.competitorKbs.set competitor
          (clearedKB (validSourceIds detail competitor) dimension kb) }

/-- `_clear_competitor_dimension_output`.  The comparison matrix it rebuilds
is dropped by both of its callers right after, so it is left alone here. -/
def clearCompetitorDimensionOutput (detail : RunDetail)
    (competitor dimension : String) : RunDetail :=
  clearStructuredKnowledgeSlice (clearKBSlice detail competitor dimension)
    competitor dimension

def clearKBSlices (detail : RunDetail) (dimension : String) : RunDetail :=
  { detail with
    competitorKbs := detail.competitorKbs.mapValues fun _ kb =>
      clearedKB (validSourceIds detail kb.competitor) dimension kb }

/-- `_clear_dimension_outputs`. -/
def clearDimensionOutputs (detail : RunDetail) (dimension : String) :
    RunDetail :=
  detail.plan.competitors.foldl
    (fun detail competitor =>
      clearStructuredKnowledgeSlice detail competitor dimension)
    (clearKBSlices detail dimension)

/-- The loop shared by the reruns: clear a dimension for the target
competitors, for all of them when there are no targets. -/
def clearDimensionFor (targets : List String) (detail : RunDetail)
    (dimension : String) : RunDetail :=
  if targets = [] then clearDimensionOutputs detail dimension
  else
    targets.foldl
      (fun detail competitor =>
        clearCompetitorDimensionOutput detail competitor dimension)
      detail

theorem clearStructuredKnowledgeSlice_sameSettings (detail : RunDetail)
    (competitor dimension : String) :
    detail.SameSettings
      (clearStructuredKnowledgeSlice detail competitor dimension) := by
  unfold clearStructuredKnowledgeSlice
  split
  · exact .refl detail
  · exact ⟨rfl, rfl, rfl, rfl⟩

theorem clearCompetitorDimensionOutput_sameSettings (detail : RunDetail)
    (competitor dimension : String) :
    detail.SameSettings
      (clearCompetitorDimensionOutput detail competitor dimension) := by
  have kbs : detail.SameSettings (clearKBSlice detail competitor dimension) := by
    unfold clearKBSlice
    split
    · exact .refl detail
    · exact ⟨rfl, rfl, rfl, rfl⟩
  exact kbs.trans
    (clearStructuredKnowledgeSlice_sameSettings _ competitor dimension)

theorem clearDimensionOutputs_sameSettings (detail : RunDetail)
    (dimension : String) :
    detail.SameSettings (clearDimensionOutputs detail dimension) := by
  have kbs : detail.SameSettings (clearKBSlices detail dimension) :=
    ⟨rfl, rfl, rfl, rfl⟩
  exact kbs.trans
    (RunDetail.SameSettings.foldl
      (fun detail competitor =>
        clearStructuredKnowledgeSlice_sameSettings detail competitor dimension)
      detail.plan.competitors (clearKBSlices detail dimension))

theorem clearDimensionFor_sameSettings (targets : List String)
    (detail : RunDetail) (dimension : String) :
    detail.SameSettings (clearDimensionFor targets detail dimension) := by
  unfold clearDimensionFor
  split
  · exact clearDimensionOutputs_sameSettings detail dimension
  · exact RunDetail.SameSettings.foldl
      (fun detail competitor =>
        clearCompetitorDimensionOutput_sameSettings detail competitor
          dimension)
      targets detail

end

end CompetiScope
