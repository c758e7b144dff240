import CompetiScope.Agents.PhaseQa

/-!
# What clearing outputs takes away

Clearing functions are applied one after another, over dimensions and over
competitors.  `Clears` records what a whole sequence did: the dimensions whose
slices left the KB of a competitor and those cleared in its structured
knowledge.  Sequences compose by appending.
-/

namespace CompetiScope

open Foundation

/-! ## Structured knowledge -/

/-- The theme items of a summary that cite a source, by their citations. -/
def ReviewThemeSummary.citations (summary : ReviewThemeSummary) :
    List (List String) :=
  (summary.themeItems.map (·.sourceIds)).filter (· ≠ [])

theorem ReviewThemeSummary.hasCitedItems_iff (summary : ReviewThemeSummary) :
    summary.hasCitedItems = true ↔ summary.citations ≠ [] := by
  simp only [hasCitedItems, citations, List.any_eq_true, ne_eq,
    List.filter_eq_nil_iff, List.mem_map, decide_eq_true_eq]
  constructor
  · rintro ⟨item, member, cited⟩ none
    exact none item.sourceIds ⟨item, member, rfl⟩ cited
  · intro some
    by_contra none
    apply some
    rintro ids ⟨item, member, rfl⟩ cited
    exact none ⟨item, member, cited⟩

/-- An id is still cited after its item has been pruned `count` times. -/
def SurvivesPruning (valid : List String) : Nat → String → Prop
  | 0, _ => True
  | count + 1, id =>
      id ∈ valid ∧ strip id ≠ "" ∧ SurvivesPruning valid count (strip id)

private theorem citations_retain (valid : List String)
    (items : List ReviewThemeItem) :
    ((retainReviewItems valid items).map (·.sourceIds)).filter (· ≠ []) =
      (((items.map (·.sourceIds)).filter (· ≠ [])).map (pruned valid)).filter
        (· ≠ []) := by
  induction items with
  | nil => rfl
  | cons item items induction =>
      unfold retainReviewItems at induction ⊢
      by_cases uncited : item.sourceIds = []
      · have kept : retainReviewItem valid item =
            some { item with sourceIds := [] } := by
          simp [retainReviewItem, uncited]
        simpa [kept, uncited] using induction
      · by_cases lost : pruned valid item.sourceIds = []
        · have dropped : retainReviewItem valid item = none := by
            simp [retainReviewItem, uncited, lost]
          simpa [dropped, uncited, lost] using induction
        · have kept : retainReviewItem valid item =
              some
                { item with
                  sourceIds := pruned valid item.sourceIds } := by
            simp [retainReviewItem, lost]
          simpa [kept, uncited, lost] using induction

private theorem citations_prunedReviewSummary (summary : ReviewThemeSummary)
    (valid : List String) :
    (prunedReviewSummary summary valid).citations =
      (summary.citations.map (pruned valid)).filter (· ≠ []) := by
  have items : (prunedReviewSummary summary valid).themeItems =
      retainReviewItems valid summary.themeItems := by
    simp [prunedReviewSummary, ReviewThemeSummary.themeItems,
      retainReviewItems, List.filterMap_append]
  unfold ReviewThemeSummary.citations
  rw [items]
  exact citations_retain valid summary.themeItems

/-- Pruning a summary prunes its citations and drops the empty ones. -/
theorem citations_clearReviewSummary (summary : ReviewThemeSummary)
    (competitor dimension : String) (valid : List String) :
    (clearReviewSummaryRemovedSources summary competitor dimension
        valid).citations =
      (summary.citations.map (pruned valid)).filter (· ≠ []) := by
  rw [← citations_prunedReviewSummary]
  unfold clearReviewSummaryRemovedSources
  split
  · next reset =>
      have none : (prunedReviewSummary summary valid).citations = [] := by
        by_contra cited
        have items := (ReviewThemeSummary.hasCitedItems_iff _).mpr cited
        rw [reset.2] at items
        cases items
      rw [none]
      rfl
  · rfl

private theorem exists_survivor_pruned {valid : List String} {count : Nat}
    {citations : List (List String)} :
    (∃ ids ∈ (citations.map (pruned valid)).filter (· ≠ []),
        ∃ id ∈ ids, SurvivesPruning valid count id) ↔
      ∃ ids ∈ citations, ∃ id ∈ ids, SurvivesPruning valid (count + 1) id := by
  simp only [List.mem_filter, List.mem_map, decide_eq_true_eq]
  constructor
  · rintro ⟨_, ⟨⟨ids, member, rfl⟩, -⟩, id, kept, survives⟩
    obtain ⟨cited, citedMember, known, rfl, nonempty⟩ := mem_pruned.mp kept
    exact ⟨ids, member, cited, citedMember, known, nonempty, survives⟩
  · rintro ⟨ids, member, cited, citedMember, known, nonempty, survives⟩
    have kept : strip cited ∈ pruned valid ids :=
      mem_pruned.mpr ⟨cited, citedMember, known, rfl, nonempty⟩
    exact ⟨_, ⟨⟨ids, member, rfl⟩, List.ne_nil_of_mem kept⟩, _, kept, survives⟩

private theorem slices_clearedKB {valid : List String}
    {dimension other : String} {kb : CompetitorKB} :
    (clearedKB valid dimension kb).slices.get? other =
      if other = dimension then none else kb.slices.get? other :=
  Dict.get?_erase kb.slices dimension other

private theorem flatMap_if_eq {values : List String} {value item : String} :
    values.flatMap (fun other => if value = other then [item] else []) =
      List.replicate (values.count value) item := by
  induction values with
  | nil => rfl
  | cons head values induction =>
      by_cases same : value = head
      · subst same
        simp [List.replicate_succ, induction]
      · have different : ¬ head = value := fun equal => same equal.symm
        simp [same, different, induction]

section

variable [PyRuntime]

/-- The structured knowledge after a sequence of slices has been cleared. -/
def clearedDimensions (valid : List String) (competitor : String)
    (dimensions : List String) (knowledge : CompetitorKnowledge) :
    CompetitorKnowledge :=
  dimensions.foldl
    (fun knowledge dimension =>
      clearedKnowledge valid competitor dimension knowledge)
    knowledge

private theorem isEmpty_clearedKnowledge {slot : KnowledgeSlot}
    {valid : List String} {competitor dimension : String}
    {knowledge : CompetitorKnowledge} :
    slot.IsEmpty (clearedKnowledge valid competitor dimension knowledge) ↔
      slot = knowledgeSlot dimension ∨ slot.IsEmpty knowledge := by
  rw [← KnowledgeSlot.isEmpty_clear]
  cases slot <;> rfl

/-- A slot is empty after the sequence when one of its dimensions maps to it,
or when it was empty before. -/
theorem isEmpty_clearedDimensions {slot : KnowledgeSlot} {valid : List String}
    {competitor : String} {dimensions : List String}
    {knowledge : CompetitorKnowledge} :
    slot.IsEmpty (clearedDimensions valid competitor dimensions knowledge) ↔
      (∃ dimension ∈ dimensions, knowledgeSlot dimension = slot) ∨
        slot.IsEmpty knowledge := by
  induction dimensions generalizing knowledge with
  | nil => simp [clearedDimensions]
  | cons dimension dimensions induction =>
      have next := @induction
        (clearedKnowledge valid competitor dimension knowledge)
      simp only [clearedDimensions, List.foldl_cons] at next ⊢
      rw [next, isEmpty_clearedKnowledge, List.exists_mem_cons_iff]
      constructor
      · rintro (later | same | empty)
        · exact .inl (.inr later)
        · exact .inl (.inl same.symm)
        · exact .inr empty
      · rintro ((same | later) | empty)
        · exact .inr (.inl same.symm)
        · exact .inl later
        · exact .inr (.inr empty)

/-- How often a sequence prunes the review summary. -/
def prunings (dimensions : List String) : Nat :=
  (dimensions.filter dimensionUsesReviewSummary).length

private theorem citations_clearedKnowledge {valid : List String}
    {competitor dimension : String} {knowledge : CompetitorKnowledge} :
    (clearedKnowledge valid competitor dimension
        knowledge).reviewSummary.citations =
      if dimensionUsesReviewSummary dimension then
        (knowledge.reviewSummary.citations.map (pruned valid)).filter (· ≠ [])
      else knowledge.reviewSummary.citations := by
  unfold clearedKnowledge
  split
  · exact citations_clearReviewSummary _ _ _ _
  · rfl

/-- Cited items remain when an id survives every pruning of the sequence. -/
theorem hasCitedItems_clearedDimensions {valid : List String}
    {competitor : String} {dimensions : List String}
    {knowledge : CompetitorKnowledge} :
    (clearedDimensions valid competitor dimensions
        knowledge).reviewSummary.hasCitedItems = true ↔
      ∃ ids ∈ knowledge.reviewSummary.citations,
        ∃ id ∈ ids, SurvivesPruning valid (prunings dimensions) id := by
  rw [ReviewThemeSummary.hasCitedItems_iff]
  induction dimensions generalizing knowledge with
  | nil =>
      simp only [clearedDimensions, List.foldl_nil, prunings, List.filter_nil,
        List.length_nil, SurvivesPruning, and_true]
      constructor
      · intro nonempty
        obtain ⟨ids, member⟩ := List.exists_mem_of_ne_nil _ nonempty
        have cited := (List.mem_filter.mp member).2
        exact ⟨ids, member,
          List.exists_mem_of_ne_nil _ (of_decide_eq_true cited)⟩
      · rintro ⟨ids, member, -⟩
        exact List.ne_nil_of_mem member
  | cons dimension dimensions induction =>
      have next := @induction
        (clearedKnowledge valid competitor dimension knowledge)
      simp only [clearedDimensions, List.foldl_cons] at next ⊢
      rw [next, citations_clearedKnowledge]
      by_cases uses : dimensionUsesReviewSummary dimension = true
      · rw [if_pos uses, exists_survivor_pruned]
        simp [prunings, uses]
      · rw [if_neg uses]
        simp [prunings, uses]

/-! ## Sequences of clearing steps -/

/-- The KB slice of a competitor and dimension. -/
def kbSlice (detail : RunDetail) (competitor dimension : String) :
    Option (List String) :=
  (detail.competitorKbs.get? competitor).bind (·.slices.get? dimension)

/-- `after` is `before` with the KB slices `slices` and the structured
knowledge of the dimensions `knowledge` of each competitor of the plan
cleared, in order. -/
structure Clears (before after : RunDetail)
    (slices knowledge : String → List String) : Prop where
  plan : after.plan = before.plan
  rawSources : after.rawSources = before.rawSources
  kbSlice : ∀ competitor ∈ before.plan.competitors, ∀ dimension,
    kbSlice after competitor dimension =
      if dimension ∈ slices competitor then none
      else kbSlice before competitor dimension
  knowledge : ∀ competitor ∈ before.plan.competitors,
    after.competitorKnowledge.get? competitor =
      (before.competitorKnowledge.get? competitor).map
        (clearedDimensions (validSourceIds before competitor) competitor
          (knowledge competitor))

namespace Clears

theorem refl (detail : RunDetail) :
    Clears detail detail (fun _ => []) (fun _ => []) :=
  { plan := rfl
    rawSources := rfl
    kbSlice := by simp
    knowledge := by
      intro competitor _
      cases detail.competitorKnowledge.get? competitor <;> rfl }

private theorem validSourceIds_eq {before after : RunDetail}
    (same : after.rawSources = before.rawSources) (competitor : String) :
    validSourceIds after competitor = validSourceIds before competitor := by
  unfold validSourceIds
  rw [same]

theorem trans {first second third : RunDetail}
    {slices slices' knowledge knowledge' : String → List String}
    (left : Clears first second slices knowledge)
    (right : Clears second third slices' knowledge') :
    Clears first third (fun competitor => slices competitor ++
        slices' competitor)
      (fun competitor => knowledge competitor ++ knowledge' competitor) where
  plan := right.plan.trans left.plan
  rawSources := right.rawSources.trans left.rawSources
  kbSlice := by
    intro competitor member dimension
    rw [right.kbSlice competitor (by rwa [left.plan]) dimension,
      left.kbSlice competitor member dimension]
    by_cases before : dimension ∈ slices competitor
    · simp [before]
    · simp [before]
  knowledge := by
    intro competitor member
    rw [right.knowledge competitor (by rwa [left.plan]),
      left.knowledge competitor member, validSourceIds_eq left.rawSources,
      Option.map_map]
    congr 1
    funext knowledge
    simp [clearedDimensions, Function.comp_apply, List.foldl_append]

theorem foldl {Item : Type} {update : RunDetail → Item → RunDetail}
    {slices knowledge : Item → String → List String} {plan : AnalysisPlan}
    (each : ∀ detail item, detail.plan = plan →
      Clears detail (update detail item) (slices item) (knowledge item))
    (items : List Item) (detail : RunDetail) (start : detail.plan = plan) :
    Clears detail (items.foldl update detail)
      (fun competitor => items.flatMap (slices · competitor))
      (fun competitor => items.flatMap (knowledge · competitor)) := by
  induction items generalizing detail with
  | nil => exact refl detail
  | cons item items induction =>
      have head := each detail item start
      have tail := induction (update detail item) (head.plan.trans start)
      exact head.trans tail

end Clears

/-- Clearing one slice of the structured knowledge. -/
theorem clearStructuredKnowledgeSlice_clears (detail : RunDetail)
    (competitor dimension : String) :
    Clears detail (clearStructuredKnowledgeSlice detail competitor dimension)
      (fun _ => [])
      (fun other => if other = competitor then [dimension] else []) := by
  have same := clearStructuredKnowledgeSlice_sameSettings detail competitor
    dimension
  unfold clearStructuredKnowledgeSlice at same ⊢
  cases found : detail.competitorKnowledge.get? competitor with
  | none =>
      refine ⟨rfl, rfl, by simp, ?_⟩
      intro other _
      by_cases sameKey : other = competitor
      · simp [sameKey, found]
      · simp only [sameKey, if_false]
        exact (Clears.refl detail).knowledge other ‹_›
  | some knowledge =>
      refine ⟨rfl, rfl, ?_, ?_⟩
      · intro other _ otherDimension
        simp [kbSlice]
      · intro other member
        simp only [Dict.get?_set]
        by_cases sameKey : other = competitor
        · simp [sameKey, found, clearedDimensions]
        · simp only [sameKey, if_false]
          exact (Clears.refl detail).knowledge other member

private theorem clearKBSlice_clears (detail : RunDetail)
    (competitor dimension : String) :
    Clears detail (clearKBSlice detail competitor dimension)
      (fun other => if other = competitor then [dimension] else [])
      (fun _ => []) := by
  unfold clearKBSlice
  cases found : detail.competitorKbs.get? competitor with
  | none =>
      refine ⟨rfl, rfl, ?_, (Clears.refl detail).knowledge⟩
      intro other _ otherDimension
      by_cases same : other = competitor
      · simp [kbSlice, same, found]
      · simp [same]
  | some kb =>
      refine ⟨rfl, rfl, ?_, (Clears.refl detail).knowledge⟩
      intro other _ otherDimension
      by_cases same : other = competitor
      · simp [kbSlice, same, found, slices_clearedKB]
      · simp [kbSlice, same, Dict.get?_set]

/-- `_clear_competitor_dimension_output` clears one slice of one
competitor. -/
theorem clearCompetitorDimensionOutput_clears (detail : RunDetail)
    (competitor dimension : String) :
    Clears detail (clearCompetitorDimensionOutput detail competitor dimension)
      (fun other => if other = competitor then [dimension] else [])
      (fun other => if other = competitor then [dimension] else []) := by
  have both := (clearKBSlice_clears detail competitor dimension).trans
    (clearStructuredKnowledgeSlice_clears _ competitor dimension)
  simpa [clearCompetitorDimensionOutput] using both

private theorem clearKBSlices_clears (detail : RunDetail)
    (dimension : String) :
    Clears detail (clearKBSlices detail dimension) (fun _ => [dimension])
      (fun _ => []) := by
  refine ⟨rfl, rfl, ?_, (Clears.refl detail).knowledge⟩
  intro competitor _ other
  unfold kbSlice clearKBSlices
  simp only [Dict.get?_mapValues]
  cases detail.competitorKbs.get? competitor with
  | none => simp
  | some kb => simp [slices_clearedKB]

/-- `_clear_dimension_outputs` clears one dimension of every competitor; a
competitor named twice in the plan is cleared twice. -/
theorem clearDimensionOutputs_clears (detail : RunDetail)
    (dimension : String) :
    Clears detail (clearDimensionOutputs detail dimension)
      (fun _ => [dimension])
      (fun competitor =>
        List.replicate (detail.plan.competitors.count competitor)
          dimension) := by
  have knowledge := Clears.foldl
    (fun middle competitor (_ : middle.plan = detail.plan) =>
      clearStructuredKnowledgeSlice_clears middle competitor dimension)
    detail.plan.competitors (clearKBSlices detail dimension) rfl
  have both := (clearKBSlices_clears detail dimension).trans knowledge
  simpa [flatMap_if_eq, List.flatMap_eq_nil_iff.mpr, clearDimensionOutputs]
    using both

/-- The dimension as often as a KB slice is dropped for a competitor. -/
def droppedSlices (targets : List String) (dimension competitor : String) :
    List String :=
  if targets = [] then [dimension]
  else List.replicate (targets.count competitor) dimension

/-- The dimension as often as the knowledge of a competitor is cleared. -/
def clearedSections (plan : AnalysisPlan) (targets : List String)
    (dimension competitor : String) : List String :=
  List.replicate ((if targets = [] then plan.competitors else targets).count
    competitor) dimension

theorem clearCompetitors_clears (targets : List String) (detail : RunDetail)
    (dimension : String) :
    Clears detail
      (targets.foldl
        (fun detail competitor =>
          clearCompetitorDimensionOutput detail competitor dimension)
        detail)
      (fun competitor => List.replicate (targets.count competitor) dimension)
      (fun competitor =>
        List.replicate (targets.count competitor) dimension) := by
  have cleared := Clears.foldl
    (fun middle competitor (_ : middle.plan = detail.plan) =>
      clearCompetitorDimensionOutput_clears middle competitor dimension)
    targets detail rfl
  simpa [flatMap_if_eq] using cleared

theorem clearDimensionFor_clears (targets : List String) (detail : RunDetail)
    (dimension : String) :
    Clears detail (clearDimensionFor targets detail dimension)
      (droppedSlices targets dimension)
      (clearedSections detail.plan targets dimension) := by
  unfold clearDimensionFor droppedSlices clearedSections
  by_cases all : targets = []
  · simpa [all] using clearDimensionOutputs_clears detail dimension
  · simpa [all] using clearCompetitors_clears targets detail dimension

end

end CompetiScope
