import CompetiScope.Agents.AnalystMerge

/-!
# The branches of one competitor, in any order

Every analyst branch writes the knowledge of its competitor when it finishes.
A second branch filters the shared source ids by its own sources, so the merge
is sound for every payload exactly when a single dimension is merged.
-/

namespace CompetiScope

open Foundation

/-- What a branch finishes with: the answer of the cache for its sources and
the payload it merges otherwise. -/
structure AnalystBranch where
  dimension : String
  cacheEntry : Option KBCacheEntry := none
  payload : StructuredPayload := {}

/-- Source ids are assigned by `compute_raw_source_id`: they are trimmed and
a digest of, among others, the dimension. -/
structure SourceIdsAssigned (detail : RunDetail) : Prop where
  trimmed : ∀ source ∈ detail.rawSources,
    strip source.id = source.id ∧ source.id ≠ ""
  sameDimension : ∀ source ∈ detail.rawSources,
    ∀ other ∈ detail.rawSources,
      source.id = other.id → source.dimension = other.dimension

/-- The source ids cited by some claims, as the knowledge records them. -/
def citedSourceIds (claims : List KnowledgeClaim) : List String :=
  mergeOrderedRefs [claims.flatMap (·.sourceIds)]

def CitesWithin (valid : List String) (claims : List KnowledgeClaim) : Prop :=
  ∀ claim ∈ claims, ∀ id ∈ claim.sourceIds, id ∈ valid

def TrimmedIds (ids : List String) : Prop :=
  ∀ id ∈ ids, strip id = id ∧ id ≠ ""

theorem mem_of_mem_pruned {valid ids : List String} {id : String}
    (trimmed : TrimmedIds valid) (member : id ∈ pruned valid ids) :
    id ∈ valid := by
  obtain ⟨cited, -, known, same, -⟩ := mem_pruned.mp member
  rw [← same, (trimmed cited known).1]
  exact known

/-- A merge keeps ids that lie in a trimmed set. -/
theorem mergeOrderedRefs_subset {valid : List String}
    {groups : List (List String)} (trimmed : TrimmedIds valid)
    (within : ∀ group ∈ groups, ∀ id ∈ group, id ∈ valid) :
    ∀ id ∈ mergeOrderedRefs groups, id ∈ valid := by
  intro id member
  obtain ⟨ref, inGroups, same, -⟩ := mem_mergeOrderedRefs.mp member
  obtain ⟨group, isGroup, inGroup⟩ := List.mem_flatten.mp inGroups
  have known := within group isGroup ref inGroup
  rw [← same, (trimmed ref known).1]
  exact known

private theorem themeItem_citesWithin {valid : List String}
    (trimmed : TrimmedIds valid) {summary : ReviewThemeSummary}
    {item : ReviewThemeItem}
    (member : item ∈ (sanitizeReviewSummary valid summary).themeItems) :
    ∀ id ∈ item.sourceIds, id ∈ valid := by
  have sanitized : ∃ original : ReviewThemeItem,
      item = sanitizeReviewThemeItem valid original := by
    simp only [ReviewThemeSummary.themeItems, sanitizeReviewSummary,
      List.mem_append, List.mem_map] at member
    rcases member with ((member | member) | member) | member <;>
      exact ⟨member.choose, member.choose_spec.2.symm⟩
  obtain ⟨original, rfl⟩ := sanitized
  intro id cited
  exact mem_of_mem_pruned trimmed cited

/-- Two dimensions of a plan, the second one given. -/
private theorem exists_perm_pair {dimensions : List String} {other : String}
    (distinct : dimensions.Nodup) (several : 2 ≤ dimensions.length)
    (member : other ∈ dimensions) :
    ∃ dimension rest, dimension ≠ other ∧
      dimensions.Perm (dimension :: other :: rest) := by
  have front := List.perm_cons_erase member
  have lengths := front.length_eq
  cases remaining : dimensions.erase other with
  | nil =>
      rw [remaining, List.length_singleton] at lengths
      omega
  | cons dimension rest =>
      rw [remaining] at front
      have nodup := front.nodup_iff.mp distinct
      refine ⟨dimension, rest, ?_, ?_⟩
      · rintro rfl
        simp at nodup
      · exact front.trans (List.Perm.swap dimension other rest)

section

variable [PyRuntime]

/-! ## What a sanitised slice cites -/

theorem claimsWithKnownSourceIds_citesWithin {valid : List String}
    (trimmed : TrimmedIds valid) (claims : List KnowledgeClaim) :
    CitesWithin valid (claimsWithKnownSourceIds valid claims) := by
  intro claim member id cited
  obtain ⟨original, -, kept⟩ :=
    List.mem_filterMap.mp (mem_of_mem_distinctBy member)
  unfold claimWithKnownSourceIds at kept
  split at kept
  · cases kept
  · cases kept
    exact mem_of_mem_pruned trimmed cited

private theorem claims_of_mem_sanitizeFeatureNodes {valid : List String}
    {nodes : List FeatureNode} {node : FeatureNode}
    (member : node ∈ sanitizeFeatureNodes valid nodes) :
    ∃ claims, node.claims = claimsWithKnownSourceIds valid claims := by
  induction nodes with
  | nil => simp [sanitizeFeatureNodes] at member
  | cons head tail induction =>
      rw [sanitizeFeatureNodes, List.mem_cons] at member
      rcases member with same | later
      · cases head with
        | mk name description claims children =>
            exact ⟨claims, by rw [same]; rfl⟩
      · exact induction later

theorem KnowledgeSlot.sanitize_citesWithin {valid : List String}
    (trimmed : TrimmedIds valid) (slot : KnowledgeSlot)
    (knowledge : CompetitorKnowledge) :
    CitesWithin valid (slot.claims (slot.sanitize valid knowledge)) := by
  intro claim member
  have known := claimsWithKnownSourceIds_citesWithin trimmed
  cases slot with
  | pricingModel =>
      rcases List.mem_append.mp member with note | inTier
      · exact known _ claim note
      · obtain ⟨tier, isTier, ofTier⟩ := List.mem_flatMap.mp inTier
        obtain ⟨original, -, rfl⟩ := List.mem_map.mp isTier
        exact known _ claim ofTier
  | userPersonas =>
      rcases List.mem_append.mp member with summary | inSegment
      · exact known _ claim summary
      · obtain ⟨segment, isSegment, ofSegment⟩ := List.mem_flatMap.mp inSegment
        obtain ⟨original, -, rfl⟩ := List.mem_map.mp isSegment
        exact known _ claim ofSegment
  | featureTree =>
      rcases List.mem_append.mp member with summary | inNode
      · exact known _ claim summary
      · obtain ⟨node, isNode, ofNode⟩ := List.mem_flatMap.mp inNode
        obtain ⟨claims, same⟩ := claims_of_mem_sanitizeFeatureNodes isNode
        exact known claims claim (same ▸ ofNode)

theorem reviewSummaryClaims_citesWithin {valid : List String}
    (trimmed : TrimmedIds valid) (summary : ReviewThemeSummary) :
    CitesWithin valid
      (reviewSummaryClaims (sanitizeReviewSummary valid summary)) := by
  intro claim member
  obtain ⟨item, isItem, rfl⟩ :=
    List.mem_map.mp (mem_of_mem_distinctBy member)
  have within := themeItem_citesWithin trimmed (List.mem_of_mem_filter isItem)
  exact mergeOrderedRefs_subset trimmed (by simpa using within)

/-- With sources, a sanitised slice cites only them. -/
theorem sanitizeSliceSources_citesWithin {valid : List String}
    {dimension : String} {reviewed : Bool} (present : valid ≠ [])
    (trimmed : TrimmedIds valid)
    (readsReview : dimensionUsesReviewSummary dimension = true →
      reviewed = true)
    (knowledge : CompetitorKnowledge) :
    CitesWithin valid
      (structuredClaims dimension
        (sanitizeSliceSources valid dimension reviewed knowledge)) := by
  intro claim member
  rw [sanitizeSliceSources, if_neg present] at member
  rcases List.mem_append.mp member with inSlot | inReview
  · rw [KnowledgeSlot.claims_shared] at inSlot
    exact KnowledgeSlot.sanitize_citesWithin trimmed
      (knowledgeSlot dimension) _ claim inSlot
  · split at inReview
    · next uses =>
        simp only [KnowledgeSlot.sanitize_reviewSummary, readsReview uses,
          if_true] at inReview
        exact reviewSummaryClaims_citesWithin trimmed
          knowledge.reviewSummary claim inReview
    · cases inReview

theorem sanitizeSliceSources_sourceIds {valid : List String}
    {dimension : String} {reviewed : Bool} (present : valid ≠ [])
    (knowledge : CompetitorKnowledge) :
    (sanitizeSliceSources valid dimension reviewed knowledge).sourceIds =
      knowledge.sourceIds.filter (· ∈ valid) := by
  rw [sanitizeSliceSources, if_neg present]
  cases reviewed <;> rfl

/-! ## Running the branches -/

/-- The end of `_run_real_analyst_competitor`: a cache entry is looked up only
for a slice with sources, whose content hash is not empty. -/
def runBranch (rules : ExtractionRules) (detail : RunDetail)
    (competitor : String) (knowledge : CompetitorKnowledge)
    (branch : AnalystBranch) : CompetitorKnowledge :=
  match branch.cacheEntry with
  | some entry =>
      if (sourcesForCompetitorDimension detail competitor
          branch.dimension).isEmpty then
        mergeStructuredKnowledgePayload rules detail competitor
          branch.dimension branch.payload knowledge
      else
        applyKbCacheEntry rules detail competitor branch.dimension entry
          knowledge
  | none =>
      mergeStructuredKnowledgePayload rules detail competitor
        branch.dimension branch.payload knowledge

def runBranches (rules : ExtractionRules) (detail : RunDetail)
    (competitor : String) (knowledge : CompetitorKnowledge)
    (branches : List AnalystBranch) : CompetitorKnowledge :=
  branches.foldl (runBranch rules detail competitor) knowledge

/-- The claims a branch merged, when it finishes after `before`. -/
def mergedClaims (rules : ExtractionRules) (detail : RunDetail)
    (competitor : String) (knowledge : CompetitorKnowledge)
    (before : List AnalystBranch) (branch : AnalystBranch) :
    List KnowledgeClaim :=
  structuredClaims branch.dimension
    (runBranches rules detail competitor knowledge (before ++ [branch]))

/-- In every order the branches can finish in, the claims of each of them are
kept, their citations recorded, and the result is the same. -/
structure MergesSound (rules : ExtractionRules) (detail : RunDetail)
    (competitor : String) (knowledge : CompetitorKnowledge)
    (branches : List AnalystBranch) : Prop where
  keepsClaims : ∀ before branch after,
    (before ++ branch :: after).Perm branches →
      ∀ claim ∈ mergedClaims rules detail competitor knowledge before branch,
        claim ∈ structuredClaims branch.dimension
          (runBranches rules detail competitor knowledge
            (before ++ branch :: after))
  recordsCitations : ∀ before branch after,
    (before ++ branch :: after).Perm branches →
      ∀ id ∈ citedSourceIds
          (mergedClaims rules detail competitor knowledge before branch),
        id ∈ (runBranches rules detail competitor knowledge
          (before ++ branch :: after)).sourceIds
  orderFree : ∀ first second : List AnalystBranch,
    first.Perm branches → second.Perm branches →
      runBranches rules detail competitor knowledge first =
        runBranches rules detail competitor knowledge second

/-! ## One branch -/

section

variable {rules : ExtractionRules} {detail : RunDetail}
variable {competitor dimension : String}

theorem SourceIdsAssigned.trimmedIds (assigned : SourceIdsAssigned detail)
    (competitor dimension : String) :
    TrimmedIds
      (sourceIdsForCompetitorDimension detail competitor dimension) := by
  intro id member
  obtain ⟨source, selected, rfl⟩ := List.mem_map.mp member
  exact assigned.trimmed source (List.mem_of_mem_filter selected)

/-- Slices of two dimensions have no source id in common. -/
theorem SourceIdsAssigned.disjoint (assigned : SourceIdsAssigned detail)
    {other id : String}
    (member : id ∈ sourceIdsForCompetitorDimension detail competitor
      dimension)
    (shared : id ∈ sourceIdsForCompetitorDimension detail competitor other) :
    dimension = other := by
  obtain ⟨source, selected, rfl⟩ := List.mem_map.mp member
  obtain ⟨twin, twinSelected, same⟩ := List.mem_map.mp shared
  obtain ⟨inRun, matching⟩ := List.mem_filter.mp selected
  obtain ⟨twinInRun, twinMatching⟩ := List.mem_filter.mp twinSelected
  simp only [Bool.and_eq_true, decide_eq_true_eq] at matching twinMatching
  rw [← matching.1, ← twinMatching.1]
  exact assigned.sameDimension source inRun twin twinInRun same.symm

theorem mergedReview_changed {sources : List RawSource}
    {payload : StructuredPayload} {previous : ReviewThemeSummary}
    (uses : dimensionUsesReviewSummary dimension = true) :
    (mergedReview rules sources competitor dimension payload previous).2 =
      true := by
  unfold mergedReview
  cases payload.reviewSummary <;> simp only [uses, if_true] <;> split <;> rfl

theorem sanitizedPayload_citesWithin (payload : StructuredPayload)
    (knowledge : CompetitorKnowledge) (assigned : SourceIdsAssigned detail)
    (present : sourceIdsForCompetitorDimension detail competitor
      dimension ≠ []) :
    CitesWithin (sourceIdsForCompetitorDimension detail competitor dimension)
      (structuredClaims dimension
        (sanitizedPayload rules detail competitor dimension payload
          knowledge)) :=
  sanitizeSliceSources_citesWithin present
    (assigned.trimmedIds competitor dimension) mergedReview_changed _

theorem sanitizedEntry_citesWithin (cached knowledge : CompetitorKnowledge)
    (assigned : SourceIdsAssigned detail)
    (present : sourceIdsForCompetitorDimension detail competitor
      dimension ≠ []) :
    CitesWithin (sourceIdsForCompetitorDimension detail competitor dimension)
      (structuredClaims dimension
        (sanitizedEntry rules detail competitor dimension cached
          knowledge)) :=
  sanitizeSliceSources_citesWithin present
    (assigned.trimmedIds competitor dimension) id _

theorem mergePayload_sourceIds_subset (rules : ExtractionRules)
    (payload : StructuredPayload)
    (knowledge : CompetitorKnowledge) (assigned : SourceIdsAssigned detail)
    (present : sourceIdsForCompetitorDimension detail competitor
      dimension ≠ []) :
    ∀ id ∈ (mergeStructuredKnowledgePayload rules detail competitor dimension
        payload knowledge).sourceIds,
      id ∈ sourceIdsForCompetitorDimension detail competitor dimension := by
  rw [mergePayload_sourceIds]
  refine mergeOrderedRefs_subset
    (assigned.trimmedIds competitor dimension) ?_
  intro group isGroup id member
  rcases List.mem_pair.mp isGroup with rfl | rfl
  · rw [sanitizedPayload, sanitizeSliceSources_sourceIds present] at member
    simpa using (List.mem_filter.mp member).2
  · obtain ⟨claim, isClaim, cited⟩ := List.mem_flatMap.mp member
    exact sanitizedPayload_citesWithin payload knowledge assigned present
      claim isClaim id cited

/-- A branch with sources leaves no source id of another slice behind. -/
theorem runBranch_sourceIds_subset (branch : AnalystBranch)
    {knowledge : CompetitorKnowledge}
    (assigned : SourceIdsAssigned detail)
    (present : sourceIdsForCompetitorDimension detail competitor
      branch.dimension ≠ []) :
    ∀ id ∈ (runBranch rules detail competitor knowledge branch).sourceIds,
      id ∈ sourceIdsForCompetitorDimension detail competitor
        branch.dimension := by
  have merged :=
    mergePayload_sourceIds_subset rules branch.payload knowledge assigned
      present
  unfold runBranch
  split
  · split
    · exact merged
    · intro id member
      rw [mem_applyKbCacheEntry_sourceIds] at member
      exact member.2
  · exact merged

theorem mergePayload_recordsCitations (payload : StructuredPayload)
    (knowledge : CompetitorKnowledge) :
    ∀ id ∈ citedSourceIds
        (structuredClaims dimension
          (mergeStructuredKnowledgePayload rules detail competitor dimension
            payload knowledge)),
      id ∈ (mergeStructuredKnowledgePayload rules detail competitor dimension
        payload knowledge).sourceIds := by
  intro id member
  rw [structuredClaims_mergePayload] at member
  rw [mergePayload_sourceIds]
  obtain ⟨ref, cited, trimmedRef⟩ := mem_mergeOrderedRefs.mp member
  refine mem_mergeOrderedRefs.mpr ⟨ref, ?_, trimmedRef⟩
  rw [List.flatten_cons]
  exact List.mem_append_right _ cited

theorem applyKbCacheEntry_recordsCitations (entry : KBCacheEntry)
    (knowledge : CompetitorKnowledge) (assigned : SourceIdsAssigned detail)
    (present : sourceIdsForCompetitorDimension detail competitor
      dimension ≠ []) :
    ∀ id ∈ citedSourceIds
        (structuredClaims dimension
          (applyKbCacheEntry rules detail competitor dimension entry
            knowledge)),
      id ∈ (applyKbCacheEntry rules detail competitor dimension entry
        knowledge).sourceIds := by
  intro id member
  rw [structuredClaims_applyKbCacheEntry] at member
  rw [mem_applyKbCacheEntry_sourceIds]
  have trimmed := assigned.trimmedIds competitor dimension
  have known : id ∈ sourceIdsForCompetitorDimension detail competitor
      dimension := by
    refine mergeOrderedRefs_subset trimmed ?_ id member
    intro group isGroup cited inGroup
    obtain rfl := List.mem_singleton.mp isGroup
    obtain ⟨claim, isClaim, ofClaim⟩ := List.mem_flatMap.mp inGroup
    exact sanitizedEntry_citesWithin entry.knowledge knowledge assigned
      present claim isClaim cited ofClaim
  refine ⟨mem_mergeOrderedRefs.mpr ⟨id, ?_, trimmed id known⟩, known⟩
  simp [known]

/-- Right after its own merge everything a branch cites is recorded. -/
theorem runBranch_recordsCitations {branch : AnalystBranch}
    {knowledge : CompetitorKnowledge} (assigned : SourceIdsAssigned detail) :
    ∀ id ∈ citedSourceIds
        (structuredClaims branch.dimension
          (runBranch rules detail competitor knowledge branch)),
      id ∈ (runBranch rules detail competitor knowledge branch).sourceIds := by
  unfold runBranch
  split
  · split
    · exact mergePayload_recordsCitations branch.payload knowledge
    · next nonempty =>
        have present : sourceIdsForCompetitorDimension detail competitor
            branch.dimension ≠ [] := by
          simpa [sourceIdsForCompetitorDimension] using nonempty
        exact applyKbCacheEntry_recordsCitations _ knowledge assigned present
  · exact mergePayload_recordsCitations branch.payload knowledge

/-- A single branch is sound, whatever it merges. -/
theorem mergesSound_of_atMostOne {knowledge : CompetitorKnowledge}
    {branches : List AnalystBranch} (assigned : SourceIdsAssigned detail)
    (single : branches.length ≤ 1) :
    MergesSound rules detail competitor knowledge branches := by
  have alone : ∀ {before after : List AnalystBranch} {branch},
      (before ++ branch :: after).Perm branches →
        before = [] ∧ after = [] := by
    intro before after branch order
    have lengths := order.length_eq
    simp only [List.length_append, List.length_cons] at lengths
    exact ⟨List.length_eq_zero_iff.mp (by omega),
      List.length_eq_zero_iff.mp (by omega)⟩
  constructor
  · intro before branch after order claim merged
    obtain ⟨rfl, rfl⟩ := alone order
    exact merged
  · intro before branch after order id cited
    obtain ⟨rfl, rfl⟩ := alone order
    exact runBranch_recordsCitations assigned id cited
  · intro first second firstOrder secondOrder
    have same : first = second := by
      cases branches with
      | nil => rw [firstOrder.eq_nil, secondOrder.eq_nil]
      | cons branch rest =>
          have none : rest = [] :=
            List.length_eq_zero_iff.mp (by simpa using single)
          subst none
          rw [List.perm_singleton.mp firstOrder,
            List.perm_singleton.mp secondOrder]
    rw [same]

/-! ## Two branches -/

/-- A payload with one claim, whichever slot it goes to. -/
def citingPayload (id : String) : StructuredPayload :=
  let claims : List KnowledgeClaim := [{ claim := "A fact", sourceIds := [id] }]
  { pricingModel := .validated { notes := claims }
    userPersonas := .validated { summaryClaims := claims }
    featureTree := .validated { summaryClaims := claims } }

/-- The branch that cites `cites dimension`, if anything. -/
def citingBranch (cites : String → Option String) (dimension : String) :
    AnalystBranch :=
  { dimension := dimension
    payload :=
      match cites dimension with
      | some id => citingPayload id
      | none => {} }

private theorem claimsWithKnownSourceIds_single {valid : List String}
    (claim : KnowledgeClaim) {id : String} (cites : claim.sourceIds = [id])
    (trimmed : strip id = id) (nonempty : id ≠ "") (known : id ∈ valid) :
    claimsWithKnownSourceIds valid [claim] = [claim] := by
  have unchanged : pruned valid claim.sourceIds = claim.sourceIds := by
    simp [cites, pruned, mergeOrderedRefs, orderedUnique, orderedUniqueFrom,
      known, trimmed, nonempty]
  have kept : claimWithKnownSourceIds valid claim = some claim := by
    rw [claimWithKnownSourceIds, if_neg (by simp [cites, known]), unchanged]
  simp [claimsWithKnownSourceIds, kept, distinctBy, distinctByFrom]

/-- The claim of a citing payload comes first in its slice. -/
private theorem structuredClaims_citing (rules : ExtractionRules)
    {id : String}
    (trimmed : strip id = id) (nonempty : id ≠ "")
    (usable : sourceIdsForCompetitorDimension detail competitor
        dimension = [] ∨
      id ∈ sourceIdsForCompetitorDimension detail competitor dimension)
    (knowledge : CompetitorKnowledge) :
    ∃ claim rest,
      structuredClaims dimension
          (sanitizedPayload rules detail competitor dimension
            (citingPayload id) knowledge) = claim :: rest ∧
        claim.sourceIds = [id] := by
  rcases usable with none | known
  · cases slot : knowledgeSlot dimension <;>
      simp only [structuredClaims, sanitizedPayload, sanitizeSliceSources,
        none, slot, mergeSection, citingPayload, KnowledgeSlot.claims, if_true]
    all_goals
      split <;> exact ⟨_, _, rfl, rfl⟩
  · have present : sourceIdsForCompetitorDimension detail competitor
        dimension ≠ [] := List.ne_nil_of_mem known
    have kept := claimsWithKnownSourceIds_single
      { claim := "A fact", sourceIds := [id] } rfl trimmed nonempty known
    cases slot : knowledgeSlot dimension <;>
      simp only [structuredClaims, sanitizedPayload, sanitizeSliceSources,
        if_neg present, slot, mergeSection, citingPayload,
        KnowledgeSlot.claims_shared] <;>
      split <;>
      simp only [KnowledgeSlot.sanitize, KnowledgeSlot.claims,
        sanitizePricingModel, sanitizePersonaModel, sanitizeFeatureTree,
        kept, List.cons_append] <;>
      exact ⟨_, _, rfl, rfl⟩

/-- A citing branch merges its citation. -/
private theorem mem_citedSourceIds_citing {cites : String → Option String}
    {id : String} (cited : cites dimension = some id)
    (trimmed : strip id = id) (nonempty : id ≠ "")
    (usable : sourceIdsForCompetitorDimension detail competitor
        dimension = [] ∨
      id ∈ sourceIdsForCompetitorDimension detail competitor dimension)
    (knowledge : CompetitorKnowledge) (before : List AnalystBranch) :
    id ∈ citedSourceIds
      (mergedClaims rules detail competitor knowledge before
        (citingBranch cites dimension)) := by
  obtain ⟨claim, rest, merged, citesId⟩ :=
    structuredClaims_citing rules trimmed nonempty usable
      (runBranches rules detail competitor knowledge before)
  have claims : mergedClaims rules detail competitor knowledge before
      (citingBranch cites dimension) = claim :: rest := by
    rw [← merged, mergedClaims, runBranches, List.foldl_append]
    simp only [List.foldl_cons, List.foldl_nil, runBranch, citingBranch,
      cited, structuredClaims_mergePayload]
    rfl
  rw [claims]
  refine mem_mergeOrderedRefs.mpr ⟨id, ?_, trimmed, nonempty⟩
  simp [citesId]

/-- A branch with sources drops what another branch cites elsewhere. -/
private theorem not_mergesSound_of_sources {knowledge : CompetitorKnowledge}
    {dimensions rest : List String} {other : String}
    (assigned : SourceIdsAssigned detail) (different : dimension ≠ other)
    (order : dimensions.Perm (dimension :: other :: rest))
    (present : sourceIdsForCompetitorDimension detail competitor
      other ≠ []) :
    ∃ branches : List AnalystBranch,
      branches.map (·.dimension) = dimensions ∧
        ¬ MergesSound rules detail competitor knowledge branches := by
  have foreign : ∃ id, strip id = id ∧ id ≠ "" ∧
      id ∉ sourceIdsForCompetitorDimension detail competitor other ∧
      (sourceIdsForCompetitorDimension detail competitor dimension = [] ∨
        id ∈ sourceIdsForCompetitorDimension detail competitor
          dimension) := by
    by_cases none : sourceIdsForCompetitorDimension detail competitor
        dimension = []
    · obtain ⟨id, trimmed, nonempty, fresh⟩ := exists_trimmed_not_mem
        (sourceIdsForCompetitorDimension detail competitor other)
      exact ⟨id, trimmed, nonempty, fresh, .inl none⟩
    · obtain ⟨id, member⟩ := List.exists_mem_of_ne_nil _ none
      obtain ⟨trimmed, nonempty⟩ :=
        assigned.trimmedIds competitor dimension id member
      refine ⟨id, trimmed, nonempty, ?_, .inr member⟩
      intro shared
      exact different (assigned.disjoint member shared)
  obtain ⟨id, trimmed, nonempty, fresh, usable⟩ := foreign
  let cites : String → Option String := fun candidate =>
    if candidate = dimension then some id else none
  refine ⟨dimensions.map (citingBranch cites), ?_, ?_⟩
  · simp [Function.comp_def, citingBranch]
  · intro sound
    have lastOrder :
        (rest.map (citingBranch cites) ++ citingBranch cites dimension ::
          [citingBranch cites other]).Perm
          (dimensions.map (citingBranch cites)) := by
      refine List.Perm.trans ?_ (order.map (citingBranch cites)).symm
      exact List.perm_append_comm
    have recorded := sound.recordsCitations _ _ _ lastOrder id
      (mem_citedSourceIds_citing (by simp [cites]) trimmed nonempty usable
        knowledge _)
    apply fresh
    rw [runBranches, List.foldl_append] at recorded
    exact runBranch_sourceIds_subset (citingBranch cites other) assigned
      present id recorded

private theorem sanitizedPayload_sourceIds_of_none
    (none : sourceIdsForCompetitorDimension detail competitor
      dimension = []) (payload : StructuredPayload)
    (knowledge : CompetitorKnowledge) :
    (sanitizedPayload rules detail competitor dimension payload
      knowledge).sourceIds = knowledge.sourceIds := by
  simp only [sanitizedPayload, sanitizeSliceSources, none, if_true]
  split <;> simp only [mergeSection] <;> split <;> split <;> rfl

/-- Without sources, a branch only adds behind the recorded ids. -/
private theorem runBranch_isPrefix (rules : ExtractionRules)
    (cites : String → Option String) (knowledge : CompetitorKnowledge)
    (none : sourceIdsForCompetitorDimension detail competitor
      dimension = []) :
    ∃ more,
      (runBranch rules detail competitor knowledge
          (citingBranch cites dimension)).sourceIds =
        mergeOrderedRefs [knowledge.sourceIds, more] := by
  simp only [runBranch, citingBranch, mergePayload_sourceIds]
  rw [sanitizedPayload_sourceIds_of_none none]
  exact ⟨_, rfl⟩

private theorem runBranches_isPrefix {cites : String → Option String}
    {front : List String} (dimensions : List String)
    {knowledge : CompetitorKnowledge}
    (none : ∀ dimension ∈ dimensions,
      sourceIdsForCompetitorDimension detail competitor dimension = [])
    (merged : mergeOrderedRefs [knowledge.sourceIds] = knowledge.sourceIds)
    (isFront : front <+: knowledge.sourceIds) :
    front <+: (runBranches rules detail competitor knowledge
      (dimensions.map (citingBranch cites))).sourceIds := by
  induction dimensions generalizing knowledge with
  | nil => exact isFront
  | cons dimension dimensions induction =>
      obtain ⟨more, recorded⟩ := runBranch_isPrefix rules cites knowledge
        (none dimension List.mem_cons_self)
      refine induction
        (fun later member => none later (List.mem_cons_of_mem _ member))
        ?_ ?_
      · rw [recorded, mergeOrderedRefs_mergeOrderedRefs]
      · rw [recorded]
        have kept := mergeOrderedRefs_isPrefix knowledge.sourceIds more
        rw [merged] at kept
        exact isFront.trans kept

/-- Without sources, the first citing branch fixes the next recorded id. -/
private theorem runBranches_first (rules : ExtractionRules)
    (cites : String → Option String) {id : String} {dimensions : List String}
    {knowledge : CompetitorKnowledge}
    (cited : cites dimension = some id) (trimmed : strip id = id)
    (nonempty : id ≠ "")
    (fresh : id ∉ mergeOrderedRefs [knowledge.sourceIds])
    (none : ∀ later ∈ dimension :: dimensions,
      sourceIdsForCompetitorDimension detail competitor later = []) :
    mergeOrderedRefs [knowledge.sourceIds] ++ [id] <+:
      (runBranches rules detail competitor knowledge
        ((dimension :: dimensions).map (citingBranch cites))).sourceIds := by
  have noSource := none dimension List.mem_cons_self
  obtain ⟨claim, rest, merged, citesId⟩ :=
    structuredClaims_citing rules trimmed nonempty (.inl noSource) knowledge
  have recorded :
      (runBranch rules detail competitor knowledge
          (citingBranch cites dimension)).sourceIds =
        mergeOrderedRefs
          [knowledge.sourceIds, id :: rest.flatMap (·.sourceIds)] := by
    simp only [runBranch, citingBranch, cited, mergePayload_sourceIds]
    rw [sanitizedPayload_sourceIds_of_none noSource, merged]
    simp [citesId]
  refine runBranches_isPrefix dimensions
    (fun later member => none later (List.mem_cons_of_mem _ member)) ?_ ?_
  · rw [recorded, mergeOrderedRefs_mergeOrderedRefs]
  · rw [recorded]
    exact mergeOrderedRefs_new trimmed nonempty fresh

/-- Without sources, the recorded ids tell in which order branches ended. -/
private theorem not_mergesSound_of_noSources
    {knowledge : CompetitorKnowledge} {dimensions rest : List String}
    {other : String} (different : dimension ≠ other)
    (order : dimensions.Perm (dimension :: other :: rest))
    (none : ∀ later ∈ dimensions,
      sourceIdsForCompetitorDimension detail competitor later = []) :
    ∃ branches : List AnalystBranch,
      branches.map (·.dimension) = dimensions ∧
        ¬ MergesSound rules detail competitor knowledge branches := by
  obtain ⟨first, firstTrimmed, firstNonempty, firstFresh⟩ :=
    exists_trimmed_not_mem (mergeOrderedRefs [knowledge.sourceIds])
  obtain ⟨second, secondTrimmed, secondNonempty, secondFresh⟩ :=
    exists_trimmed_not_mem
      (first :: mergeOrderedRefs [knowledge.sourceIds])
  rw [List.mem_cons, not_or] at secondFresh
  let cites : String → Option String := fun candidate =>
    if candidate = dimension then some first else some second
  refine ⟨dimensions.map (citingBranch cites), ?_, ?_⟩
  · simp [Function.comp_def, citingBranch]
  · intro sound
    have swapped : dimensions.Perm (other :: dimension :: rest) :=
      order.trans (List.Perm.swap other dimension rest)
    have same := sound.orderFree _ _
      (order.map (citingBranch cites)).symm
      (swapped.map (citingBranch cites)).symm
    have firstPrefix := runBranches_first rules cites (by simp [cites])
      firstTrimmed firstNonempty firstFresh
      fun later member => none later (order.mem_iff.mpr member)
    have secondPrefix := runBranches_first rules cites
      (by simp [cites, different.symm]) secondTrimmed secondNonempty
      secondFresh.2
      fun later member => none later (swapped.mem_iff.mpr member)
    rw [← same] at secondPrefix
    have heads := List.prefix_of_prefix_length_le firstPrefix secondPrefix
      (by simp)
    have equal := heads.eq_of_length (by simp)
    exact secondFresh.1 (by simpa using equal.symm)

end

end

/-! ## Two feature dimensions -/

section

local instance mergeExampleRuntime : PyRuntime := asciiRuntime

/-- What the extraction finds in sources without text. -/
def silentRules : ExtractionRules :=
  { pricingTiers := fun _ model => model.tiers
    personaSegments := fun _ _ personas => personas.segments
    featureNodes := fun _ _ => []
    communityReview := fun competitor dimension _ =>
      { competitor := competitor
        dimension := dimension }
    sourceReview := fun competitor dimension sources =>
      { competitor := competitor
        dimension := dimension
        sourceIds := sources.map (·.id) } }

def twoFeatureDimensions : RunDetail :=
  { id := "run"
    plan :=
      { competitors := ["Acme"]
        dimensions := ["features", "integrations"] }
    rawSources :=
      [{ id := "s1"
         competitor := "Acme"
         coveredCompetitors := ["Acme"]
         dimension := "features" },
        { id := "s2"
          competitor := "Acme"
          coveredCompetitors := ["Acme"]
          dimension := "integrations" }] }

def featureBranch (dimension fact source : String) : AnalystBranch :=
  { dimension := dimension
    payload :=
      { featureTree := .validated
          { summaryClaims := [{ claim := fact, sourceIds := [source] }] } } }

end

end CompetiScope
