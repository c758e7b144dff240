import CompetiScope.Agents.ClearedOutputs
import CompetiScope.Agents.MergeOrder

/-!
# Grounded claims

A payload is merged into the slot of its dimension, at every depth of the
feature tree, and its claims become the lines of the KB slice.  Every claim
should cite sources collected for the branch and nothing else.
-/

namespace CompetiScope

open Foundation

/-! ## Claims at every depth -/

mutual

/-- The claim lists of a node and of those below it. -/
def FeatureNode.claimLists : FeatureNode → List (List KnowledgeClaim)
  | .mk _ _ claims children => claims :: nodesClaimLists children

def nodesClaimLists : List FeatureNode → List (List KnowledgeClaim)
  | [] => []
  | node :: nodes => node.claimLists ++ nodesClaimLists nodes

end

/-- All claim lists of a slot. -/
def KnowledgeSlot.claimLists (knowledge : CompetitorKnowledge) :
    KnowledgeSlot → List (List KnowledgeClaim)
  | .pricingModel =>
      knowledge.pricingModel.notes :: knowledge.pricingModel.tiers.map (·.claims)
  | .userPersonas =>
      knowledge.userPersonas.summaryClaims ::
        knowledge.userPersonas.segments.map (·.claims)
  | .featureTree =>
      knowledge.featureTree.summaryClaims ::
        nodesClaimLists knowledge.featureTree.nodes

/-- Every claim cites sources, valid ones only, and no claim of the list is
there twice. -/
structure Grounded (valid : List String) (claims : List KnowledgeClaim) :
    Prop where
  cites : ∀ claim ∈ claims, claim.sourceIds ≠ []
  within : CitesWithin valid claims
  distinct : claims.Pairwise fun first second =>
    ¬ (first.claim = second.claim ∧ first.sourceIds = second.sourceIds)

theorem grounded_nil (valid : List String) : Grounded valid [] := by
  constructor
  case cites => simp
  case within => simp [CitesWithin]
  case distinct => exact List.Pairwise.nil

/-- Nothing is grounded in no sources. -/
theorem Grounded.eq_nil {claims : List KnowledgeClaim}
    (grounded : Grounded [] claims) : claims = [] := by
  cases claims with
  | nil => rfl
  | cons claim rest =>
      obtain ⟨id, cited⟩ := List.exists_mem_of_ne_nil _
        (grounded.cites claim List.mem_cons_self)
      have known := grounded.within claim List.mem_cons_self id cited
      cases known

/-! ## The line of a claim -/

/-- A line of a KB slice; `claim.source_ids[0]` fails without citations. -/
def legacyLine (claim : KnowledgeClaim) : Option String :=
  match claim.sourceIds with
  | [] => none
  | id :: _ =>
      if contains claim.claim id then some claim.claim
      else some (claim.claim ++ " [source:" ++ id ++ "]")

/-- The line contains a citation of the claim. -/
def Carries (line : String) (claim : KnowledgeClaim) : Prop :=
  ∃ id ∈ claim.sourceIds, contains line id = true

theorem exists_legacyLine {claim : KnowledgeClaim}
    (cites : claim.sourceIds ≠ []) :
    ∃ line, legacyLine claim = some line ∧ Carries line claim := by
  rw [legacyLine]
  cases ids : claim.sourceIds with
  | nil => exact absurd ids cites
  | cons id rest =>
      have first : id ∈ claim.sourceIds := by
        rw [ids]
        exact List.mem_cons_self
      dsimp only
      by_cases mentioned : contains claim.claim id = true
      · rw [if_pos mentioned]
        exact ⟨_, rfl, id, first, mentioned⟩
      · rw [if_neg mentioned]
        refine ⟨_, rfl, id, first, ?_⟩
        apply hasInfix_iff.mpr
        simp only [String.toList_append]
        exact ⟨claim.claim.toList ++ " [source:".toList, "]".toList, rfl⟩

theorem exists_legacyLines {claims : List KnowledgeClaim}
    (cites : ∀ claim ∈ claims, claim.sourceIds ≠ []) :
    ∃ lines, claims.mapM legacyLine = some lines ∧
      List.Forall₂ Carries lines claims := by
  induction claims with
  | nil => exact ⟨[], rfl, .nil⟩
  | cons claim claims induction =>
      obtain ⟨line, isLine, carries⟩ :=
        exists_legacyLine (cites claim List.mem_cons_self)
      obtain ⟨lines, areLines, carry⟩ := induction fun other member =>
        cites other (List.mem_cons_of_mem claim member)
      refine ⟨line :: lines, ?_, .cons carries carry⟩
      simp [List.mapM_cons, isLine, areLines]

section

variable [PyRuntime]

/-! ## The merge -/

/-- `_sync_legacy_kb_from_structured_knowledge`; `none` where it raises. -/
def syncLegacyKb (detail : RunDetail) (competitor dimension : String)
    (claims : List KnowledgeClaim) : Option CompetitorKB :=
  let kb := (detail.competitorKbs.get? competitor).getD
    { competitor := competitor }
  (claims.mapM legacyLine).map fun lines =>
    { kb with
      slices := kb.slices.set dimension lines
      sources := mergeOrderedRefs [kb.sources, claims.flatMap (·.sourceIds)]
      confidence := claimListConfidence claims }

/-- `_merge_structured_knowledge_payload` on the run detail. -/
def mergePayload (rules : ExtractionRules) (detail : RunDetail)
    (competitor dimension : String) (payload : StructuredPayload) :
    RunDetail :=
  let knowledge := (detail.competitorKnowledge.get? competitor).getD
    { competitor := competitor }
  let merged := mergeStructuredKnowledgePayload rules detail competitor
    dimension payload knowledge
  let claims := structuredClaims dimension
    (sanitizedPayload rules detail competitor dimension payload knowledge)
  let known :=
    { detail with
      competitorKnowledge :=
        detail.competitorKnowledge.set competitor merged }
  match syncLegacyKb detail competitor dimension claims with
  | none => known
  | some kb =>
      { known with
        competitorKbs := detail.competitorKbs.set competitor kb }

/-! ## Sanitising grounds -/

/-- The claims that pass the filter are grounded. -/
theorem claimsWithKnownSourceIds_grounded {valid : List String}
    (trimmed : TrimmedIds valid) (claims : List KnowledgeClaim) :
    Grounded valid (claimsWithKnownSourceIds valid claims) := by
  constructor
  case within => exact claimsWithKnownSourceIds_citesWithin trimmed claims
  case cites =>
    intro claim member
    obtain ⟨original, -, kept⟩ :=
      List.mem_filterMap.mp (mem_of_mem_distinctBy member)
    unfold claimWithKnownSourceIds at kept
    split at kept
    · cases kept
    · next known =>
        cases kept
        obtain ⟨id, isKnown⟩ := List.exists_mem_of_ne_nil _ known
        obtain ⟨cited, isValid⟩ := List.mem_filter.mp isKnown
        have valued := of_decide_eq_true isValid
        have inPruned : id ∈ pruned valid original.sourceIds :=
          mem_pruned.mpr ⟨id, cited, valued, (trimmed id valued).1,
            (trimmed id valued).2⟩
        exact List.ne_nil_of_mem inPruned
  case distinct =>
    have keys := distinctBy_nodup KnowledgeClaim.key
      (claims.filterMap (claimWithKnownSourceIds valid))
    rw [List.Nodup, List.pairwise_map] at keys
    apply keys.imp
    intro first second different
    rintro ⟨sameText, sameIds⟩
    apply different
    rw [KnowledgeClaim.key, KnowledgeClaim.key, sameText, sameIds]

mutual

theorem claimLists_sanitizeFeatureNode (valid : List String) :
    ∀ node : FeatureNode, (sanitizeFeatureNode valid node).claimLists =
      node.claimLists.map (claimsWithKnownSourceIds valid)
  | .mk name description claims children => by
      rw [sanitizeFeatureNode, FeatureNode.claimLists, FeatureNode.claimLists,
        List.map_cons, nodesClaimLists_sanitizeFeatureNodes valid children]

theorem nodesClaimLists_sanitizeFeatureNodes (valid : List String) :
    ∀ nodes : List FeatureNode,
      nodesClaimLists (sanitizeFeatureNodes valid nodes) =
        (nodesClaimLists nodes).map (claimsWithKnownSourceIds valid)
  | [] => by
      rw [sanitizeFeatureNodes, nodesClaimLists, List.map_nil]
  | node :: nodes => by
      rw [sanitizeFeatureNodes, nodesClaimLists, nodesClaimLists,
        List.map_append, claimLists_sanitizeFeatureNode valid node,
        nodesClaimLists_sanitizeFeatureNodes valid nodes]

end

/-- Sanitising a slot filters each of its lists. -/
theorem KnowledgeSlot.claimLists_sanitize (valid : List String)
    (knowledge : CompetitorKnowledge) (slot : KnowledgeSlot) :
    slot.claimLists (slot.sanitize valid knowledge) =
      (slot.claimLists knowledge).map (claimsWithKnownSourceIds valid) := by
  cases slot with
  | pricingModel =>
      simp [claimLists, sanitize, sanitizePricingModel, Function.comp_def]
  | userPersonas =>
      simp [claimLists, sanitize, sanitizePersonaModel, Function.comp_def]
  | featureTree =>
      simp [claimLists, sanitize, sanitizeFeatureTree,
        nodesClaimLists_sanitizeFeatureNodes]

omit [PyRuntime] in
@[simp]
theorem KnowledgeSlot.claimLists_shared (knowledge : CompetitorKnowledge)
    (ids : List String) (confidence : Float) (slot : KnowledgeSlot) :
    slot.claimLists
        { knowledge with sourceIds := ids, confidence := confidence } =
      slot.claimLists knowledge := by
  cases slot <;> rfl

omit [PyRuntime] in
@[simp]
theorem KnowledgeSlot.claimLists_review (knowledge : CompetitorKnowledge)
    (review : ReviewThemeSummary) (slot : KnowledgeSlot) :
    slot.claimLists { knowledge with reviewSummary := review } =
      slot.claimLists knowledge := by
  cases slot <;> rfl

omit [PyRuntime] in
theorem FeatureNode.claims_mem_claimLists (node : FeatureNode) :
    node.claims ∈ node.claimLists := by
  cases node with
  | mk name description claims children =>
      rw [FeatureNode.claimLists]
      exact List.mem_cons_self

omit [PyRuntime] in
theorem claims_mem_nodesClaimLists {nodes : List FeatureNode}
    {node : FeatureNode} (member : node ∈ nodes) :
    node.claims ∈ nodesClaimLists nodes := by
  induction nodes with
  | nil => cases member
  | cons head tail induction =>
      rw [nodesClaimLists]
      rcases List.mem_cons.mp member with same | later
      · rw [same]
        exact List.mem_append_left _ head.claims_mem_claimLists
      · exact List.mem_append_right _ (induction later)

omit [PyRuntime] in
/-- The claims that become lines stand in one of the lists. -/
theorem KnowledgeSlot.exists_claimList {knowledge : CompetitorKnowledge}
    {slot : KnowledgeSlot} {claim : KnowledgeClaim}
    (member : claim ∈ slot.claims knowledge) :
    ∃ claims ∈ slot.claimLists knowledge, claim ∈ claims := by
  cases slot with
  | pricingModel =>
      rcases List.mem_append.mp member with note | inTier
      · exact ⟨_, List.mem_cons_self, note⟩
      · obtain ⟨tier, isTier, ofTier⟩ := List.mem_flatMap.mp inTier
        exact ⟨_, List.mem_cons_of_mem _ (List.mem_map_of_mem isTier), ofTier⟩
  | userPersonas =>
      rcases List.mem_append.mp member with summary | inSegment
      · exact ⟨_, List.mem_cons_self, summary⟩
      · obtain ⟨segment, isSegment, ofSegment⟩ := List.mem_flatMap.mp inSegment
        exact ⟨_, List.mem_cons_of_mem _ (List.mem_map_of_mem isSegment),
          ofSegment⟩
  | featureTree =>
      rcases List.mem_append.mp member with summary | inNode
      · exact ⟨_, List.mem_cons_self, summary⟩
      · obtain ⟨node, isNode, ofNode⟩ := List.mem_flatMap.mp inNode
        exact ⟨_, List.mem_cons_of_mem _ (claims_mem_nodesClaimLists isNode),
          ofNode⟩

theorem reviewSummaryClaims_cite {valid : List String}
    {summary : ReviewThemeSummary} {claim : KnowledgeClaim}
    (member : claim ∈
      reviewSummaryClaims (sanitizeReviewSummary valid summary)) :
    claim.sourceIds ≠ [] := by
  obtain ⟨item, isItem, rfl⟩ :=
    List.mem_map.mp (mem_of_mem_distinctBy member)
  obtain ⟨inSummary, cites⟩ := List.mem_filter.mp isItem
  have sanitized : ∃ ids, item.sourceIds = pruned valid ids := by
    simp only [ReviewThemeSummary.themeItems, sanitizeReviewSummary,
      List.mem_append, List.mem_map] at inSummary
    rcases inSummary with ((found | found) | found) | found <;>
      exact ⟨_, congrArg ReviewThemeItem.sourceIds found.choose_spec.2.symm⟩
  obtain ⟨ids, isPruned⟩ := sanitized
  have again : mergeOrderedRefs [item.sourceIds] = item.sourceIds := by
    rw [isPruned, pruned, mergeOrderedRefs_mergeOrderedRefs]
  dsimp only
  rw [again]
  exact of_decide_eq_true cites

section

variable {rules : ExtractionRules} {detail : RunDetail}
  {competitor dimension : String} {payload : StructuredPayload}

/-- The slot with the payload's section in it, before anything is checked. -/
def writtenSlot (rules : ExtractionRules) (detail : RunDetail)
    (competitor dimension : String) (payload : StructuredPayload) :
    List (List KnowledgeClaim) :=
  (knowledgeSlot dimension).claimLists
    (mergeSection rules
      (sourcesForCompetitorDimension detail competitor dimension) competitor
      dimension payload
      ((detail.competitorKnowledge.get? competitor).getD
        { competitor := competitor }))

/-- The lists of the merged slot: filtered, unless there is no source. -/
theorem claimLists_sanitizedPayload :
    (knowledgeSlot dimension).claimLists
        (sanitizedPayload rules detail competitor dimension payload
          ((detail.competitorKnowledge.get? competitor).getD
            { competitor := competitor })) =
      if sourceIdsForCompetitorDimension detail competitor dimension = [] then
        writtenSlot rules detail competitor dimension payload
      else
        (writtenSlot rules detail competitor dimension payload).map
          (claimsWithKnownSourceIds
            (sourceIdsForCompetitorDimension detail competitor dimension)) := by
  rw [sanitizedPayload, sanitizeSliceSources]
  dsimp only
  by_cases sourceless :
      sourceIdsForCompetitorDimension detail competitor dimension = []
  · rw [if_pos sourceless, if_pos sourceless]
    split <;> simp [writtenSlot]
  · rw [if_neg sourceless, if_neg sourceless]
    have sliced : ∀ (reviewed : CompetitorKnowledge) (ids : List String),
        (knowledgeSlot dimension).claimLists
            { (knowledgeSlot dimension).sanitize
                (sourceIdsForCompetitorDimension detail competitor dimension)
                reviewed with sourceIds := ids } =
          ((knowledgeSlot dimension).claimLists reviewed).map
            (claimsWithKnownSourceIds
              (sourceIdsForCompetitorDimension detail competitor
                dimension)) := by
      intro reviewed ids
      exact (KnowledgeSlot.claimLists_shared _ ids _ _).trans
        (KnowledgeSlot.claimLists_sanitize _ reviewed _)
    rw [sliced]
    split <;> simp [writtenSlot]

/-- The claims of a merge that become lines all cite something, when those of
its lists do. -/
theorem structuredClaims_cite
    (cites : ∀ claims ∈ (knowledgeSlot dimension).claimLists
      (sanitizedPayload rules detail competitor dimension payload
        ((detail.competitorKnowledge.get? competitor).getD
          { competitor := competitor })),
      ∀ claim ∈ claims, claim.sourceIds ≠ []) :
    ∀ claim ∈ structuredClaims dimension
        (sanitizedPayload rules detail competitor dimension payload
          ((detail.competitorKnowledge.get? competitor).getD
            { competitor := competitor })),
      claim.sourceIds ≠ [] := by
  intro claim member
  rcases List.mem_append.mp member with inSlot | inReview
  · obtain ⟨claims, isList, inside⟩ := KnowledgeSlot.exists_claimList inSlot
    exact cites claims isList claim inside
  · split at inReview
    · next uses =>
        have changed := @mergedReview_changed _ rules competitor dimension
          (sourcesForCompetitorDimension detail competitor dimension) payload
          ((detail.competitorKnowledge.get? competitor).getD
            { competitor := competitor }).reviewSummary uses
        have sanitized : ∃ valid summary,
            (sanitizedPayload rules detail competitor dimension payload
              ((detail.competitorKnowledge.get? competitor).getD
                { competitor := competitor })).reviewSummary =
              sanitizeReviewSummary valid summary := by
          rw [sanitizedPayload, sanitizeSliceSources]
          dsimp only
          rw [changed, if_pos rfl]
          split
          · exact ⟨_, _, rfl⟩
          · exact ⟨_, _, KnowledgeSlot.sanitize_reviewSummary _ _ _⟩
        obtain ⟨valid, summary, isSanitized⟩ := sanitized
        rw [isSanitized] at inReview
        exact reviewSummaryClaims_cite inReview
    · cases inReview

/-- After the merge every claim of the slot is grounded, and the KB slice has
a line for each claim, with one of its citations. -/
def MergeGrounds (rules : ExtractionRules) (detail : RunDetail)
    (competitor dimension : String) (payload : StructuredPayload) : Prop :=
  let merged := mergePayload rules detail competitor dimension payload
  ∃ knowledge lines,
    merged.competitorKnowledge.get? competitor = some knowledge ∧
    (∀ claims ∈ (knowledgeSlot dimension).claimLists knowledge,
      Grounded (sourceIdsForCompetitorDimension detail competitor dimension)
        claims) ∧
    kbSlice merged competitor dimension = some lines ∧
    List.Forall₂ Carries lines (structuredClaims dimension knowledge)

/-- What the merge leaves when its claims all cite something. -/
theorem mergePayload_spec
    (cites : ∀ claims ∈ (knowledgeSlot dimension).claimLists
      (sanitizedPayload rules detail competitor dimension payload
        ((detail.competitorKnowledge.get? competitor).getD
          { competitor := competitor })),
      ∀ claim ∈ claims, claim.sourceIds ≠ []) :
    ∃ knowledge lines,
      (mergePayload rules detail competitor dimension
        payload).competitorKnowledge.get? competitor = some knowledge ∧
      (knowledgeSlot dimension).claimLists knowledge =
        (knowledgeSlot dimension).claimLists
          (sanitizedPayload rules detail competitor dimension payload
            ((detail.competitorKnowledge.get? competitor).getD
              { competitor := competitor })) ∧
      kbSlice (mergePayload rules detail competitor dimension payload)
        competitor dimension = some lines ∧
      List.Forall₂ Carries lines (structuredClaims dimension knowledge) := by
  obtain ⟨lines, areLines, carry⟩ :=
    exists_legacyLines (structuredClaims_cite cites)
  have synced : ∃ kb, syncLegacyKb detail competitor dimension
      (structuredClaims dimension
        (sanitizedPayload rules detail competitor dimension payload
          ((detail.competitorKnowledge.get? competitor).getD
            { competitor := competitor }))) = some kb ∧
      kb.slices.get? dimension = some lines := by
    rw [syncLegacyKb, areLines]
    exact ⟨_, rfl, Dict.get?_set_self _ _ _⟩
  obtain ⟨kb, isSynced, slice⟩ := synced
  refine ⟨mergeStructuredKnowledgePayload rules detail competitor dimension
    payload ((detail.competitorKnowledge.get? competitor).getD
      { competitor := competitor }), lines, ?_, ?_, ?_, ?_⟩
  · unfold mergePayload
    dsimp only
    rw [isSynced]
    exact Dict.get?_set_self _ _ _
  · exact KnowledgeSlot.claimLists_shared _ _ _ _
  · unfold mergePayload kbSlice
    dsimp only
    rw [isSynced]
    dsimp only
    rw [Dict.get?_set_self, Option.bind_some, slice]
  · rw [structuredClaims_mergePayload]
    exact carry

/-- The merge grounds its claims exactly when the branch has a source or the
slot it writes holds no claim. -/
theorem mergeGrounds_iff
    (trimmed : ∀ source ∈ detail.rawSources,
      strip source.id = source.id ∧ source.id ≠ "") :
    MergeGrounds rules detail competitor dimension payload ↔
      sourceIdsForCompetitorDimension detail competitor dimension ≠ [] ∨
        ∀ claims ∈ writtenSlot rules detail competitor dimension payload,
          claims = [] := by
  have trimmedIds : TrimmedIds
      (sourceIdsForCompetitorDimension detail competitor dimension) := by
    intro id member
    obtain ⟨source, selected, rfl⟩ := List.mem_map.mp member
    exact trimmed source (List.mem_of_mem_filter selected)
  have lists := @claimLists_sanitizedPayload _ rules detail competitor
    dimension payload
  have grounds : (∀ claims ∈ (knowledgeSlot dimension).claimLists
      (sanitizedPayload rules detail competitor dimension payload
        ((detail.competitorKnowledge.get? competitor).getD
          { competitor := competitor })),
      Grounded (sourceIdsForCompetitorDimension detail competitor dimension)
        claims) →
      MergeGrounds rules detail competitor dimension payload := by
    intro grounded
    obtain ⟨knowledge, lines, found, sameLists, slice, carry⟩ :=
      mergePayload_spec fun claims isList => (grounded claims isList).cites
    refine ⟨knowledge, lines, found, ?_, slice, carry⟩
    rw [sameLists]
    exact grounded
  by_cases sourceless :
      sourceIdsForCompetitorDimension detail competitor dimension = []
  · rw [if_pos sourceless] at lists
    rw [or_iff_right (not_not_intro sourceless)]
    constructor
    · rintro ⟨knowledge, lines, found, grounded, _⟩ claims isList
      have isMerged : knowledge = mergeStructuredKnowledgePayload rules detail
          competitor dimension payload
          ((detail.competitorKnowledge.get? competitor).getD
            { competitor := competitor }) := by
        unfold mergePayload at found
        dsimp only at found
        split at found <;>
          exact (Option.some.inj
            ((Dict.get?_set_self _ _ _).symm.trans found)).symm
      have sameLists : (knowledgeSlot dimension).claimLists knowledge =
          writtenSlot rules detail competitor dimension payload := by
        rw [← lists, isMerged]
        exact KnowledgeSlot.claimLists_shared _ _ _ _
      have isGrounded := grounded claims (by rwa [sameLists])
      rw [sourceless] at isGrounded
      exact isGrounded.eq_nil
    · intro empty
      apply grounds
      rw [lists]
      intro claims isList
      rw [empty claims isList]
      exact grounded_nil _
  · refine iff_of_true ?_ (Or.inl sourceless)
    apply grounds
    rw [lists, if_neg sourceless]
    intro claims isList
    obtain ⟨original, -, rfl⟩ := List.mem_map.mp isList
    exact claimsWithKnownSourceIds_grounded trimmedIds original

end

end

namespace GroundedExample

@[reducible] local instance groundedRuntime : PyRuntime := asciiRuntime

/-- Rules that find nothing in the sources. -/
def rules : ExtractionRules :=
  { pricingTiers := fun _ model => model.tiers
    personaSegments := fun _ _ personas => personas.segments
    featureNodes := fun _ _ => []
    communityReview := fun _ _ _ => {}
    sourceReview := fun _ _ _ => {} }

def source : RawSource :=
  { id := "raw-source-1"
    competitor := "Acme"
    dimension := "pricing" }

def detail (sources : List RawSource) : RunDetail :=
  { id := "run-1"
    plan :=
      { competitors := ["Acme"]
        dimensions := ["pricing"] }
    rawSources := sources }

def claim : KnowledgeClaim :=
  { claim := "Acme costs 9 a month."
    sourceIds := ["raw-source-7"] }

/-- An answer with a citation the model made up. -/
def payload : StructuredPayload :=
  { pricingModel := .validated { notes := [claim] } }

theorem mergeGrounds_iff_oneSource :
    MergeGrounds rules (detail [source]) "Acme" "pricing" payload := by
  apply (mergeGrounds_iff ?_).mpr
  · left
    decide
  · intro other member
    rw [List.mem_singleton.mp member]
    decide

/-- Without a source the made-up citation stays. -/
theorem sourceless_branch_ungrounded :
    ¬ MergeGrounds rules (detail []) "Acme" "pricing" payload := by
  rintro ⟨knowledge, lines, found, grounded, _⟩
  have merged : (mergePayload rules (detail []) "Acme" "pricing"
      payload).competitorKnowledge.get? "Acme" = some _ := rfl
  rw [merged] at found
  cases found
  have isGrounded := grounded [claim] (by exact List.mem_cons_self)
  have empty := @Grounded.eq_nil [claim] isGrounded
  cases empty

end GroundedExample

end CompetiScope
