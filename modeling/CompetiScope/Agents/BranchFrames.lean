import CompetiScope.Agents.GroundedClaims

/-!
# The slot of a branch

An analyst branch works for one competitor and one dimension.  The branches of
a real run write their own slot.  Those of a demo run go through the whole
plan and write a fallback for the other competitors.
-/

namespace CompetiScope

open Foundation

/-- The extraction of claims and facts from the text of findings. -/
structure FindingRules where
  /-- `_claims_from_findings` on the sources of the branch. -/
  claimsFromFindings : List RawSource → List String → List KnowledgeClaim
  /-- `_pricing_tiers_from_text`. -/
  pricingTiersFromText : String → List KnowledgeClaim → List PricingTier
  /-- `_dedupe_pricing_model_tiers`. -/
  dedupePricingTiers : List PricingTier → List PricingTier
  /-- `_persona_segments_from_text`. -/
  personaSegmentsFromText :
    String → String → List KnowledgeClaim → List UserPersonaSegment
  /-- `_feature_nodes_from_text`. -/
  featureNodesFromText : String → List KnowledgeClaim → List FeatureNode
  /-- `_extract_cited_source_ids`. -/
  extractCitedSourceIds : String → List String
  /-- `_remove_unknown_source_refs`. -/
  removeUnknownSourceRefs : String → List String → String

section

variable [PyRuntime]

/-- One finding in `_filter_findings_to_known_source_ids`. -/
def knownFinding (findings : FindingRules) (valid : List String)
    (finding : String) : Option String :=
  let clean := strip finding
  let cited := findings.extractCitedSourceIds clean
  let unknown := cited.filter (· ∉ valid)
  let kept :=
    if unknown = [] then clean
    else findings.removeUnknownSourceRefs clean unknown
  if clean = "" then none
  else if cited ≠ [] ∧ unknown = cited then none
  else if kept = "" then none
  else some kept

/-- `_filter_findings_to_known_source_ids`. -/
def filterFindingsToKnownSourceIds (findings : FindingRules)
    (valid texts : List String) : List String :=
  if valid = [] then (texts.map strip).filter (· ≠ "")
  else
    distinctBy (fun text => casefold (squeeze text))
      (texts.filterMap (knownFinding findings valid))

/-- `source.snippet or source.title`. -/
def sourceText (source : RawSource) : String :=
  if source.snippet = "" then source.title else source.snippet

/-- The findings a merge writes: those given, or texts of three sources. -/
def writtenFindings (findings : FindingRules) (detail : RunDetail)
    (competitor dimension : String) (texts : List String) : List String :=
  let known := filterFindingsToKnownSourceIds findings
    (sourceIdsForCompetitorDimension detail competitor dimension)
    (texts.filter (strip · ≠ ""))
  if known = [] then
    ((sourcesForCompetitorDimension detail competitor dimension).map
      sourceText).take 3
  else known

/-- The mean confidence of the sources of a competitor, if there are any. -/
def sourceConfidence (detail : RunDetail) (competitor : String)
    (previous : Float) : Float :=
  let confidences := (detail.rawSources.filter fun source =>
    sourceMatchesCompetitor source competitor).map (·.confidence)
  if confidences.isEmpty then previous
  else PyRuntime.floatSum confidences / Float.ofNat confidences.length

/-- The slot written by `_merge_structured_knowledge_slice`. -/
def KnowledgeSlot.fillFromFindings (findings : FindingRules)
    (competitor : String) (claims : List KnowledgeClaim)
    (knowledge : CompetitorKnowledge) : KnowledgeSlot → CompetitorKnowledge
  | .pricingModel =>
      let text := String.intercalate " " (claims.map (·.claim))
      let tiers :=
        if claims.isEmpty then knowledge.pricingModel.tiers
        else findings.pricingTiersFromText text claims
      { knowledge with
        pricingModel :=
          { notes := claims
            tiers := findings.dedupePricingTiers tiers } }
  | .userPersonas =>
      let text := String.intercalate " " (claims.map (·.claim))
      { knowledge with
        userPersonas :=
          { summaryClaims := claims
            segments :=
              if claims.isEmpty then knowledge.userPersonas.segments
              else findings.personaSegmentsFromText text competitor claims } }
  | .featureTree =>
      let text := String.intercalate " " (claims.map (·.claim))
      { knowledge with
        featureTree :=
          { summaryClaims := claims
            nodes := findings.featureNodesFromText text claims } }

/-- `_merge_structured_knowledge_slice`. -/
def mergeStructuredKnowledgeSlice (rules : ExtractionRules)
    (findings : FindingRules) (detail : RunDetail)
    (competitor dimension : String) (texts : List String) : RunDetail :=
  let knowledge := (detail.competitorKnowledge.get? competitor).getD
    { competitor := competitor }
  let sources := sourcesForCompetitorDimension detail competitor dimension
  let valid := sourceIdsForCompetitorDimension detail competitor dimension
  let filled := (knowledgeSlot dimension).fillFromFindings findings competitor
    (findings.claimsFromFindings sources texts) knowledge
  let reviewed :=
    { filled with
      reviewSummary :=
        if dimensionUsesReviewSummary dimension then
          builtReview rules sources competitor dimension
        else filled.reviewSummary
      sourceIds := mergeOrderedRefs [filled.sourceIds, valid] }
  let sanitized := sanitizeSliceSources valid dimension false reviewed
  { detail with
    competitorKnowledge := detail.competitorKnowledge.set competitor
      { sanitized with
        confidence :=
          sourceConfidence detail competitor sanitized.confidence } }

/-- `_merge_competitor_kb_slice`, which is also the body of the loop of
`_merge_kb_slice`. -/
def mergeCompetitorKbSlice (rules : ExtractionRules) (findings : FindingRules)
    (detail : RunDetail) (competitor dimension : String)
    (texts : List String) : RunDetail :=
  let written := writtenFindings findings detail competitor dimension texts
  let kb := (detail.competitorKbs.get? competitor).getD
    { competitor := competitor }
  let merged :=
    { kb with
      slices := kb.slices.set dimension written
      sources := mergeOrderedRefs [kb.sources,
        sourceIdsForCompetitorDimension detail competitor dimension]
      confidence := sourceConfidence detail competitor kb.confidence }
  mergeStructuredKnowledgeSlice rules findings
    { detail with
      competitorKbs := detail.competitorKbs.set competitor merged }
    competitor dimension written

/-- `_merge_kb_slice`. -/
def mergeKbSlice (rules : ExtractionRules) (findings : FindingRules)
    (detail : RunDetail) (dimension : String)
    (competitorFindings : Dict String (List String)) : RunDetail :=
  detail.plan.competitors.foldl
    (fun detail competitor =>
      mergeCompetitorKbSlice rules findings detail competitor dimension
        (competitorFindings.getD competitor []))
    detail

/-- The finding of a demo branch. -/
def demoFinding (detail : RunDetail) (dimension competitor : String) :
    String :=
  let suffix :=
    match sourceIdsForCompetitorDimension detail competitor dimension with
    | [] => ""
    | id :: _ => " [source:" ++ id ++ "]"
  "Demo " ++ dimension ++ " finding for " ++ competitor ++ "." ++ suffix

/-- `_demo_analyst_branch_step`. -/
def demoAnalystBranchStep (rules : ExtractionRules) (findings : FindingRules)
    (detail : RunDetail) (dimension competitor : String) : RunDetail :=
  mergeKbSlice rules findings detail dimension
    (Dict.empty.set competitor [demoFinding detail dimension competitor])

/-- `_apply_kb_cache_entry` on the run detail. -/
def applyCacheEntry (rules : ExtractionRules) (findings : FindingRules)
    (detail : RunDetail) (competitor dimension : String)
    (kbSlice : List String) (entry : KBCacheEntry) : RunDetail :=
  let valid := sourceIdsForCompetitorDimension detail competitor dimension
  let kb := (detail.competitorKbs.get? competitor).getD
    { competitor := competitor }
  let merged :=
    { kb with
      slices := kb.slices.set dimension
        (filterFindingsToKnownSourceIds findings valid kbSlice)
      sources := mergeOrderedRefs [kb.sources, valid]
      confidence := entry.confidence }
  let knowledge := (detail.competitorKnowledge.get? competitor).getD
    { competitor := competitor }
  { detail with
    competitorKbs := detail.competitorKbs.set competitor merged
    competitorKnowledge := detail.competitorKnowledge.set competitor
      (applyKbCacheEntry rules detail competitor dimension entry knowledge) }

/-- What a branch finishes with. -/
inductive BranchOutcome where
  | demo
  | cached (kbSlice : List String) (entry : KBCacheEntry)
  | merged (payload : StructuredPayload)

structure BranchRun where
  dimension : String
  competitor : String
  outcome : BranchOutcome

def branchStep (rules : ExtractionRules) (findings : FindingRules)
    (detail : RunDetail) (branch : BranchRun) : RunDetail :=
  match branch.outcome with
  | .demo =>
      demoAnalystBranchStep rules findings detail branch.dimension
        branch.competitor
  | .cached slice entry =>
      applyCacheEntry rules findings detail branch.competitor branch.dimension
        slice entry
  | .merged payload =>
      mergePayload rules detail branch.competitor branch.dimension payload

def branchSteps (rules : ExtractionRules) (findings : FindingRules)
    (detail : RunDetail) (branches : List BranchRun) : RunDetail :=
  branches.foldl (branchStep rules findings) detail

/-! ## Own slots -/

/-- Nothing of the other competitors changes, and of the competitor itself no
slice of another dimension. -/
structure OwnSlotOnly (competitor dimension : String)
    (before after : RunDetail) : Prop where
  plan : after.plan = before.plan
  otherKbs : ∀ other, other ≠ competitor →
    after.competitorKbs.get? other = before.competitorKbs.get? other
  otherKnowledge : ∀ other, other ≠ competitor →
    after.competitorKnowledge.get? other =
      before.competitorKnowledge.get? other
  otherSlices : ∀ other, other ≠ dimension →
    kbSlice after competitor other = kbSlice before competitor other

namespace OwnSlotOnly

variable {competitor dimension : String} {before middle after : RunDetail}

omit [PyRuntime] in
theorem refl (detail : RunDetail) :
    OwnSlotOnly competitor dimension detail detail := by
  constructor
  case plan => rfl
  case otherKbs => exact fun _ _ => rfl
  case otherKnowledge => exact fun _ _ => rfl
  case otherSlices => exact fun _ _ => rfl

omit [PyRuntime] in
theorem trans (first : OwnSlotOnly competitor dimension before middle)
    (second : OwnSlotOnly competitor dimension middle after) :
    OwnSlotOnly competitor dimension before after := by
  constructor
  case plan => exact second.plan.trans first.plan
  case otherKbs =>
    intro other different
    exact (second.otherKbs other different).trans
      (first.otherKbs other different)
  case otherKnowledge =>
    intro other different
    exact (second.otherKnowledge other different).trans
      (first.otherKnowledge other different)
  case otherSlices =>
    intro other different
    exact (second.otherSlices other different).trans
      (first.otherSlices other different)

omit [PyRuntime] in
/-- Every other slice stays. -/
theorem kbSlice_eq (own : OwnSlotOnly competitor dimension before after)
    {other otherDimension : String}
    (different : other ≠ competitor ∨ otherDimension ≠ dimension) :
    kbSlice after other otherDimension =
      kbSlice before other otherDimension := by
  by_cases same : other = competitor
  · subst same
    exact own.otherSlices otherDimension
      (different.resolve_left (not_not_intro rfl))
  · rw [kbSlice, kbSlice, own.otherKbs other same]

omit [PyRuntime] in
/-- A new KB record that differs in the slice of the dimension, and new
knowledge, of the competitor. -/
theorem of_set {kb : CompetitorKB} {knowledge : CompetitorKnowledge}
    {slices : List String}
    (isKb : kb.slices = (((before.competitorKbs.get? competitor).getD
      { competitor := competitor }).slices.set dimension slices)) :
    OwnSlotOnly competitor dimension before
      { before with
        competitorKbs := before.competitorKbs.set competitor kb
        competitorKnowledge :=
          before.competitorKnowledge.set competitor knowledge } := by
  constructor
  case plan => rfl
  case otherKbs =>
    intro other different
    exact Dict.get?_set_ne _ _ different
  case otherKnowledge =>
    intro other different
    exact Dict.get?_set_ne _ _ different
  case otherSlices =>
    intro other different
    rw [kbSlice, kbSlice, Dict.get?_set_self, Option.bind_some, isKb,
      Dict.get?_set_ne _ _ different]
    cases before.competitorKbs.get? competitor with
    | none => rfl
    | some kb => rfl

end OwnSlotOnly

section

variable {rules : ExtractionRules} {findings : FindingRules}
  {detail : RunDetail} {competitor dimension : String}

theorem mergeCompetitorKbSlice_own (texts : List String) :
    OwnSlotOnly competitor dimension detail
      (mergeCompetitorKbSlice rules findings detail competitor dimension
        texts) :=
  OwnSlotOnly.of_set rfl

theorem applyCacheEntry_own (slice : List String) (entry : KBCacheEntry) :
    OwnSlotOnly competitor dimension detail
      (applyCacheEntry rules findings detail competitor dimension slice
        entry) :=
  OwnSlotOnly.of_set rfl

/-- A merge that raises has written the knowledge of its competitor. -/
theorem mergePayload_own (payload : StructuredPayload) :
    OwnSlotOnly competitor dimension detail
      (mergePayload rules detail competitor dimension payload) := by
  unfold mergePayload
  dsimp only
  split
  · constructor
    case plan => rfl
    case otherKbs => exact fun _ _ => rfl
    case otherKnowledge =>
      intro other different
      exact Dict.get?_set_ne _ _ different
    case otherSlices => exact fun _ _ => rfl
  · next kb synced =>
      obtain ⟨lines, areLines, rfl⟩ := Option.map_eq_some_iff.mp synced
      exact OwnSlotOnly.of_set rfl

/-- A demo branch keeps to its slot where the plan has no other
competitor. -/
theorem demoAnalystBranchStep_own
    (alone : ∀ other ∈ detail.plan.competitors, other = competitor) :
    OwnSlotOnly competitor dimension detail
      (demoAnalystBranchStep rules findings detail dimension competitor) := by
  unfold demoAnalystBranchStep mergeKbSlice
  generalize Dict.empty.set competitor
    [demoFinding detail dimension competitor] = given
  revert alone
  generalize planned : detail.plan.competitors = competitors
  clear planned
  induction competitors generalizing detail with
  | nil =>
      intro alone
      exact OwnSlotOnly.refl detail
  | cons other rest induction =>
      intro alone
      have same := alone other List.mem_cons_self
      subst same
      rw [List.foldl_cons]
      exact (mergeCompetitorKbSlice_own _).trans
        (induction fun another member =>
          alone another (List.mem_cons_of_mem _ member))

/-- A real branch, or a demo branch of a plan with no other competitor. -/
def BranchRun.KeepsToSlot (plan : AnalysisPlan) (branch : BranchRun) : Prop :=
  branch.outcome = .demo →
    ∀ other ∈ plan.competitors, other = branch.competitor

theorem branchStep_own {branch : BranchRun}
    (keeps : branch.KeepsToSlot detail.plan) :
    OwnSlotOnly branch.competitor branch.dimension detail
      (branchStep rules findings detail branch) := by
  unfold branchStep
  cases outcome : branch.outcome with
  | demo => exact demoAnalystBranchStep_own (keeps outcome)
  | cached slice entry => exact applyCacheEntry_own slice entry
  | merged payload => exact mergePayload_own payload

theorem branchSteps_plan {branches : List BranchRun}
    (keeps : ∀ branch ∈ branches, branch.KeepsToSlot detail.plan) :
    (branchSteps rules findings detail branches).plan = detail.plan := by
  induction branches generalizing detail with
  | nil => rfl
  | cons branch branches induction =>
      have own := @branchStep_own _ rules findings detail branch
        (keeps branch List.mem_cons_self)
      have later := @induction (branchStep rules findings detail branch) (by
        intro other member
        rw [own.plan]
        exact keeps other (List.mem_cons_of_mem branch member))
      exact later.trans own.plan

/-- Branches of other slots leave a slice alone. -/
theorem branchSteps_kbSlice {branches : List BranchRun}
    (keeps : ∀ branch ∈ branches, branch.KeepsToSlot detail.plan)
    (elsewhere : ∀ branch ∈ branches,
      ¬ (branch.competitor = competitor ∧ branch.dimension = dimension)) :
    kbSlice (branchSteps rules findings detail branches) competitor
        dimension =
      kbSlice detail competitor dimension := by
  induction branches generalizing detail with
  | nil => rfl
  | cons branch branches induction =>
      have own := @branchStep_own _ rules findings detail branch
        (keeps branch List.mem_cons_self)
      have later := @induction (branchStep rules findings detail branch)
        (by
          intro other member
          rw [own.plan]
          exact keeps other (List.mem_cons_of_mem branch member))
        (fun other member =>
          elsewhere other (List.mem_cons_of_mem branch member))
      have different := elsewhere branch List.mem_cons_self
      rw [not_and_or] at different
      exact later.trans (own.kbSlice_eq
        (different.imp (fun distinct same => distinct same.symm)
          (fun distinct same => distinct same.symm)))

/-- In every run of real branches, and of demo branches of a plan with one
competitor, each branch keeps to its slot, and a slice is in the end what its
last branch wrote. -/
theorem branches_keepOwnSlots {branches : List BranchRun}
    (keeps : ∀ branch ∈ branches, branch.KeepsToSlot detail.plan) :
    ∀ past branch later, branches = past ++ branch :: later →
      OwnSlotOnly branch.competitor branch.dimension
          (branchSteps rules findings detail past)
          (branchSteps rules findings detail (past ++ [branch])) ∧
        ((∀ other ∈ later, ¬ (other.competitor = branch.competitor ∧
            other.dimension = branch.dimension)) →
          kbSlice (branchSteps rules findings detail branches)
              branch.competitor branch.dimension =
            kbSlice (branchSteps rules findings detail (past ++ [branch]))
              branch.competitor branch.dimension) := by
  intro past branch later split
  subst split
  have pastKeeps : ∀ other ∈ past, other.KeepsToSlot detail.plan :=
    fun other member => keeps other (List.mem_append_left _ member)
  have pastPlan := @branchSteps_plan _ rules findings detail past pastKeeps
  have stepKeeps : branch.KeepsToSlot
      (branchSteps rules findings detail past).plan := by
    rw [pastPlan]
    exact keeps branch (List.mem_append_right past List.mem_cons_self)
  have grown : branchSteps rules findings detail (past ++ [branch]) =
      branchStep rules findings (branchSteps rules findings detail past)
        branch := by
    rw [branchSteps, List.foldl_append]
    rfl
  have own := @branchStep_own _ rules findings
    (branchSteps rules findings detail past) branch stepKeeps
  rw [grown]
  refine ⟨own, ?_⟩
  intro elsewhere
  have rest : branchSteps rules findings detail (past ++ branch :: later) =
      branchSteps rules findings
        (branchStep rules findings (branchSteps rules findings detail past)
          branch) later := by
    rw [branchSteps, List.foldl_append]
    rfl
  rw [rest]
  apply branchSteps_kbSlice _ elsewhere
  intro other member
  rw [own.plan, pastPlan]
  exact keeps other
    (List.mem_append_right past (List.mem_cons_of_mem branch member))

end

end

namespace BranchExample

@[reducible] local instance branchRuntime : PyRuntime := asciiRuntime

def findings : FindingRules :=
  { claimsFromFindings := fun _ _ => []
    pricingTiersFromText := fun _ _ => []
    dedupePricingTiers := id
    personaSegmentsFromText := fun _ _ _ => []
    featureNodesFromText := fun _ _ => []
    extractCitedSourceIds := fun _ => []
    removeUnknownSourceRefs := fun text _ => text }

def detail : RunDetail :=
  { id := "run-1"
    plan :=
      { competitors := ["Acme", "Birch"]
        dimensions := ["pricing"] } }

def branch (competitor : String) (outcome : BranchOutcome) : BranchRun :=
  { dimension := "pricing"
    competitor := competitor
    outcome := outcome }

/-- The merge of Birch leaves the slice of Acme. -/
theorem branches_keepOwnSlots_twoMerges :
    kbSlice (branchSteps GroundedExample.rules findings detail
        [branch "Acme" (.merged {}), branch "Birch" (.merged {})])
        "Acme" "pricing" =
      kbSlice (branchSteps GroundedExample.rules findings detail
        [branch "Acme" (.merged {})]) "Acme" "pricing" := by
  have kept := @branches_keepOwnSlots _ GroundedExample.rules findings detail
    [branch "Acme" (.merged {}), branch "Birch" (.merged {})] (by
      intro other member
      rcases List.mem_pair.mp member with rfl | rfl <;> intro isDemo <;>
        cases isDemo)
    [] (branch "Acme" (.merged {})) [branch "Birch" (.merged {})] rfl
  apply kept.2
  intro other member
  rw [List.mem_singleton.mp member]
  decide

/-- The demo branch of Birch drops the finding of Acme. -/
theorem demo_finding_lost :
    kbSlice (branchSteps GroundedExample.rules findings detail
        [branch "Acme" .demo]) "Acme" "pricing" =
          some ["Demo pricing finding for Acme."] ∧
      kbSlice (branchSteps GroundedExample.rules findings detail
        [branch "Acme" .demo, branch "Birch" .demo]) "Acme" "pricing" =
          some [] := by
  decide +kernel

end BranchExample

end CompetiScope
