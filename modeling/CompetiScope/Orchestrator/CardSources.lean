import CompetiScope.Agents.CardCitations
import CompetiScope.Foundation.Numerals
import CompetiScope.Orchestrator.SourceIds
import Mathlib.Tactic.MkIffOfInductiveProp

/-!
# Cards and their sources

Analyst branches replace the claim card bundle of their slice, and the
comparator replaces the decision cards; nothing else touches them.  Retries
and redos drop sources and leave the bundles of other slices alone, so a
bundle may cite sources that are gone when the comparator or the writer is
entered.
-/

namespace CompetiScope

open Foundation

/-- A run of the graph with the cards of its detail. -/
structure CardRun where
  run : GraphRun
  claimCardBundles : List AnalystCardBundle := []
  decisionCardBundle : Option DecisionCardBundle := none

/-- The source library with what cards need of the interpreter.  The digest is
a hexadecimal number. -/
structure CardRunLibrary extends SourceLibrary where
  isPrintable : Char → Bool
  rate : RawSource → RatedSource
  rate_raw : ∀ source, (rate source).raw = source
  digest_visible : ∀ text, ∀ char ∈ (sha256Hex text).toList,
    isSpace char = false

def CardRunLibrary.cardLibrary (library : CardRunLibrary) : CardLibrary :=
  { sha256Hex := library.sha256Hex
    isPrintable := library.isPrintable }

/-- The claims that the knowledge of a slice holds, or the matrix that the
comparator built. -/
structure CardAnswer where
  claims : List RatedClaim := []
  matrix : RatedMatrix :=
    { competitors := []
      dimensions := [] }
  fallbackUsed : Bool := false

inductive CardEvent where
  | node (answer : Answer) (found : List RawSource) (updatedAt : Nat)
      (agent : CardAnswer)
  | redo (scope : RedoScope)

/-- The slice of a bundle. -/
def AnalystCardBundle.slice (bundle : AnalystCardBundle) : Branch :=
  { dimension := bundle.request.dimension
    competitor := bundle.request.competitor }

/-- What the comparator reads of a bundle. -/
def AnalystCardBundle.claimCardBundle (bundle : AnalystCardBundle) :
    ClaimCardBundle :=
  { competitor := bundle.request.competitor
    dimension := bundle.request.dimension
    cards := bundle.cards.map (·.card) }

/-- The bundles after `_emit_claim_card_bundle`. -/
def emitClaimCardBundle (claimCardBundles : List AnalystCardBundle)
    (bundle : AnalystCardBundle) : List AnalystCardBundle :=
  claimCardBundles.filter (·.slice ≠ bundle.slice) ++ [bundle]

def cardRequest (detail : RunDetail) (slice : Branch) : CardRequest :=
  { runId := detail.id
    competitor := slice.competitor
    dimension := slice.dimension
    producerStage := "analyst:" ++ slice.dimension ++ ":" ++ slice.competitor }

section Steps

variable [PyRuntime] (library : CardRunLibrary)

namespace CardRunLibrary

/-- The cards after a node that led to `next`. -/
def withCards (cardRun : CardRun) (answer : Answer) (agent : CardAnswer)
    (next : GraphRun) : CardRun :=
  match cardRun.run.position, answer with
  | .fanOut .analyst _, .branch slice _ =>
      match buildClaimCardBundle library.cardLibrary
          (cardRequest cardRun.run.record.detail slice) agent.claims
          ((sourcesForCompetitorDimension cardRun.run.record.detail
            slice.competitor slice.dimension).map library.rate) with
      -- the branch raises
      | none => { cardRun with run := cardRun.run.fail }
      | some bundle =>
          { cardRun with
            run := next
            claimCardBundles :=
              emitClaimCardBundle cardRun.claimCardBundles bundle }
  | .comparator, .worked _ =>
      { cardRun with
        run := next
        decisionCardBundle :=
          some (buildDecisionCardBundle library.sha256Hex
            cardRun.run.record.detail.id agent.fallbackUsed agent.matrix
            (cardRun.claimCardBundles.map (·.claimCardBundle))) }
  | _, _ => { cardRun with run := next }

/-- One event of a run with cards. -/
def cardStep (cardRun : CardRun) (event : CardEvent) : Option CardRun :=
  match event with
  | .node answer found updatedAt agent =>
      let written := answer.withSources
        (library.sourcesAfter cardRun.run found updatedAt)
      (graphStep cardRun.run written).map
        (library.withCards cardRun written agent)
  | .redo scope =>
      (library.sourceStep cardRun.run (.redo scope)).map fun next =>
        { cardRun with run := next }

end CardRunLibrary

/-- A new run has no cards. -/
def cardStart (record : RunRecord) (dimensions : List String) : CardRun :=
  { run := realAnalysisStart record dimensions }

end Steps

/-! ## Cards that keep their sources -/

def sourceIdsOf (detail : RunDetail) : List String :=
  detail.rawSources.map (·.id)

/-- A bundle of a slice of the plan whose cards cite sources of the run. -/
@[mk_iff]
structure KeepsSources (detail : RunDetail) (bundle : AnalystCardBundle) :
    Prop where
  planned : bundle.slice ∈ detail.plan.branches
  cited : ∀ card ∈ bundle.cards, ∀ id ∈ card.card.sourceIds,
    id ∈ sourceIdsOf detail

/-- The ids of the claim cards of a run. -/
def claimCardIdsOf (claimCardBundles : List AnalystCardBundle) :
    List String :=
  claimCardBundles.flatMap fun bundle => bundle.cards.map (·.card.id)

/-- The decision cards stand on claim cards and sources of the run. -/
def DecisionsStand (detail : RunDetail)
    (claimCardBundles : List AnalystCardBundle)
    (decisionCardBundle : Option DecisionCardBundle) : Prop :=
  ∀ bundle ∈ decisionCardBundle, ∀ card ∈ bundle.cards,
    StandsOn (claimCardIdsOf claimCardBundles) (sourceIdsOf detail) card

instance (detail : RunDetail) (bundle : AnalystCardBundle) :
    Decidable (KeepsSources detail bundle) :=
  decidable_of_iff' _ (keepsSources_iff detail bundle)

instance (detail : RunDetail) (claimCardBundles : List AnalystCardBundle)
    (decisionCardBundle : Option DecisionCardBundle) :
    Decidable (DecisionsStand detail claimCardBundles decisionCardBundle) :=
  inferInstanceAs (Decidable (∀ bundle ∈ decisionCardBundle,
    ∀ card ∈ bundle.cards, StandsOn (claimCardIdsOf claimCardBundles)
      (sourceIdsOf detail) card))

/-- What the comparator and the writer find when they are entered. -/
structure CardsSound (cardRun : CardRun) : Prop where
  comparator : cardRun.run.position = .comparator →
    (∀ bundle ∈ cardRun.claimCardBundles,
      KeepsSources cardRun.run.record.detail bundle) ∧
    (cardRun.claimCardBundles.map (·.slice)).Nodup
  writer : cardRun.run.position = .writer →
    DecisionsStand cardRun.run.record.detail cardRun.claimCardBundles
      cardRun.decisionCardBundle

/-! ## What keeps them -/

section Guard

variable [PyRuntime]

/-- The request a reviewer answers with. -/
def Answer.request? : Answer → Option HitlResumeRequest
  | .resume request => some request
  | _ => none

/-- What has to hold before a node. -/
@[mk_iff]
structure NodeKeepsCards (cardRun : CardRun) (answer : Answer) : Prop where
  /-- The analysts go to slices of the plan. -/
  planned : cardRun.run.position = .dispatch .analyst →
    ∀ slice ∈ cardRun.run.state.dispatched cardRun.run.plan,
      slice ∈ cardRun.run.plan.branches
  /-- The bundles of slices without an analyst keep their sources. -/
  leftOut : cardRun.run.position = .dispatch .analyst →
    ∀ bundle ∈ cardRun.claimCardBundles,
      bundle.slice ∉ cardRun.run.state.dispatched cardRun.run.plan →
        KeepsSources cardRun.run.record.detail bundle
  /-- So do the bundles that a redo of the comparator starts from, -/
  redone : cardRun.run.position = .redoRouter →
    cardRun.run.state.redoKind = some .comparator →
      ∀ bundle ∈ cardRun.claimCardBundles,
        KeepsSources cardRun.run.record.detail bundle
  /-- and the decision cards that a redo of the writer starts from. -/
  rewritten : cardRun.run.position = .redoRouter →
    cardRun.run.state.redoKind = some .writerOnly →
      DecisionsStand cardRun.run.record.detail cardRun.claimCardBundles
        cardRun.decisionCardBundle
  /-- A reviewer who sends the run back to the comparator leaves a plan with
  the slices of all bundles, and these keep their sources. -/
  reviewed : cardRun.run.position = .qaReview →
    ∀ request ∈ answer.request?,
      (finalDecision cardRun.run.resumed request).position = .comparator →
        ∀ bundle ∈ cardRun.claimCardBundles,
          KeepsSources
            (reviewedRecord cardRun.run.resumed.record request).detail bundle
  /-- Source ids have no white space around them. -/
  trimmed : cardRun.run.position = .comparator →
    TrimmedIds (sourceIdsOf cardRun.run.record.detail)

instance (ids : List String) : Decidable (TrimmedIds ids) :=
  inferInstanceAs (Decidable (∀ id ∈ ids, strip id = id ∧ id ≠ ""))

instance (cardRun : CardRun) (answer : Answer) :
    Decidable (NodeKeepsCards cardRun answer) :=
  decidable_of_iff' _ (nodeKeepsCards_iff cardRun answer)

def KeepsCards (cardRun : CardRun) (event : CardEvent) : Prop :=
  match event with
  | .node answer _ _ _ =>
      answer.isRaised = false → NodeKeepsCards cardRun answer
  | .redo _ => True

instance (cardRun : CardRun) (event : CardEvent) :
    Decidable (KeepsCards cardRun event) :=
  match event with
  | .node answer _ _ _ =>
      inferInstanceAs (Decidable
        (answer.isRaised = false → NodeKeepsCards cardRun answer))
  | .redo _ => isTrue trivial

end Guard

/-! ## Decisions that go straight to the comparator or the writer -/

section Decisions

variable [PyRuntime]

omit [PyRuntime] in
theorem reviewedRecord_rawSources (record : RunRecord)
    (request : HitlResumeRequest) :
    (reviewedRecord record request).detail.rawSources =
      record.detail.rawSources := by
  rw [reviewedRecord, applyReviewedDimensions_frame]

/-- A decision that leads to the comparator or the writer is to redo, and
keeps the sources and the reviewed plan. -/
theorem finalDecision_direct {run : GraphRun} {request : HitlResumeRequest}
    (direct : (finalDecision run request).position = .comparator ∨
      (finalDecision run request).position = .writer) :
    request.decision = .redo ∧
      (finalDecision run request).record.detail.rawSources =
        run.record.detail.rawSources ∧
      (finalDecision run request).record.detail.plan =
        (reviewedRecord run.record request).detail.plan := by
  unfold finalDecision at *
  cases decided : qaHitlNode run.record run.state request with
  | error _ => simp [decided, GraphRun.fail] at direct
  | ok outcome =>
      obtain ⟨record, state⟩ := outcome
      simp only [decided] at direct
      dsimp only
      obtain ⟨route, stepped, rfl⟩ := qaHitlNode_eq_ok decided
      by_cases isRedo : request.decision = .redo
      · refine ⟨isRedo, ?_⟩
        have reviewed := reviewedRecord_rawSources run.record request
        cases redo_preparesReviewed isRedo stepped with
        | noFindings findings => simp [finalQaRouteState] at direct
        | limitReached findings limit => simp [finalQaRouteState] at direct
        | @prepared primary others redo findings limit selected inputs =>
            by_cases spent : redo.detail.maxIterations ≤
                run.state.finalQaAttempts
            · simp [finalQaRouteState, spent] at direct
            · simp only [finalQaRouteState, spent, if_false] at direct
              unfold prepareRedoScopeInputs at inputs
              cases kind : (mergeRedoScopes primary others).kind with
              | comparator =>
                  simp only [kind] at inputs
                  cases inputs
                  exact ⟨reviewed, rfl⟩
              | writerOnly =>
                  simp only [kind] at inputs
                  cases inputs
                  exact ⟨reviewed, rfl⟩
              | analyst => simp [kind, redoEntry] at direct
              | collector => simp [kind, redoEntry] at direct
              | full => simp [kind, redoEntry] at direct
      · obtain ⟨rfl, -⟩ := realQaHitlStep_other isRedo stepped
        simp [finalQaRouteState] at direct

end Decisions

/-! ## What holds at every position -/

/-- What the cards keep while the graph is at a position.  The bundles of the
slices that still have to run do not count; behind the comparator the decision
cards do. -/
def PlacedAt (detail : RunDetail) (claimCardBundles : List AnalystCardBundle)
    (decisionCardBundle : Option DecisionCardBundle) : Position → Prop
  | .fanOut .analyst pending =>
      (∀ slice ∈ pending, slice ∈ detail.plan.branches) ∧
        ∀ bundle ∈ claimCardBundles, bundle.slice ∉ pending →
          KeepsSources detail bundle
  | .join .analyst => ∀ bundle ∈ claimCardBundles, KeepsSources detail bundle
  | .phaseQa .analyst =>
      ∀ bundle ∈ claimCardBundles, KeepsSources detail bundle
  | .comparator => ∀ bundle ∈ claimCardBundles, KeepsSources detail bundle
  | .reflector => DecisionsStand detail claimCardBundles decisionCardBundle
  | .writer => DecisionsStand detail claimCardBundles decisionCardBundle
  | .qa => DecisionsStand detail claimCardBundles decisionCardBundle
  | .qaHitl => DecisionsStand detail claimCardBundles decisionCardBundle
  | .qaReview => DecisionsStand detail claimCardBundles decisionCardBundle
  | _ => True

/-- What every event keeps. -/
structure CardInvariant (cardRun : CardRun) : Prop where
  once : (cardRun.claimCardBundles.map (·.slice)).Nodup
  named : TrimmedIds (claimCardIdsOf cardRun.claimCardBundles)
  placed : PlacedAt cardRun.run.record.detail cardRun.claimCardBundles
    cardRun.decisionCardBundle cardRun.run.position

theorem KeepsSources.transfer {detail other : RunDetail}
    {bundle : AnalystCardBundle} (keeps : KeepsSources detail bundle)
    (sources : other.rawSources = detail.rawSources)
    (plan : other.plan = detail.plan) : KeepsSources other bundle := by
  obtain ⟨planned, cited⟩ := keeps
  unfold sourceIdsOf at cited
  rw [← plan] at planned
  rw [← sources] at cited
  exact
    { planned := planned
      cited := cited }

theorem DecisionsStand.transfer {detail other : RunDetail}
    {claimCardBundles : List AnalystCardBundle}
    {decisionCardBundle : Option DecisionCardBundle}
    (stand : DecisionsStand detail claimCardBundles decisionCardBundle)
    (sources : other.rawSources = detail.rawSources) :
    DecisionsStand other claimCardBundles decisionCardBundle := by
  unfold DecisionsStand sourceIdsOf at *
  rwa [sources]

/-! ## Nodes that leave the cards alone -/

section Nodes

variable [PyRuntime]

/-- A phase that passes its QA keeps the sources. -/
theorem phaseQaNode_passed {run : GraphRun} {phase : Phase}
    {findings : List QCIssue} {product : WorkProduct}
    (passed : phaseBlockers findings phase = []) :
    (phaseQaNode run phase findings product).record.detail.rawSources =
      product.rawSources := by
  simp [phaseQaNode, routePhaseQa, blockingPhaseIssues, passed,
    RunRecord.withFindings, RunRecord.withProduct]

omit [PyRuntime] in
theorem placedAt_redoEntry {detail : RunDetail}
    {claimCardBundles : List AnalystCardBundle}
    {decisionCardBundle : Option DecisionCardBundle} {kind : RedoKind}
    (comparator : kind = .comparator →
      ∀ bundle ∈ claimCardBundles, KeepsSources detail bundle)
    (writer : kind = .writerOnly →
      DecisionsStand detail claimCardBundles decisionCardBundle) :
    PlacedAt detail claimCardBundles decisionCardBundle (redoEntry kind) := by
  cases kind with
  | comparator => exact comparator rfl
  | writerOnly => exact writer rfl
  | analyst => trivial
  | collector => trivial
  | full => trivial

theorem finalDecision_position (run : GraphRun)
    (request : HitlResumeRequest) :
    (finalDecision run request).position = .finished ∨
      ∃ kind, (finalDecision run request).position = redoEntry kind := by
  unfold finalDecision
  split
  · exact .inl rfl
  · dsimp only
    split
    · exact .inl rfl
    · next kind _ => exact .inr ⟨kind, rfl⟩

/-- A final decision, judged on the plan that the reviewer left. -/
theorem finalDecision_placed {run : GraphRun} {request : HitlResumeRequest}
    {claimCardBundles : List AnalystCardBundle}
    {decisionCardBundle : Option DecisionCardBundle}
    (stand : DecisionsStand run.record.detail claimCardBundles
      decisionCardBundle)
    (comparator : (finalDecision run request).position = .comparator →
      ∀ bundle ∈ claimCardBundles,
        KeepsSources (reviewedRecord run.record request).detail bundle) :
    PlacedAt (finalDecision run request).record.detail claimCardBundles
      decisionCardBundle (finalDecision run request).position := by
  rcases finalDecision_position run request with ended | ⟨kind, entered⟩
  · rw [ended]
    trivial
  · rw [entered]
    apply placedAt_redoEntry
    · rintro rfl bundle member
      obtain ⟨-, sources, plan⟩ := finalDecision_direct (.inl entered)
      exact (comparator entered bundle member).transfer
        (sources.trans (reviewedRecord_rawSources run.record request).symm)
        plan
    · rintro rfl
      obtain ⟨-, sources, -⟩ := finalDecision_direct (.inr entered)
      exact stand.transfer sources

/-- A node that writes no cards. -/
theorem graphStep_placed {cardRun : CardRun} {next : GraphRun}
    {answer : Answer} {rawSources : List RawSource}
    (placed : PlacedAt cardRun.run.record.detail cardRun.claimCardBundles
      cardRun.decisionCardBundle cardRun.run.position)
    (guarded : answer.isRaised = false → NodeKeepsCards cardRun answer)
    (stepped : graphStep cardRun.run answer = some next)
    (writes : answer.Writes rawSources)
    (elsewhere : ¬ WritesSources cardRun.run.position →
      rawSources = cardRun.run.record.detail.rawSources)
    (notAnalysing : ∀ pending,
      cardRun.run.position ≠ .fanOut .analyst pending)
    (notComparing : cardRun.run.position ≠ .comparator) :
    PlacedAt next.record.detail cardRun.claimCardBundles
      cardRun.decisionCardBundle next.position := by
  cases graphStep_cases stepped with
  | raised here => trivial
  | routed here =>
      apply placedAt_redoEntry
      · intro kind
        apply (guarded rfl).redone here
        cases known : cardRun.run.state.redoKind with
        | none =>
            rw [known] at kind
            cases kind
        | some other =>
            rw [known] at kind
            exact congrArg some kind
      · intro kind
        apply (guarded rfl).rewritten here
        cases known : cardRun.run.state.redoKind with
        | none =>
            rw [known] at kind
            cases kind
        | some other =>
            rw [known] at kind
            exact congrArg some kind
  | planned discovered here => trivial
  | planPassed here => trivial
  | planSuspended here => trivial
  | planReviewed request here => trivial
  | dispatched phase here =>
      unfold GraphRun.dispatched
      dsimp only
      cases phase with
      | collect =>
          split
          · trivial
          · trivial
      | analyst =>
          have planned := (guarded rfl).planned here
          have leftOut := (guarded rfl).leftOut here
          cases out : cardRun.run.state.dispatched cardRun.run.plan with
          | nil => trivial
          | cons first rest =>
              rw [out] at planned leftOut
              exact ⟨planned, leftOut⟩
  | @branchDone phase pending branch product here member =>
      cases phase with
      | analyst => exact (notAnalysing pending here).elim
      | collect =>
          unfold GraphRun.branchDone
          dsimp only
          split
          · trivial
          · trivial
  | worked product here work =>
      have written : product.rawSources = rawSources := writes
      cases work with
      | join phase =>
          cases phase with
          | collect => trivial
          | analyst =>
              rw [here] at placed elsewhere
              intro bundle member
              exact (placed bundle member).transfer
                (written.trans (elsewhere id)) rfl
      | survey => trivial
      | comparator => exact (notComparing here).elim
      | reflector =>
          rw [here] at placed elsewhere
          exact DecisionsStand.transfer placed (written.trans (elsewhere id))
  | phaseJudged phase findings product here =>
      have written : product.rawSources = rawSources := writes
      cases phase with
      | collect =>
          rw [phaseQaNode_position]
          split
          · trivial
          · split
            · trivial
            · trivial
      | analyst =>
          rw [phaseQaNode_position]
          split
          · next passed =>
              rw [here] at placed elsewhere
              intro bundle member
              exact (placed bundle member).transfer
                ((phaseQaNode_passed passed).trans
                  (written.trans (elsewhere id)))
                (phaseQaNode_sameSettings cardRun.run .analyst findings
                  product).plan
          · split
            · trivial
            · trivial
  | written product failed here =>
      have same : product.rawSources = rawSources := writes
      rw [here] at placed elsewhere
      have kept : (cardRun.run.written product failed).record.detail.rawSources =
          cardRun.run.record.detail.rawSources := by
        unfold GraphRun.written
        dsimp only
        split
        all_goals exact same.trans (elsewhere id)
      have stand := DecisionsStand.transfer placed kept
      unfold GraphRun.written at *
      dsimp only at *
      generalize (if failed then
        (cardRun.run.record.withProduct product).withStatus .failed
        else cardRun.run.record.withProduct product) = record at *
      split
      · trivial
      · exact stand
  | judged findings product here =>
      have same : product.rawSources = rawSources := writes
      rw [here] at placed elsewhere
      exact DecisionsStand.transfer placed (same.trans (elsewhere id))
  | finalPassed here =>
      rw [here] at placed
      apply finalDecision_placed placed
      intro reached
      cases (finalDecision_direct (.inl reached)).1
  | finalSuspended here =>
      rw [here] at placed
      exact DecisionsStand.transfer placed rfl
  | finalReviewed request here =>
      have reviewed := (guarded rfl).reviewed here request rfl
      rw [here] at placed
      exact finalDecision_placed placed reviewed

end Nodes

/-! ## Nodes that write cards -/

section Writers

variable [PyRuntime] {library : CardRunLibrary}

omit [PyRuntime] in
theorem mem_claimCardIdsOf {claimCardBundles : List AnalystCardBundle}
    {id : String} : id ∈ claimCardIdsOf claimCardBundles ↔
      ∃ bundle ∈ claimCardBundles, ∃ card ∈ bundle.cards,
        card.card.id = id := by
  simp [claimCardIdsOf]

omit [PyRuntime] in
theorem mem_emitClaimCardBundle {claimCardBundles : List AnalystCardBundle}
    {bundle other : AnalystCardBundle} :
    other ∈ emitClaimCardBundle claimCardBundles bundle ↔
      (other ∈ claimCardBundles ∧ other.slice ≠ bundle.slice) ∨
        other = bundle := by
  simp [emitClaimCardBundle]

omit [PyRuntime] in
theorem emitClaimCardBundle_once {claimCardBundles : List AnalystCardBundle}
    (once : (claimCardBundles.map (·.slice)).Nodup)
    (bundle : AnalystCardBundle) :
    ((emitClaimCardBundle claimCardBundles bundle).map (·.slice)).Nodup := by
  unfold emitClaimCardBundle
  rw [List.map_append, List.map_singleton]
  apply List.nodup_append.mpr
  refine ⟨once.sublist (List.filter_sublist.map _), List.nodup_singleton _,
    ?_⟩
  intro slice member other isOther same
  obtain ⟨kept, isKept, rfl⟩ := List.mem_map.mp member
  rw [List.mem_singleton.mp isOther] at same
  have differs := (List.mem_filter.mp isKept).2
  simp [same] at differs

/-- A bundle that was built cites the sources of its slice. -/
theorem builtBundle_spec {detail : RunDetail} {slice : Branch}
    {claims : List RatedClaim} {bundle : AnalystCardBundle}
    (returned : buildClaimCardBundle library.cardLibrary
      (cardRequest detail slice) claims
        ((sourcesForCompetitorDimension detail slice.competitor
          slice.dimension).map library.rate) = some bundle) :
    bundle.slice = slice ∧
      (∀ card ∈ bundle.cards, ∀ id ∈ card.card.sourceIds,
        id ∈ sourceIdsOf detail) ∧
      ∀ card ∈ bundle.cards,
        strip card.card.id = card.card.id ∧ card.card.id ≠ "" := by
  obtain ⟨isRequest, cites⟩ := buildClaimCardBundle_citesOnly returned
  refine ⟨?_, ?_, ?_⟩
  · unfold AnalystCardBundle.slice
    rw [isRequest]
    rfl
  · intro card member id cited
    have known := (cites card member).cited id cited
    rw [List.map_map] at known
    obtain ⟨source, isSource, rfl⟩ := List.mem_map.mp known
    rw [Function.comp_apply, library.rate_raw]
    exact List.mem_map_of_mem (List.mem_of_mem_filter isSource)
  · intro card member
    obtain ⟨ordinal, text, named⟩ := (cites card member).named
    rw [named]
    exact claimCardId_trimmed library.digest_visible ordinal text

/-- A branch of the analysts has run. -/
theorem analystBranch_invariant {cardRun : CardRun} {next : GraphRun}
    {pending : List Branch} {answer : Answer} {agent : CardAnswer}
    (kept : CardInvariant cardRun)
    (analysing : cardRun.run.position = .fanOut .analyst pending)
    (stepped : graphStep cardRun.run answer = some next)
    (writes : answer.Writes cardRun.run.record.detail.rawSources) :
    CardInvariant (library.withCards cardRun answer agent next) := by
  obtain ⟨once, named, placed⟩ := kept
  unfold CardRunLibrary.withCards
  cases graphStep_cases stepped with
  | raised here =>
      simp only [analysing]
      exact
        { once := once
          named := named
          placed := trivial }
  | @branchDone phase others slice product here member =>
      rw [analysing] at here placed
      cases here
      simp only [analysing]
      split
      · exact
          { once := once
            named := named
            placed := trivial }
      · next bundle returned =>
          obtain ⟨isSlice, cited, trimmed⟩ := builtBundle_spec returned
          obtain ⟨planned, others⟩ := placed
          have sources : (cardRun.run.branchDone .analyst pending slice
              product).record.detail.rawSources =
                cardRun.run.record.detail.rawSources := writes
          constructor
          case once => exact emitClaimCardBundle_once once bundle
          case named =>
            intro id member
            obtain ⟨other, isOther, card, isCard, rfl⟩ :=
              mem_claimCardIdsOf.mp member
            rcases mem_emitClaimCardBundle.mp isOther with ⟨old, -⟩ | rfl
            · exact named _ (mem_claimCardIdsOf.mpr
                ⟨other, old, card, isCard, rfl⟩)
            · exact trimmed card isCard
          case placed =>
            have settled : ∀ other ∈ emitClaimCardBundle
                cardRun.claimCardBundles bundle,
                other.slice ∉ pending.erase slice →
                  KeepsSources (cardRun.run.branchDone .analyst pending slice
                    product).record.detail other := by
              intro other isOther done
              rcases mem_emitClaimCardBundle.mp isOther with
                ⟨old, differs⟩ | rfl
              · rw [isSlice] at differs
                have notPending : other.slice ∉ pending := by
                  intro waits
                  exact done ((List.mem_erase_of_ne differs).mpr waits)
                exact (others other old notPending).transfer sources rfl
              · have new : KeepsSources cardRun.run.record.detail other :=
                  { planned := by
                      rw [isSlice]
                      exact planned slice member
                    cited := cited }
                exact new.transfer sources rfl
            generalize later : pending.erase slice = rest at settled
            unfold GraphRun.branchDone at *
            dsimp only at *
            rw [later]
            cases rest with
            | nil =>
                intro other isOther
                exact settled other isOther (List.not_mem_nil)
            | cons first rest =>
                refine ⟨?_, settled⟩
                intro waiting isWaiting
                rw [← later] at isWaiting
                exact planned waiting (List.mem_of_mem_erase isWaiting)
  | worked product here work =>
      rw [analysing] at here
      subst here
      cases work
  | _ => simp_all

/-- The comparator has run. -/
theorem comparator_invariant {cardRun : CardRun} {next : GraphRun}
    {answer : Answer} {agent : CardAnswer} (kept : CardInvariant cardRun)
    (comparing : cardRun.run.position = .comparator)
    (trimmed : answer.isRaised = false →
      TrimmedIds (sourceIdsOf cardRun.run.record.detail))
    (stepped : graphStep cardRun.run answer = some next)
    (writes : answer.Writes cardRun.run.record.detail.rawSources) :
    CardInvariant (library.withCards cardRun answer agent next) := by
  obtain ⟨once, named, placed⟩ := kept
  unfold CardRunLibrary.withCards
  cases graphStep_cases stepped with
  | raised here =>
      simp only [comparing]
      exact
        { once := once
          named := named
          placed := trivial }
  | worked product here work =>
      rw [comparing] at here placed
      subst here
      cases work
      simp only [comparing]
      constructor
      case once => exact once
      case named => exact named
      case placed =>
        have stand : DecisionsStand cardRun.run.record.detail
            cardRun.claimCardBundles
            (some (buildDecisionCardBundle library.sha256Hex
              cardRun.run.record.detail.id agent.fallbackUsed agent.matrix
              (cardRun.claimCardBundles.map (·.claimCardBundle)))) := by
          intro bundle isBundle
          rw [← Option.mem_some_iff.mp isBundle]
          apply buildDecisionCardBundle_standsOn named (trimmed rfl)
          intro claim supported
          have isClaim := (List.mem_filter.mp supported).1
          rw [List.flatMap_map] at isClaim
          obtain ⟨other, isOther, inOther⟩ := List.mem_flatMap.mp isClaim
          obtain ⟨card, isCard, rfl⟩ := List.mem_map.mp inOther
          exact ⟨mem_claimCardIdsOf.mpr ⟨other, isOther, card, isCard, rfl⟩,
            (placed other isOther).cited card isCard⟩
        exact stand.transfer writes
  | _ => simp_all

end Writers

/-! ## Runs -/

section Runs

variable [PyRuntime] {library : CardRunLibrary}

omit [PyRuntime] in
theorem isRaised_withSources (answer : Answer) (rawSources : List RawSource) :
    (answer.withSources rawSources).isRaised = answer.isRaised := by
  cases answer <;> rfl

theorem nodeKeepsCards_withSources {cardRun : CardRun} {answer : Answer}
    (rawSources : List RawSource) (guarded : NodeKeepsCards cardRun answer) :
    NodeKeepsCards cardRun (answer.withSources rawSources) := by
  have sameRequest : (answer.withSources rawSources).request? =
      answer.request? := by
    cases answer <;> rfl
  rw [nodeKeepsCards_iff, sameRequest, ← nodeKeepsCards_iff]
  exact guarded

theorem withCards_elsewhere {cardRun : CardRun} {answer : Answer}
    {agent : CardAnswer} {next : GraphRun}
    (notAnalysing : ∀ pending,
      cardRun.run.position ≠ .fanOut .analyst pending)
    (notComparing : cardRun.run.position ≠ .comparator) :
    library.withCards cardRun answer agent next =
      { cardRun with run := next } := by
  unfold CardRunLibrary.withCards
  split
  · next pending _ _ here => exact (notAnalysing pending here).elim
  · next here => exact (notComparing here).elim
  · rfl

theorem cardStep_invariant {cardRun next : CardRun} {event : CardEvent}
    (kept : CardInvariant cardRun) (guarded : KeepsCards cardRun event)
    (stepped : library.cardStep cardRun event = some next) :
    CardInvariant next := by
  cases event with
  | redo scope =>
      obtain ⟨run, redone, rfl⟩ := Option.map_eq_some_iff.mp stepped
      have entered : run.position = .redoRouter := by
        unfold SourceLibrary.sourceStep at redone
        dsimp only at redone
        split at redone
        · split at redone
          · cases redone
          · cases redone
            rfl
        · cases redone
      constructor
      case once => exact kept.once
      case named => exact kept.named
      case placed =>
        dsimp only
        rw [entered]
        trivial
  | node answer found updatedAt agent =>
      obtain ⟨run, moved, rfl⟩ := Option.map_eq_some_iff.mp stepped
      have writes := Answer.withSources_writes answer
        (library.sourcesAfter cardRun.run found updatedAt)
      have elsewhere := @sourcesAfter_elsewhere _ library.toSourceLibrary
        cardRun.run found updatedAt
      have guard : (answer.withSources
          (library.sourcesAfter cardRun.run found updatedAt)).isRaised =
            false → NodeKeepsCards cardRun (answer.withSources
              (library.sourcesAfter cardRun.run found updatedAt)) := by
        intro notRaised
        rw [isRaised_withSources] at notRaised
        exact nodeKeepsCards_withSources _ (guarded notRaised)
      generalize answer.withSources
        (library.sourcesAfter cardRun.run found updatedAt) = written at *
      by_cases analysing : ∃ pending,
          cardRun.run.position = .fanOut .analyst pending
      · obtain ⟨pending, here⟩ := analysing
        rw [elsewhere (here ▸ id)] at writes
        exact analystBranch_invariant kept here moved writes
      · rw [not_exists] at analysing
        by_cases comparing : cardRun.run.position = .comparator
        · rw [elsewhere (comparing ▸ id)] at writes
          have trimmed : written.isRaised = false →
              TrimmedIds (sourceIdsOf cardRun.run.record.detail) := by
            intro notRaised
            exact (guard notRaised).trimmed comparing
          exact comparator_invariant kept comparing trimmed moved writes
        · have placed := graphStep_placed kept.placed guard moved writes
            elsewhere analysing comparing
          rw [withCards_elsewhere analysing comparing]
          exact
            { once := kept.once
              named := kept.named
              placed := placed }

end Runs

namespace CardSourcesExample

@[reducible] local instance cardSourcesRuntime : PyRuntime :=
  asciiRuntime

theorem numeral_visible (number : Nat) :
    ∀ char ∈ (toString number).toList, isSpace char = false := by
  intro char member
  cases digit : char.isDigit with
  | false => exact (notMem_numeral digit number member).elim
  | true =>
      have key : isKeyChar char = true := by
        simp [isKeyChar, digit]
      exact isSpace_of_isKeyChar key

/-- Digests are numbers here. -/
def library : CardRunLibrary :=
  { SourceIdsExample.library with
    isPrintable := fun _ => true
    rate := fun source =>
      { raw := source
        confidence := 1
        bounded := by decide }
    rate_raw := fun _ => rfl
    digest_visible := fun _ => numeral_visible _ }

def record : RunRecord :=
  { detail :=
      { id := "run-1"
        plan :=
          { competitors := ["Acme", "Bolt"]
            dimensions := ["features"] } } }

def acme : Branch :=
  { dimension := "features"
    competitor := "Acme" }

def bolt : Branch :=
  { dimension := "features"
    competitor := "Bolt" }

/-- A page about the features of both products. -/
def comparison : RawSource :=
  { id := "src-1"
    competitor := "Acme"
    coveredCompetitors := ["Acme", "Bolt"]
    dimension := "features"
    sourceType := "webpage_verified"
    title := "Acme or Bolt"
    url := some "https://compare.example"
    snippet := "Both sync notes."
    contentHash := "5d41402a" }

def syncClaim : RatedClaim :=
  { raw :=
      { claim := "Syncs notes."
        sourceIds := ["src-1"] }
    confidence := 1
    bounded := by decide }

def node (answer : Answer) : CardEvent :=
  .node answer [] 0 {}

def collected (slice : Branch) (found : List RawSource) : CardEvent :=
  .node (.branch slice {}) found 0 {}

def analysed (slice : Branch) : CardEvent :=
  .node (.branch slice {}) [] 0 { claims := [syncClaim] }

/-- A run up to its analysts, and on to its end. -/
def firstRun : List CardEvent :=
  [node (.planned []), node .proceed, node .proceed,
    collected acme [comparison], collected bolt [], node (.worked {}),
    node (.worked {}), node (.judged [] {}), node .proceed, analysed acme,
    analysed bolt, node (.worked {}), node (.judged [] {}),
    node (.worked {}), node (.worked {}), node (.written {} false),
    node (.judged [] {}), node .proceed]

/-- A redo of the pages about Acme, up to the comparator. -/
def acmeAgain : List CardEvent :=
  [.redo
      { kind := .collector
        targetSubagent := some "features"
        targetCompetitor := some "Acme" },
    node .proceed, node .proceed, collected acme [], node (.worked {}),
    node (.worked {}), node (.judged [] {}), node .proceed, analysed acme,
    node (.worked {}), node (.judged [] {})]

end CardSourcesExample

end CompetiScope
