import CompetiScope.Agents.ClearedOutputs
import CompetiScope.Agents.EvidenceAttribution
import CompetiScope.Agents.UserResearch
import CompetiScope.Foundation.Transition
import CompetiScope.Orchestrator.Graph

/-!
# Ids of the sources of a run

Collectors, the join, the survey agent and imports write the sources of a run;
retries and redos drop some of them.  The join tells sources apart by keys
that have no id, so ids repeat when a page comes back under another address or
title while the report holds on to the first one.
-/

namespace CompetiScope

open Foundation

/-- What the nodes that write sources take from elsewhere; the clusters are
those of the community claims of a source. -/
structure SourceLibrary extends ResearchLibrary where
  topic : String
  communityClusters : List RawSource → List String → String → Option Json

/-- What happens to a run.  A node reports what it found in searches and on
pages; an import and the projection behind it may rewrite other outputs. -/
inductive SourceEvent where
  | node (answer : Answer) (found : List RawSource) (updatedAt : Nat)
  | imported (materials : List RawSource) (product : WorkProduct)
      (findings : List QCIssue)
  | redo (scope : RedoScope)

/-- The answer with the sources its node leaves. -/
def Answer.withSources (answer : Answer) (rawSources : List RawSource) :
    Answer :=
  match answer with
  | .worked product => .worked { product with rawSources := rawSources }
  | .branch slice product =>
      .branch slice { product with rawSources := rawSources }
  | .judged findings product =>
      .judged findings { product with rawSources := rawSources }
  | .written product failed =>
      .written { product with rawSources := rawSources } failed
  | other => other

def Answer.isRaised : Answer → Bool
  | .raised => true
  | _ => false

/-- The loop of `import_user_research_materials`. -/
def addNewSources (rawSources : List RawSource) :
    List RawSource → List RawSource
  | [] => rawSources
  | material :: materials =>
      addNewSources
        (if material.id ∈ rawSources.map (·.id) then rawSources
        else rawSources ++ [material])
        materials

section Steps

variable [PyRuntime] (library : SourceLibrary)

namespace SourceLibrary

/-- `_annotate_community_claim_clusters`. -/
def annotateCommunityClaimClusters (dimensions : List String)
    (rawSources : List RawSource) : List RawSource :=
  rawSources.map fun source =>
    match library.communityClusters rawSources dimensions source.id with
    | none => source
    | some clusters =>
        { source with
          metadata :=
            source.metadata.set "community_claim_clusters" clusters }

/-- `_real_collect_join_step`: the sources it leaves, with those found by the
search over all competitors. -/
def collectJoin (detail : RunDetail) (dimensions : List String)
    (found : List RawSource) : List RawSource :=
  library.annotateCommunityClaimClusters dimensions
    (normalizeCollectedSources
      { detail with rawSources := detail.rawSources ++ found } dimensions)

/-- The sources a node leaves. -/
def sourcesAfter (run : GraphRun) (found : List RawSource)
    (updatedAt : Nat) : List RawSource :=
  match run.position with
  | .fanOut .collect _ => run.record.detail.rawSources ++ found
  | .join .collect =>
      library.collectJoin run.record.detail
        (joinState run.state run.plan .collect).dimensions found
  | .surveyInterview =>
      library.runSurveyInterviewEnrichment library.topic updatedAt
        run.record.detail (surveyState run.state run.plan).dimensions
        (surveyState run.state run.plan).targetCompetitors
  | _ => run.record.detail.rawSources

/-- One event of a run. -/
def sourceStep (run : GraphRun) (event : SourceEvent) : Option GraphRun :=
  match event with
  | .node answer found updatedAt =>
      graphStep run
        (answer.withSources (library.sourcesAfter run found updatedAt))
  | .imported materials product findings =>
      let rawSources := addNewSources run.record.detail.rawSources materials
      some
        { run with
          record :=
            (run.record.withProduct
              { product with rawSources := rawSources }).withFindings
                findings }
  | .redo scope =>
      if run.position = .finished then
        match prepareRedoScopeInputs run.record.detail scope with
        | .error _ => none
        | .ok redo => some (scopedRedoStart run.record scope.kind redo)
      else none

end SourceLibrary

end Steps

/-! ## Distinct ids -/

/-- Every id denotes one source of the run. -/
def DistinctIds (run : GraphRun) : Prop :=
  (run.record.detail.rawSources.map (·.id)).Nodup

/-- A node, or the projection at the end of a run, reads the sources. -/
def ReadsAt (run : GraphRun) : Prop :=
  match run.position with
  | .phaseQa _ => True
  | .fanOut .analyst _ => True
  | .comparator => True
  | .finished => run.record.detail.status ≠ .failed
  | _ => False

/-- The last event was an import, behind which the projection reads. -/
def JustImported (events : List SourceEvent) : Prop :=
  ∃ materials product findings,
    events.getLast? = some (.imported materials product findings)

/-! ## What keeps ids apart -/

/-- Collectors are at work, or the run failed and may have failed there. -/
def MayRepeat (run : GraphRun) : Prop :=
  match run.position with
  | .fanOut .collect _ => True
  | .join .collect => True
  | .finished => run.record.detail.status = .failed
  | _ => False

/-- Sources with one id are joined, and have one key. -/
def SameKeyIfSameId (plan : AnalysisPlan) (dimensions : List String)
    [PyRuntime] (first second : RawSource) : Prop :=
  first.id = second.id →
    outOfScope dimensions first = false ∧
      outOfScope dimensions second = false ∧
        collectedKey plan first = collectedKey plan second

section Guard

variable [PyRuntime]

/-- What has to hold before a node: before a join, sources with one id have
one key; before the survey agent, what it writes has new ids. -/
def SourceLibrary.NodeKeepsIdsApart (library : SourceLibrary)
    (run : GraphRun) (found : List RawSource) (updatedAt : Nat) : Prop :=
  match run.position with
  | .join .collect =>
      (run.record.detail.rawSources ++ found).Pairwise
        (SameKeyIfSameId run.plan
          (joinState run.state run.plan .collect).dimensions)
  | .surveyInterview =>
      SurveyIdsNew library.toResearchLibrary library.topic updatedAt
        run.record.detail
        (branchesOf
          ((surveyState run.state run.plan).dimensions.filter
            dimensionNeedsUserResearch)
          (surveyState run.state run.plan).targetCompetitors)
  | _ => True

/-- What has to hold before an event: before a node that does not raise, what
keeps its sources apart; before an import or a redo that comes while
collectors are at work, that ids are distinct. -/
def SourceLibrary.KeepsIdsApart (library : SourceLibrary) (run : GraphRun)
    (event : SourceEvent) : Prop :=
  match event with
  | .node answer found updatedAt =>
      answer.isRaised = false →
        library.NodeKeepsIdsApart run found updatedAt
  | .imported _ _ _ => MayRepeat run → DistinctIds run
  | .redo _ => MayRepeat run → DistinctIds run

end Guard

/-! ## Nodes that drop sources -/

/-- The ids of some sources are among those of others, in order. -/
def IdsWithin (rawSources others : List RawSource) : Prop :=
  (rawSources.map (·.id)).Sublist (others.map (·.id))

theorem IdsWithin.refl (rawSources : List RawSource) :
    IdsWithin rawSources rawSources :=
  List.Sublist.refl _

theorem IdsWithin.filter (keep : RawSource → Bool)
    (rawSources : List RawSource) :
    IdsWithin (rawSources.filter keep) rawSources :=
  List.filter_sublist.map _

section Dropped

variable [PyRuntime]

theorem clearDimensionFor_rawSources (targets : List String)
    (detail : RunDetail) (dimension : String) :
    (clearDimensionFor targets detail dimension).rawSources =
      detail.rawSources :=
  (clearDimensionFor_clears targets detail dimension).rawSources

theorem clearRetryOutputs_rawSources (dimensions targets : List String)
    (detail : RunDetail) :
    (clearRetryOutputs dimensions targets detail).rawSources =
      detail.rawSources := by
  unfold clearRetryOutputs
  induction dimensions generalizing detail with
  | nil => rfl
  | cons dimension dimensions induction =>
      rw [List.foldl_cons, induction, clearDimensionFor_rawSources]

theorem routePhaseQa_idsWithin (detail : RunDetail) (attempts : Nat)
    (phase : Phase) :
    IdsWithin (routePhaseQa detail attempts phase).1.rawSources
      detail.rawSources := by
  unfold routePhaseQa
  split
  · exact .refl _
  · split
    · exact .refl _
    · unfold preparePhaseRetry
      dsimp only
      rw [clearRetryOutputs_rawSources]
      cases phase with
      | collect => exact .filter _ _
      | analyst => exact .refl _

theorem retainedSources_idsWithin (dimension : String)
    (inScope preserved : List String) (rawSources : List RawSource) :
    IdsWithin (retainedSources dimension inScope preserved rawSources)
      rawSources := by
  have marked : (fun source : RawSource =>
      (if collectorRedoSelects dimension inScope source then
        markPreserved dimension inScope source else source).id) =
      fun source => source.id := by
    funext source
    split
    · rfl
    · rfl
  unfold IdsWithin retainedSources
  rw [List.map_map, Function.comp_def, marked]
  exact List.filter_sublist.map _

theorem clearForCollectorRedo_idsWithin (detail : RunDetail)
    (dimension : String) (inScope : List String) :
    IdsWithin
      (if inScope = [] then clearForWholeCollectorRedo detail dimension
        else clearForCollectorRedo detail dimension inScope).rawSources
      detail.rawSources := by
  split
  · have kept := (clearDimensionOutputs_clears
      (removeSourcesForCollectorRedo detail dimension []
        (reportCitedRawSourceIds detail.reportMd)).1 dimension).rawSources
    rw [clearForWholeCollectorRedo, kept]
    exact retainedSources_idsWithin dimension [] _ _
  · have kept : ∀ (competitors : List String) (middle : RunDetail),
        (competitors.foldl (fun detail competitor =>
          clearCompetitorDimensionOutput detail competitor dimension)
          middle).rawSources = middle.rawSources := by
      intro competitors middle
      induction competitors generalizing middle with
      | nil => rfl
      | cons competitor competitors induction =>
          rw [List.foldl_cons, induction]
          exact (clearCompetitorDimensionOutput_clears middle competitor
            dimension).rawSources
    rw [clearForCollectorRedo, kept]
    exact retainedSources_idsWithin dimension inScope _ _

theorem prepareRedoScopeInputs_idsWithin {detail : RunDetail}
    {scope : RedoScope} {redo : PreparedRedo}
    (prepared : prepareRedoScopeInputs detail scope = .ok redo) :
    IdsWithin redo.detail.rawSources detail.rawSources := by
  unfold prepareRedoScopeInputs at prepared
  cases kind : scope.kind with
  | analyst =>
      cases dimension : redoDimension detail scope with
      | none => simp [kind, dimension] at prepared
      | some dimension' =>
          simp only [kind, dimension] at prepared
          cases prepared
          have kept := clearDimensionFor_rawSources (scopedCompetitors scope)
            detail dimension'
          exact kept ▸ .refl _
  | collector =>
      cases dimension : redoDimension detail scope with
      | none => simp [kind, dimension] at prepared
      | some dimension' =>
          simp only [kind, dimension] at prepared
          cases prepared
          exact clearForCollectorRedo_idsWithin detail dimension' _
  | comparator =>
      simp only [kind] at prepared
      cases prepared
      exact .refl _
  | full =>
      simp only [kind] at prepared
      cases prepared
      exact List.nil_sublist _
  | writerOnly =>
      simp only [kind] at prepared
      cases prepared
      exact .refl _

/-- A final decision fails the run or drops sources at most. -/
theorem finalDecision_idsWithin (run : GraphRun)
    (request : HitlResumeRequest) :
    finalDecision run request = run.fail ∨
      IdsWithin (finalDecision run request).record.detail.rawSources
        run.record.detail.rawSources := by
  have reviewed : (reviewedRecord run.record request).detail.rawSources =
      run.record.detail.rawSources := by
    rw [reviewedRecord, applyReviewedDimensions_frame]
  unfold finalDecision
  cases decided : qaHitlNode run.record run.state request with
  | error _ => exact .inl rfl
  | ok outcome =>
      obtain ⟨record, state⟩ := outcome
      right
      dsimp only
      unfold qaHitlNode at decided
      cases stepped : realQaHitlStep run.record request with
      | error _ =>
          rw [stepped] at decided
          cases decided
      | ok result =>
          obtain ⟨acted, route⟩ := result
          rw [stepped] at decided
          cases decided
          unfold realQaHitlStep at stepped
          cases decision : request.decision with
          | redo =>
              simp only [decision] at stepped
              cases prepareGraphRedoFromQa_cases stepped with
              | noFindings => exact reviewed ▸ .refl _
              | limitReached => exact reviewed ▸ .refl _
              | prepared findings limit selected inputs =>
                  exact reviewed ▸ prepareRedoScopeInputs_idsWithin inputs
          | accept =>
              simp only [decision] at stepped
              cases stepped
              exact reviewed ▸ .refl _
          | modifyPlan =>
              simp only [decision] at stepped
              cases stepped
              exact reviewed ▸ .refl _
          | forcePass =>
              simp only [decision] at stepped
              cases stepped
              exact reviewed ▸ .refl _

end Dropped

/-! ## What a step leaves -/

/-- The products of an answer have these sources. -/
def Answer.Writes (rawSources : List RawSource) : Answer → Prop
  | .worked product => product.rawSources = rawSources
  | .branch _ product => product.rawSources = rawSources
  | .judged _ product => product.rawSources = rawSources
  | .written product _ => product.rawSources = rawSources
  | _ => True

theorem Answer.withSources_writes (answer : Answer)
    (rawSources : List RawSource) :
    (answer.withSources rawSources).Writes rawSources := by
  cases answer <;> first | exact rfl | trivial

/-- The nodes that write sources. -/
def WritesSources (position : Position) : Prop :=
  match position with
  | .fanOut .collect _ => True
  | .join .collect => True
  | .surveyInterview => True
  | _ => False

section Left

variable [PyRuntime]

/-- A step fails the run, or leaves some of the sources that its node wrote. -/
theorem graphStep_idsWithin {run next : GraphRun} {answer : Answer}
    {rawSources : List RawSource}
    (stepped : graphStep run answer = some next)
    (writes : answer.Writes rawSources)
    (elsewhere : ¬ WritesSources run.position →
      rawSources = run.record.detail.rawSources) :
    next = run.fail ∨
      IdsWithin next.record.detail.rawSources rawSources := by
  have unchanged : ∀ position, run.position = position →
      ¬ WritesSources position →
        IdsWithin run.record.detail.rawSources rawSources := by
    intro position here quiet
    rw [elsewhere (here ▸ quiet)]
    exact .refl _
  cases graphStep_cases stepped with
  | raised => exact .inl rfl
  | routed here => exact .inr (unchanged _ here id)
  | planned discovered here => exact .inr (unchanged _ here id)
  | planPassed here => exact .inr (unchanged _ here id)
  | planSuspended here => exact .inr (unchanged _ here id)
  | planReviewed request here => exact .inr (unchanged _ here id)
  | dispatched phase here => exact .inr (unchanged _ here id)
  | branchDone product here member =>
      right
      rw [← show product.rawSources = rawSources from writes]
      exact .refl _
  | worked product here work =>
      right
      rw [← show product.rawSources = rawSources from writes]
      exact .refl _
  | phaseJudged phase findings product here =>
      right
      rw [← show product.rawSources = rawSources from writes]
      exact routePhaseQa_idsWithin _ _ phase
  | written product failed here =>
      right
      rw [← show product.rawSources = rawSources from writes]
      unfold GraphRun.written
      dsimp only
      split <;> exact .refl _
  | judged findings product here =>
      right
      rw [← show product.rawSources = rawSources from writes]
      exact .refl _
  | finalPassed here =>
      rw [elsewhere (here ▸ id)]
      exact finalDecision_idsWithin run _
  | finalSuspended here => exact .inr (unchanged _ here id)
  | finalReviewed request here =>
      rw [elsewhere (here ▸ id)]
      exact finalDecision_idsWithin run.resumed request

/-- The collectors hand on to the next branch or to the join. -/
theorem graphStep_collecting {run next : GraphRun} {answer : Answer}
    {pending : List Branch} (collecting : run.position =
      .fanOut .collect pending)
    (stepped : graphStep run answer = some next) : MayRepeat next := by
  unfold graphStep at stepped
  cases answer with
  | raised =>
      dsimp only at stepped
      rw [collecting, if_neg nofun] at stepped
      cases stepped
      exact rfl
  | branch slice product =>
      dsimp only at stepped
      rw [collecting, GraphRun.node] at stepped
      split at stepped
      · cases stepped
        unfold MayRepeat GraphRun.branchDone
        dsimp only
        generalize pending.erase slice = later
        cases later with
        | nil => trivial
        | cons first rest => trivial
      · cases stepped
  | _ =>
      dsimp only at stepped
      rw [collecting] at stepped
      cases stepped

theorem graphStep_notFinished {run next : GraphRun} {answer : Answer}
    (stepped : graphStep run answer = some next) :
    run.position ≠ .finished := by
  intro finished
  unfold graphStep at stepped
  split at stepped
  · rw [if_pos finished] at stepped
    cases stepped
  · rw [finished] at stepped
    cases answer <;> cases stepped

end Left

/-! ## The join and the imports -/

section Written

variable [PyRuntime]

theorem afterJoin_id (plan : AnalysisPlan) (dimensions : List String)
    (source : RawSource) :
    (afterJoin plan dimensions source).id = source.id := by
  unfold afterJoin
  split
  · rfl
  · rfl

/-- Sources with one id are joined to one source. -/
theorem normalizeCollectedFrom_ids {plan : AnalysisPlan}
    {dimensions : List String} {sources : List RawSource}
    (apart : sources.Pairwise (SameKeyIfSameId plan dimensions))
    (seen : List (List String)) :
    ((normalizeCollectedFrom plan dimensions seen sources).map
      (·.id)).Nodup := by
  induction sources generalizing seen with
  | nil => exact List.nodup_nil
  | cons head sources induction =>
      obtain ⟨apartHere, apartLater⟩ := List.pairwise_cons.mp apart
      rw [normalizeCollectedFrom]
      split
      case isTrue outside =>
        rw [List.map_cons, List.nodup_cons]
        refine ⟨?_, induction apartLater seen⟩
        intro repeated
        obtain ⟨source, isKept, same⟩ := List.mem_map.mp repeated
        obtain ⟨original, isOriginal, rfl, -⟩ :=
          mem_normalizeCollectedFrom isKept
        rw [afterJoin_id] at same
        have inScope := (apartHere original isOriginal same.symm).1
        rw [inScope] at outside
        cases outside
      case isFalse inside =>
        split
        case isTrue => exact induction apartLater seen
        case isFalse unseen =>
          rw [List.map_cons, List.nodup_cons]
          refine ⟨?_, induction apartLater _⟩
          intro repeated
          obtain ⟨source, isKept, same⟩ := List.mem_map.mp repeated
          obtain ⟨original, isOriginal, rfl, isNew⟩ :=
            mem_normalizeCollectedFrom isKept
          rw [afterJoin_id] at same
          obtain ⟨_, inScope, sameKey⟩ :=
            apartHere original isOriginal same.symm
          exact isNew inScope (sameKey ▸ List.mem_cons_self)

theorem collectJoin_ids {library : SourceLibrary} {detail : RunDetail}
    {dimensions : List String} {found : List RawSource}
    (apart : (detail.rawSources ++ found).Pairwise
      (SameKeyIfSameId detail.plan dimensions)) :
    ((library.collectJoin detail dimensions found).map (·.id)).Nodup := by
  have annotated : ∀ rawSources : List RawSource,
      (library.annotateCommunityClaimClusters dimensions rawSources).map
        (·.id) = rawSources.map (·.id) := by
    intro rawSources
    unfold SourceLibrary.annotateCommunityClaimClusters
    rw [List.map_map]
    apply List.map_congr_left
    intro source _
    dsimp only [Function.comp_apply]
    split
    · rfl
    · rfl
  rw [SourceLibrary.collectJoin, annotated]
  exact normalizeCollectedFrom_ids apart []

omit [PyRuntime] in
theorem addNewSources_ids {rawSources : List RawSource}
    (apart : (rawSources.map (·.id)).Nodup) (materials : List RawSource) :
    ((addNewSources rawSources materials).map (·.id)).Nodup := by
  induction materials generalizing rawSources with
  | nil => exact apart
  | cons material materials induction =>
      rw [addNewSources]
      apply induction
      split
      · exact apart
      · next isNew =>
          rw [List.map_append, List.map_singleton]
          exact List.nodup_append.mpr ⟨apart, List.nodup_singleton _, by
            intro id present other written
            rw [List.mem_singleton.mp written]
            rintro rfl
            exact isNew present⟩

end Written

/-! ## Ids over a run -/

section Runs

variable [PyRuntime] {library : SourceLibrary}

/-- What every event keeps: ids are distinct unless collectors are at work, and
they are behind an import. -/
structure IdsKept (events : List SourceEvent) (run : GraphRun) : Prop where
  joined : ¬ MayRepeat run → DistinctIds run
  imported : JustImported events → DistinctIds run

omit [PyRuntime] in
theorem writesSources_iff {position : Position} :
    WritesSources position ↔
      (∃ pending, position = .fanOut .collect pending) ∨
        position = .join .collect ∨ position = .surveyInterview := by
  unfold WritesSources
  split <;> simp_all

theorem sourcesAfter_elsewhere {run : GraphRun} (found : List RawSource)
    (updatedAt : Nat) (elsewhere : ¬ WritesSources run.position) :
    library.sourcesAfter run found updatedAt =
      run.record.detail.rawSources := by
  rw [writesSources_iff, not_or, not_or] at elsewhere
  obtain ⟨notCollecting, notJoining, notSurveying⟩ := elsewhere
  unfold SourceLibrary.sourcesAfter
  split
  · next pending here => exact (notCollecting ⟨pending, here⟩).elim
  · next here => exact (notJoining here).elim
  · next here => exact (notSurveying here).elim
  · rfl

omit [PyRuntime] in
theorem not_mayRepeat {run : GraphRun}
    (elsewhere : ¬ WritesSources run.position)
    (working : run.position ≠ .finished) : ¬ MayRepeat run := by
  rw [writesSources_iff, not_or, not_or] at elsewhere
  obtain ⟨notCollecting, notJoining, _⟩ := elsewhere
  unfold MayRepeat
  split
  · next pending here => exact (notCollecting ⟨pending, here⟩).elim
  · next here => exact (notJoining here).elim
  · next here => exact (working here).elim
  · exact id

/-- A node leaves distinct ids when its guard holds. -/
theorem sourcesAfter_ids {run : GraphRun} {found : List RawSource}
    {updatedAt : Nat} (kept : ¬ MayRepeat run → DistinctIds run)
    (guarded : library.NodeKeepsIdsApart run found updatedAt)
    (working : run.position ≠ .finished)
    (notCollecting : ∀ pending, run.position ≠ .fanOut .collect pending) :
    ((library.sourcesAfter run found updatedAt).map (·.id)).Nodup := by
  unfold SourceLibrary.NodeKeepsIdsApart at guarded
  by_cases elsewhere : WritesSources run.position
  · rcases writesSources_iff.mp elsewhere with
      ⟨pending, collecting⟩ | joining | surveying
    · exact (notCollecting pending collecting).elim
    · rw [joining] at guarded
      unfold SourceLibrary.sourcesAfter
      rw [joining]
      exact collectJoin_ids guarded
    · have settled : ¬ MayRepeat run := by
        unfold MayRepeat
        rw [surveying]
        exact id
      rw [surveying] at guarded
      unfold SourceLibrary.sourcesAfter
      rw [surveying]
      exact runSurveyInterviewEnrichment_ids _ _ _ _ (kept settled) guarded
  · rw [sourcesAfter_elsewhere found updatedAt elsewhere]
    exact kept (not_mayRepeat elsewhere working)

theorem nodeEvent_idsKept {run next : GraphRun} {answer : Answer}
    {found : List RawSource} {updatedAt : Nat}
    (kept : ¬ MayRepeat run → DistinctIds run)
    (guarded : library.KeepsIdsApart run (.node answer found updatedAt))
    (stepped : graphStep run (answer.withSources
      (library.sourcesAfter run found updatedAt)) = some next)
    (settled : ¬ MayRepeat next) : DistinctIds next := by
  have working := graphStep_notFinished stepped
  have notFail : next ≠ run.fail := by
    rintro rfl
    exact settled rfl
  have notRaised : answer.isRaised = false := by
    rw [← Bool.not_eq_true]
    intro isRaised
    apply notFail
    cases answer with
    | raised =>
        have failed : graphStep run .raised = some next := stepped
        unfold graphStep at failed
        dsimp only at failed
        rw [if_neg working] at failed
        exact (Option.some.inj failed).symm
    | _ => cases isRaised
  have notCollecting : ∀ pending,
      run.position ≠ .fanOut .collect pending := by
    intro pending collecting
    exact settled (graphStep_collecting collecting stepped)
  have within := (graphStep_idsWithin stepped
    (Answer.withSources_writes answer _)
    (sourcesAfter_elsewhere found updatedAt)).resolve_left notFail
  exact (sourcesAfter_ids kept (guarded notRaised) working
    notCollecting).sublist within

theorem sourceStep_idsKept {past : List SourceEvent} {run next : GraphRun}
    {event : SourceEvent} (kept : IdsKept past run)
    (guarded : library.KeepsIdsApart run event)
    (stepped : library.sourceStep run event = some next) :
    IdsKept (past ++ [event]) next := by
  cases event with
  | node answer found updatedAt =>
      constructor
      case joined => exact nodeEvent_idsKept kept.joined guarded stepped
      case imported =>
        rintro ⟨materials, product, findings, last⟩
        rw [List.getLast?_concat] at last
        cases last
  | imported materials product findings =>
      have apart : DistinctIds run := by
        by_cases busy : MayRepeat run
        · exact guarded busy
        · exact kept.joined busy
      cases stepped
      have added := addNewSources_ids apart materials
      exact
        { joined := fun _ => added
          imported := fun _ => added }
  | redo scope =>
      have apart : DistinctIds run := by
        by_cases busy : MayRepeat run
        · exact guarded busy
        · exact kept.joined busy
      have prepared : DistinctIds next := by
        unfold SourceLibrary.sourceStep at stepped
        dsimp only at stepped
        split at stepped
        · split at stepped
          · cases stepped
          · next redo inputs =>
              cases stepped
              exact apart.sublist (prepareRedoScopeInputs_idsWithin inputs)
        · cases stepped
      exact
        { joined := fun _ => prepared
          imported := fun _ => prepared }

omit [PyRuntime] in
theorem not_mayRepeat_of_readsAt {run : GraphRun} (reads : ReadsAt run) :
    ¬ MayRepeat run := by
  unfold ReadsAt at reads
  unfold MayRepeat
  split at reads
  all_goals simp_all

end Runs

namespace SourceIdsExample

@[reducible] local instance sourceIdsRuntime : PyRuntime :=
  asciiRuntime

/-- A digest is a number here, and an address is cut at its query. -/
def library : SourceLibrary :=
  { sha256Hex := fun text =>
      toString (text.toList.foldl
        (fun number char => number * 257 + char.toNat) 0)
    lower := fun text => String.ofList (text.toList.map Char.toLower)
    lower_ascii := IdentityExample.library.lower_ascii
    normalizeUrl := fun url =>
      String.ofList ((url.getD "").toList.takeWhile (· ≠ '?'))
    redactResearchText := id
    sourceIsUsable := fun _ => true
    topic := "editors"
    communityClusters := fun _ _ _ => none }

def record : RunRecord :=
  { detail :=
      { id := "run-1"
        plan :=
          { competitors := ["Acme"]
            dimensions := ["pricing"] } } }

/-- A page under an address, with the id that a collector gives it. -/
def page (url : String) : RawSource :=
  let source : RawSource :=
    { id := ""
      competitor := "Acme"
      dimension := "pricing"
      sourceType := "webpage_verified"
      title := "Pricing"
      url := some url
      snippet := "Ten dollars."
      contentHash := "5d41402a" }
  { source with
    id := library.computeRawSourceId source "run-1" none }

/-! The id of a page is evaluated in steps. -/

/-- The parts of the id of a page that is cut at its query. -/
def idText : String :=
  "source|webpage_verified|acme|pricing|https://acme.example|5d41402a|"

def idNumber : Nat :=
  131195427460278229528820284207634185684445284083161403136677367696040900277227203912455421891146228227728223806198643428935272577691861943149296981894003804044787

theorem idNumber_of_text : idText.toList.foldl
    (fun number char => number * 257 + char.toNat) 0 = idNumber := by
  decide +kernel

theorem digits_of_idNumber : (Nat.toDigits 10 idNumber).take 20 =
    "13119542746027822952".toList := by
  decide +kernel

theorem digest_of_idText : (library.sha256Hex idText).toList.take 20 =
    "13119542746027822952".toList := by
  change (String.ofList (Nat.toDigits 10 _)).toList.take 20 = _
  rw [idNumber_of_text, String.toList_ofList, digits_of_idNumber]

/-- A page as it is read, with its id. -/
def pageAs (url id : String) : RawSource :=
  { id := id
    competitor := "Acme"
    dimension := "pricing"
    sourceType := "webpage_verified"
    title := "Pricing"
    url := some url
    snippet := "Ten dollars."
    contentHash := "5d41402a" }

def idParts (url : String) : List IdPart :=
  [.text "source", .text "webpage_verified",
    .text (library.normalizeText (some "Acme")),
    .text (library.normalizeDimensionKey (some "pricing")),
    .text (library.normalizeUrl (some url)), .text "5d41402a", .text ""]

theorem page_eq {url : String}
    (hashed : (page url).id =
      stablePrefixedId library.sha256Hex "raw-source" (idParts url) 20)
    (parts : String.intercalate "|" ((idParts url).map identityPart) =
      idText) :
    page url = pageAs url "raw-source-13119542746027822952" := by
  have literal : "raw-source" ++ "-" ++
      String.ofList "13119542746027822952".toList =
        "raw-source-13119542746027822952" := by
    decide +kernel
  have id : (page url).id = "raw-source-13119542746027822952" := by
    rw [hashed, stablePrefixedId, parts, digest_of_idText, literal]
  calc page url = pageAs url (page url).id := rfl
    _ = _ := by rw [id]

theorem page_plain : page "https://acme.example" =
    pageAs "https://acme.example" "raw-source-13119542746027822952" :=
  page_eq rfl (by decide +kernel)

theorem page_searched : page "https://acme.example?ref=search" =
    pageAs "https://acme.example?ref=search"
      "raw-source-13119542746027822952" :=
  page_eq rfl (by decide +kernel)

/-- The collectors find a page, and the join and the survey agent run. -/
def collected (url : String) : List SourceEvent :=
  [.node .proceed [] 0, .node (.branch ⟨"pricing", "Acme"⟩ {}) [page url] 0,
    .node (.worked {}) [] 0, .node (.worked {}) [] 0]

/-- A run up to the first node that reads sources. -/
def collectedOnce : List SourceEvent :=
  [.node (.planned []) [] 0, .node .proceed [] 0] ++
    collected "https://acme.example"

def reported : WorkProduct :=
  { reportMd := "Ten dollars. [source:" ++ (page "https://acme.example").id ++
      "]" }

/-- A run up to the report, which cites the page. -/
def reportedRun : List SourceEvent :=
  collectedOnce ++
    [.node (.judged [] {}) [] 0, .node .proceed [] 0,
      .node (.branch ⟨"pricing", "Acme"⟩ {}) [] 0, .node (.worked {}) [] 0,
      .node (.judged [] {}) [] 0, .node (.worked {}) [] 0,
      .node (.worked {}) [] 0, .node (.written reported false) [] 0,
      .node (.judged [] reported) [] 0, .node .proceed [] 0]

/-- The page is collected again, under an address with a query. -/
def collectedAgain : List SourceEvent :=
  reportedRun ++
    [.redo
        { kind := .collector
          targetSubagent := some "pricing" },
      .node .proceed [] 0] ++
    collected "https://acme.example?ref=search"

end SourceIdsExample

end CompetiScope
