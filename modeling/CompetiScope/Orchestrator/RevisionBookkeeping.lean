import CompetiScope.Foundation.Transition
import CompetiScope.Orchestrator.RevisionLog

/-!
# The log of revisions over whole runs

The pending slot holds one redo, so the revisions are the executed redos as
long as no second redo starts while the slot is full.  Finalisations that
start redos of their own use up the revision limit and so come to an end.
-/

namespace CompetiScope

open Foundation

/-- The revisions are numbered from 1, at most `maxIterations` many, and there
is one for each executed redo, with the report just before it. -/
structure LogSound (revisions : List RevisionRecord) (maxIterations : Nat)
    (executed : List String) : Prop where
  iterations :
    revisions.map (·.iteration) = List.range' 1 revisions.length
  bounded : revisions.length ≤ maxIterations
  records : revisions.map (·.beforeMd) = executed

def BookkeepingSound (run : RevisionRun) : Prop :=
  LogSound run.record.detail.revisions run.record.detail.maxIterations
    run.executed

/-- A pending redo that will be the next revision. -/
structure IsNext (pending : PendingGraphRedo) (detail : RunDetail) :
    Prop where
  iteration : pending.iteration = detail.revisions.length + 1
  withinLimit : detail.revisions.length < detail.maxIterations

/-- The slot and the redos in progress agree. -/
def SlotMatches (run : RevisionRun) : Prop :=
  match run.activity with
  | .idle => run.inProgress = []
  | .graph _ =>
      match run.record.pendingGraphRedo with
      | none => run.inProgress = [] ∧ run.state.finalQaAttempts = 0
      | some pending =>
          IsNext pending run.record.detail ∧
            run.inProgress = [pending.beforeMd]
  | .demoRedo pending =>
      run.record.pendingGraphRedo = none ∧
        IsNext pending run.record.detail ∧
        run.inProgress = [pending.beforeMd]

/-- No second redo starts while one is in the slot, and the demo graph of a
scoped redo is not interrupted. -/
def OneRedoPending (run : RevisionRun) : RevisionAction → Prop
  | .decide request =>
      request.decision = .redo → run.record.pendingGraphRedo = none
  | .requestRedo _ =>
      run.record.detail.executionMode = .demo →
        run.record.pendingGraphRedo = none
  | .interruptDemo => False
  | .work _ => True
  | .endGraph _ _ => True
  | .failGraph _ => True

instance decidableOneRedoPending (run : RevisionRun) :
    ∀ action, Decidable (OneRedoPending run action)
  | .decide request =>
      inferInstanceAs (Decidable (request.decision = .redo →
        run.record.pendingGraphRedo = none))
  | .requestRedo _ =>
      inferInstanceAs (Decidable (run.record.detail.executionMode = .demo →
        run.record.pendingGraphRedo = none))
  | .interruptDemo => isFalse id
  | .work _ => isTrue trivial
  | .endGraph _ _ => isTrue trivial
  | .failGraph _ => isTrue trivial

/-! ## What one step does to the log -/

@[simp] theorem recordPendingGraphRedo_slot (record : RunRecord) :
    (recordPendingGraphRedo record).pendingGraphRedo = none := by
  unfold recordPendingGraphRedo
  split
  · assumption
  · rfl

/-- How `runScopedRedo` can leave the run: it starts nothing, or a redo that
the demo graph keeps or the slot holds. -/
inductive StartsRedo (run next : RevisionRun) : Prop where
  | nothing (activity : next.activity = .idle)
      (inProgress : next.inProgress = run.inProgress)
  | demo (pending : PendingGraphRedo)
      (activity : next.activity = .demoRedo pending)
      (mode : run.record.detail.executionMode = .demo)
      (slot : next.record.pendingGraphRedo = run.record.pendingGraphRedo)
      (isNext : IsNext pending next.record.detail)
      (inProgress : next.inProgress = [pending.beforeMd])
  | scopedRedo (pending : PendingGraphRedo)
      (activity : next.activity = .graph .scopedRedo)
      (slot : next.record.pendingGraphRedo = some pending)
      (isNext : IsNext pending next.record.detail)
      (inProgress : next.inProgress = [pending.beforeMd])

/-- The part of a run that only finalisations change. -/
structure SameLog (run next : RevisionRun) : Prop where
  revisions : next.record.detail.revisions = run.record.detail.revisions
  maxIterations :
    next.record.detail.maxIterations = run.record.detail.maxIterations
  executed : next.executed = run.executed

theorem SameLog.bookkeepingSound {run next : RevisionRun}
    (same : SameLog run next) (sound : BookkeepingSound run) :
    BookkeepingSound next := by
  unfold BookkeepingSound
  rw [same.revisions, same.maxIterations, same.executed]
  exact sound

theorem StartsRedo.slotMatches {run next : RevisionRun}
    (starts : StartsRedo run next) (settled : run.inProgress = [])
    (empty : run.record.detail.executionMode = .demo →
      run.record.pendingGraphRedo = none) : SlotMatches next := by
  unfold SlotMatches
  cases starts with
  | nothing activity inProgress =>
      rw [activity]
      exact inProgress.trans settled
  | demo pending activity mode slot isNext inProgress =>
      rw [activity]
      exact ⟨slot.trans (empty mode), isNext, inProgress⟩
  | scopedRedo pending activity slot isNext inProgress =>
      simp only [activity, slot]
      exact ⟨isNext, inProgress⟩

/-- Recording the next redo extends the log by it. -/
theorem LogSound.append {revisions : List RevisionRecord}
    {maxIterations : Nat} {executed : List String}
    (sound : LogSound revisions maxIterations executed)
    {pending : PendingGraphRedo}
    (iteration : pending.iteration = revisions.length + 1)
    (within : revisions.length < maxIterations) (detail : RunDetail) :
    LogSound (revisions ++ [revisionOf pending detail]) maxIterations
      (executed ++ [pending.beforeMd]) := by
  constructor
  · rw [List.map_append, sound.iterations, List.length_append,
      List.length_singleton, List.range'_1_concat]
    simp [revisionOf, iteration, Nat.add_comm]
  · rw [List.length_append, List.length_singleton]
    omega
  · rw [List.map_append, sound.records]
    rfl

/-- At the end of a graph the slot accounts for the redo in progress. -/
theorem settle_sound {run : RevisionRun} {kind : GraphKind}
    (graph : run.activity = .graph kind) (sound : BookkeepingSound run)
    (matched : SlotMatches run) : BookkeepingSound (settle run) := by
  unfold SlotMatches at matched
  unfold BookkeepingSound settle recordPendingGraphRedo
  rw [graph] at matched
  cases slot : run.record.pendingGraphRedo with
  | none =>
      simp only [slot] at matched ⊢
      rw [matched.1, List.append_nil]
      exact sound
  | some pending =>
      simp only [slot] at matched ⊢
      obtain ⟨isNext, inProgress⟩ := matched
      rw [inProgress]
      exact LogSound.append sound isNext.iteration isNext.withinLimit _

theorem completeRun_sameLog (run : RevisionRun) (synced : RunDetail)
    (gateAllowed : Bool) :
    SameLog run (completeRun run synced gateAllowed) :=
  ⟨rfl, rfl, rfl⟩

theorem finalizeDemoRedo_sound {gateAllowed : Bool} {synced : RunDetail}
    {run : RevisionRun} {pending : PendingGraphRedo}
    (demo : run.activity = .demoRedo pending) (sound : BookkeepingSound run)
    (matched : SlotMatches run) :
    BookkeepingSound (finalizeDemoRedo pending synced gateAllowed run) ∧
      SlotMatches (finalizeDemoRedo pending synced gateAllowed run) := by
  unfold SlotMatches at matched
  rw [demo] at matched
  obtain ⟨slot, isNext, inProgress⟩ := matched
  refine ⟨?_, rfl⟩
  have nothingSettled : recordPendingGraphRedo run.record = run.record := by
    rw [recordPendingGraphRedo, slot]
  unfold BookkeepingSound finalizeDemoRedo completeRun settle
  rw [nothingSettled, inProgress]
  exact LogSound.append sound isNext.iteration isNext.withinLimit _

/-! ## The recursion of finalisations -/

def finalizations : RevisionAction → Nat
  | .endGraph _ _ => 1
  | _ => 0

/-- The revisions that may still be recorded. -/
def RunDetail.remainingRevisions (detail : RunDetail) : Nat :=
  detail.maxIterations - detail.revisions.length

/-- How many graphs may still end: the running one, and one for each revision
left; a redo that is noted already uses one of these up. -/
def redoRank (run : RevisionRun) : Nat :=
  match run.activity with
  | .idle => 0
  | .graph _ =>
      match run.record.pendingGraphRedo with
      | none => 1 + run.record.detail.remainingRevisions
      | some _ => max 1 run.record.detail.remainingRevisions
  | .demoRedo _ => max 1 run.record.detail.remainingRevisions

theorem SameLog.remainingRevisions {run next : RevisionRun}
    (same : SameLog run next) :
    next.record.detail.remainingRevisions =
      run.record.detail.remainingRevisions := by
  rw [RunDetail.remainingRevisions, same.revisions, same.maxIterations]
  rfl

theorem redoRank_le (run : RevisionRun) :
    redoRank run ≤ 1 + run.record.detail.maxIterations := by
  unfold redoRank RunDetail.remainingRevisions
  split
  · exact Nat.zero_le _
  · split <;> omega
  · omega

section

variable [PyRuntime]

theorem startScopedRedo_spec {run : RevisionRun}
    (within : run.record.detail.revisions.length <
      run.record.detail.maxIterations)
    (primary : QCIssue) (others : List QCIssue) (autoContinue : Bool) :
    SameLog run (startScopedRedo run primary others autoContinue) ∧
      StartsRedo run (startScopedRedo run primary others autoContinue) := by
  unfold startScopedRedo
  split
  · next mode =>
      refine ⟨⟨rfl, rfl, rfl⟩, ?_⟩
      exact .demo
        (pendingRedo run.record.detail primary others autoContinue) rfl mode
        rfl ⟨rfl, within⟩ rfl
  · split
    · exact ⟨⟨rfl, rfl, rfl⟩, .nothing rfl rfl⟩
    · next prepared inputs =>
        have same := prepareRedoScopeInputs_sameSettings inputs
        refine ⟨⟨same.revisions, same.maxIterations, rfl⟩, ?_⟩
        refine .scopedRedo
          (pendingRedo run.record.detail primary others autoContinue) rfl
          rfl ⟨?_, ?_⟩ rfl
        · simp only [same.revisions]
          rfl
        · simp only [same.revisions, same.maxIterations]
          exact within

theorem runScopedRedo_spec (run : RevisionRun)
    (preferredIssueIds : List String) (autoContinue : Bool) :
    SameLog run (runScopedRedo run preferredIssueIds autoContinue) ∧
      StartsRedo run (runScopedRedo run preferredIssueIds autoContinue) := by
  unfold runScopedRedo
  split
  · exact ⟨⟨rfl, rfl, rfl⟩, .nothing rfl rfl⟩
  · next limit =>
      split
      · exact ⟨⟨rfl, rfl, rfl⟩, .nothing rfl rfl⟩
      · split
        · exact ⟨⟨rfl, rfl, rfl⟩, .nothing rfl rfl⟩
        · refine startScopedRedo_spec ?_ _ _ autoContinue
          simpa [RunDetail.redoLimitReached] using limit

theorem finalizeGraph_sound {autoRedoEnabled gateAllowed : Bool}
    {kind : GraphKind} {synced : RunDetail} {run : RevisionRun}
    (graph : run.activity = .graph kind) (sound : BookkeepingSound run)
    (matched : SlotMatches run) :
    BookkeepingSound
        (finalizeGraph autoRedoEnabled kind synced gateAllowed run) ∧
      SlotMatches
        (finalizeGraph autoRedoEnabled kind synced gateAllowed run) := by
  have settled := settle_sound graph sound matched
  have completed : BookkeepingSound
      (completeRun (settle run) synced gateAllowed) :=
    (completeRun_sameLog _ synced gateAllowed).bookkeepingSound settled
  have continued : ∀ before : RevisionRun, BookkeepingSound before →
      before.inProgress = [] → before.record.pendingGraphRedo = none →
        BookkeepingSound (runScopedRedo before [] true) ∧
          SlotMatches (runScopedRedo before [] true) := by
    intro before soundBefore none slot
    obtain ⟨same, starts⟩ := runScopedRedo_spec before [] true
    exact ⟨same.bookkeepingSound soundBefore,
      starts.slotMatches none fun _ => slot⟩
  have slot : (settle run).record.pendingGraphRedo = none :=
    recordPendingGraphRedo_slot run.record
  unfold finalizeGraph finishRun
  split
  · exact continued _ settled rfl slot
  · split
    · exact continued _ completed rfl slot
    · exact ⟨completed, rfl⟩

/-- A decision to redo is refused, or notes the next redo and is followed by a
graph that has not used any of its attempts. -/
theorem decidedRedo_cases {record next : RunRecord} {state : GraphState}
    {route : Option RedoRoute} {request : HitlResumeRequest}
    (decided : request.decision = .redo)
    (stepped : realQaHitlStep record request = .ok (next, route))
    (attempts : state.finalQaAttempts = 0) :
    (route = none ∧ next.pendingGraphRedo = record.pendingGraphRedo) ∨
      ∃ pending, next.pendingGraphRedo = some pending ∧
        IsNext pending next.detail ∧
        pending.beforeMd = record.detail.reportMd ∧
        (finalQaRouteState state next.detail.maxIterations
          route).redoKind.isSome = true := by
  have reviewed := reviewedRecord_sameBookkeeping record request
  cases redo_preparesReviewed decided stepped with
  | noFindings findings => exact .inl ⟨rfl, reviewed.pendingGraphRedo⟩
  | limitReached findings limit =>
      exact .inl ⟨rfl, reviewed.pendingGraphRedo⟩
  | @prepared primary others redo findings limit selected inputs =>
      have same := prepareRedoScopeInputs_sameSettings inputs
      have within : redo.detail.revisions.length <
          redo.detail.maxIterations := by
        rw [same.revisions, same.maxIterations]
        simpa [RunDetail.redoLimitReached] using limit
      refine .inr ⟨pendingRedo (reviewedRecord record request).detail primary
        others false, rfl, ⟨?_, within⟩, reviewed.reportMd, ?_⟩
      · simp only [same.revisions]
        rfl
      · have followed : ¬ redo.detail.maxIterations ≤
            state.finalQaAttempts := by
          omega
        simp [finalQaRouteState, followed]

/-- A decision to redo with an empty slot fills it with the next redo. -/
theorem decideFinalQa_sound {run next : RevisionRun} {kind : GraphKind}
    {request : HitlResumeRequest} (graph : run.activity = .graph kind)
    (sound : BookkeepingSound run) (matched : SlotMatches run)
    (single : request.decision = .redo →
      run.record.pendingGraphRedo = none)
    (decided : decideFinalQa run request = some next) :
    BookkeepingSound next ∧ SlotMatches next := by
  unfold decideFinalQa at decided
  cases answered : qaHitlNode run.record run.state request with
  | error error => simp [answered] at decided
  | ok result =>
      obtain ⟨record, state⟩ := result
      obtain ⟨route, stepped, rfl⟩ := qaHitlNode_eq_ok answered
      simp only [answered] at decided
      have log : record.detail.revisions = run.record.detail.revisions ∧
          record.detail.maxIterations = run.record.detail.maxIterations :=
        realQaHitlStep_log stepped
      have soundRecord : ∀ next : RevisionRun, next.record = record →
          next.executed = run.executed → BookkeepingSound next := by
        intro next sameRecord sameExecuted
        unfold BookkeepingSound
        rw [sameRecord, sameExecuted, log.1, log.2]
        exact sound
      split at decided
      · cases decided
        exact ⟨soundRecord _ rfl rfl, rfl⟩
      · cases decided
        refine ⟨soundRecord _ rfl rfl, ?_⟩
        unfold SlotMatches at matched ⊢
        simp only [graph] at matched ⊢
        by_cases redo : request.decision = .redo
        · rw [single redo] at matched
          obtain ⟨none, attempts⟩ := matched
          rcases decidedRedo_cases redo stepped attempts with
            ⟨rfl, unchanged⟩ | ⟨pending, slot, isNext, before, followed⟩
          · rw [unchanged, single redo]
            exact ⟨none, attempts⟩
          · rw [slot, followed, none, ← before]
            exact ⟨isNext, rfl⟩
        · obtain ⟨rfl, same⟩ := realQaHitlStep_other redo stepped
          rw [same.pendingGraphRedo]
          cases slot : run.record.pendingGraphRedo with
          | none =>
              rw [slot] at matched
              exact matched
          | some pending =>
              rw [slot] at matched
              obtain ⟨isNext, inProgress⟩ := matched
              refine ⟨⟨?_, ?_⟩, inProgress⟩
              · rw [same.revisions]
                exact isNext.iteration
              · rw [same.revisions, same.maxIterations]
                exact isNext.withinLimit

theorem revisionStep_sound {autoRedoEnabled : Bool}
    {run next : RevisionRun} {action : RevisionAction}
    (sound : BookkeepingSound run) (matched : SlotMatches run)
    (single : OneRedoPending run action)
    (stepped : revisionStep autoRedoEnabled run action = some next) :
    BookkeepingSound next ∧ SlotMatches next := by
  cases action with
  | requestRedo preferredIssueIds =>
      cases idle : run.activity with
      | idle =>
          simp only [revisionStep, idle, Option.some.injEq] at stepped
          subst stepped
          obtain ⟨same, starts⟩ :=
            runScopedRedo_spec run preferredIssueIds false
          have none : run.inProgress = [] := by
            simpa [SlotMatches, idle] using matched
          exact ⟨same.bookkeepingSound sound,
            starts.slotMatches none single⟩
      | graph kind => simp [revisionStep, idle] at stepped
      | demoRedo pending => simp [revisionStep, idle] at stepped
  | work outputs =>
      cases running : run.activity with
      | idle => simp [revisionStep, running] at stepped
      | graph kind =>
          simp only [revisionStep, running, Option.some.injEq] at stepped
          subst stepped
          refine ⟨sound, ?_⟩
          simp only [SlotMatches, running] at matched ⊢
          cases slot : run.record.pendingGraphRedo with
          | none => simpa [slot] using matched
          | some pending =>
              simp only [slot] at matched ⊢
              exact ⟨⟨matched.1.iteration, matched.1.withinLimit⟩, matched.2⟩
      | demoRedo pending =>
          simp only [revisionStep, running, Option.some.injEq] at stepped
          subst stepped
          refine ⟨sound, ?_⟩
          simp only [SlotMatches, running] at matched ⊢
          obtain ⟨slot, isNext, inProgress⟩ := matched
          exact ⟨slot, ⟨isNext.iteration, isNext.withinLimit⟩, inProgress⟩
  | decide request =>
      cases running : run.activity with
      | idle => simp [revisionStep, running] at stepped
      | demoRedo pending => simp [revisionStep, running] at stepped
      | graph kind =>
          simp only [revisionStep, running] at stepped
          exact decideFinalQa_sound running sound matched single stepped
  | endGraph synced gateAllowed =>
      cases running : run.activity with
      | idle => simp [revisionStep, running] at stepped
      | graph kind =>
          simp only [revisionStep, running, Option.some.injEq] at stepped
          subst stepped
          exact finalizeGraph_sound running sound matched
      | demoRedo pending =>
          simp only [revisionStep, running, Option.some.injEq] at stepped
          subst stepped
          exact finalizeDemoRedo_sound running sound matched
  | failGraph leftover =>
      cases running : run.activity <;>
        simp only [revisionStep, running, Option.some.injEq,
          reduceCtorEq] at stepped <;>
        subst stepped <;>
        exact ⟨sound, rfl⟩
  | interruptDemo => exact single.elim

/-- A step that is not a command from outside. -/
def continuationStep (autoRedoEnabled : Bool) (run : RevisionRun) :
    RevisionAction → Option RevisionRun
  | .requestRedo _ => none
  | action => revisionStep autoRedoEnabled run action

theorem redoRank_runScopedRedo_le (run : RevisionRun)
    (preferredIssueIds : List String) (autoContinue : Bool) :
    redoRank (runScopedRedo run preferredIssueIds autoContinue) ≤
      run.record.detail.remainingRevisions := by
  obtain ⟨same, starts⟩ :=
    runScopedRedo_spec run preferredIssueIds autoContinue
  rw [← same.remainingRevisions]
  have left : ∀ {pending : PendingGraphRedo} {detail : RunDetail},
      IsNext pending detail → max 1 detail.remainingRevisions ≤
        detail.remainingRevisions := by
    intro pending detail isNext
    have within := isNext.withinLimit
    unfold RunDetail.remainingRevisions
    omega
  unfold redoRank
  cases starts with
  | nothing activity inProgress => simp [activity]
  | demo pending activity mode slot isNext inProgress =>
      rw [activity]
      exact left isNext
  | scopedRedo pending activity slot isNext inProgress =>
      simp only [activity, slot]
      exact left isNext

theorem redoRank_finalizeGraph {autoRedoEnabled gateAllowed : Bool}
    {kind : GraphKind} {synced : RunDetail} {run : RevisionRun}
    (graph : run.activity = .graph kind) :
    1 + redoRank
        (finalizeGraph autoRedoEnabled kind synced gateAllowed run) ≤
      redoRank run := by
  have continued :
      redoRank (finalizeGraph autoRedoEnabled kind synced gateAllowed run) ≤
        (settle run).record.detail.remainingRevisions := by
    have completed := completeRun_sameLog (settle run) synced gateAllowed
    unfold finalizeGraph finishRun
    split
    · exact redoRank_runScopedRedo_le _ [] true
    · split
      · rw [← completed.remainingRevisions]
        exact redoRank_runScopedRedo_le _ [] true
      · exact Nat.zero_le _
  have paid : 1 + (settle run).record.detail.remainingRevisions ≤
      redoRank run := by
    unfold redoRank settle recordPendingGraphRedo RunDetail.remainingRevisions
    rw [graph]
    cases slot : run.record.pendingGraphRedo with
    | none => simp
    | some pending =>
        simp only [List.length_append, List.length_singleton]
        omega
  omega

theorem redoRank_decideFinalQa {run next : RevisionRun} {kind : GraphKind}
    {request : HitlResumeRequest} (graph : run.activity = .graph kind)
    (decided : decideFinalQa run request = some next) :
    redoRank next ≤ redoRank run := by
  unfold decideFinalQa at decided
  cases answered : qaHitlNode run.record run.state request with
  | error error => simp [answered] at decided
  | ok result =>
      obtain ⟨record, state⟩ := result
      obtain ⟨route, stepped, rfl⟩ := qaHitlNode_eq_ok answered
      simp only [answered] at decided
      have log := realQaHitlStep_log stepped
      have remaining : record.detail.remainingRevisions =
          run.record.detail.remainingRevisions := by
        simp [RunDetail.remainingRevisions, log.1, log.2]
      have staysFull : ∀ pending,
          run.record.pendingGraphRedo = some pending →
            record.pendingGraphRedo ≠ none := by
        intro pending full
        have reviewed := reviewedRecord_sameBookkeeping run.record request
        by_cases redo : request.decision = .redo
        · cases redo_preparesReviewed redo stepped with
          | noFindings findings => simp [reviewed.pendingGraphRedo, full]
          | limitReached findings limit =>
              simp [revisionLimitRecord, reviewed.pendingGraphRedo, full]
          | prepared findings limit selected inputs => simp
        · simp [(realQaHitlStep_other redo stepped).2.pendingGraphRedo, full]
      split at decided
      · cases decided
        exact Nat.zero_le _
      · cases decided
        unfold redoRank
        simp only [graph, remaining]
        cases before : run.record.pendingGraphRedo with
        | none =>
            cases after : record.pendingGraphRedo with
            | none => exact Nat.le_refl _
            | some pending =>
                simp only
                omega
        | some pending =>
            cases after : record.pendingGraphRedo with
            | none => exact (staysFull pending before after).elim
            | some other => exact Nat.le_refl _

/-- Every finalisation is paid for. -/
theorem continuationStep_redoRank {autoRedoEnabled : Bool}
    (run : RevisionRun) (action : RevisionAction) (next : RevisionRun)
    (stepped : continuationStep autoRedoEnabled run action = some next) :
    finalizations action + redoRank next ≤ redoRank run := by
  cases action with
  | requestRedo preferredIssueIds => simp [continuationStep] at stepped
  | work outputs =>
      simp only [continuationStep, revisionStep] at stepped
      split at stepped
      · cases stepped
      · cases stepped
        simp only [finalizations, Nat.zero_add]
        exact Nat.le_refl (redoRank run)
  | decide request =>
      simp only [continuationStep, revisionStep] at stepped
      split at stepped
      · next kind graph =>
          simp only [finalizations, Nat.zero_add]
          exact redoRank_decideFinalQa graph stepped
      · cases stepped
  | endGraph synced gateAllowed =>
      simp only [continuationStep, revisionStep] at stepped
      split at stepped
      · cases stepped
      · next kind graph =>
          cases stepped
          exact redoRank_finalizeGraph graph
      · next pending demo =>
          cases stepped
          have open' : 1 ≤ redoRank run := by
            simp [redoRank, demo]
          exact open'
  | failGraph leftover =>
      simp only [continuationStep, revisionStep] at stepped
      split at stepped
      · cases stepped
      · cases stepped
        exact Nat.zero_le _
  | interruptDemo =>
      simp only [continuationStep, revisionStep] at stepped
      split at stepped
      · next pending demo =>
          cases stepped
          simp only [finalizations, redoRank, demo, recordPendingGraphRedo,
            RunDetail.remainingRevisions, List.length_append,
            List.length_singleton]
          omega
      · cases stepped

end

/-! ## Two redos in one graph -/

section

local instance revisionExampleRuntime : PyRuntime := asciiRuntime

/-- The run as its writer leaves it, with one finding on the text. -/
def draftedRun (reportMd : String) : RunDetail :=
  { id := "run"
    plan :=
      { competitors := ["Acme"]
        dimensions := ["pricing"] }
    hitlEnabled := true
    reportMd := reportMd
    qaFindings :=
      [{ id := "Q1"
         severity := .warn
         detectedBy := .textQuality
         targetAgent := "writer"
         redoScope := { kind := .writerOnly } }] }

/-- One redo, decided by the reviewer and followed by the graph. -/
def oneRedo : List RevisionAction :=
  [.work (draftedRun "Draft 1"), .decide { decision := .redo },
    .work (draftedRun "Draft 2"), .decide { decision := .accept },
    .endGraph (draftedRun "Draft 2") true]

end

end CompetiScope
