import CompetiScope.Orchestrator.HitlPhases

/-!
# Steps of a reviewed run

Every step of a run keeps the phases of a review, provided that no read
falls between the acceptance of a resume and the node after its checkpoint.
-/

namespace CompetiScope

open Foundation

namespace ServedRun

/-! ## Graph steps -/

theorem Reviewed.of_quiet {run next : ServedRun} (reviewed : run.Reviewed)
    (quiet : next.Quiet)
    (answers : next.history.answers = run.history.answers)
    (abandoned : next.history.abandoned = run.history.abandoned) :
    next.Reviewed :=
  { phase := .quiet quiet
    resumedOnce := by
      rw [answers]
      exact reviewed.resumedOnce
    noneAbandoned := abandoned.trans reviewed.noneAbandoned }

/-- A quiet run without coroutines of its own. -/
structure Idle (run : ServedRun) : Prop extends Quiet run where
  noTask : run.tasks = []
  noExecution : run.executions = []

/-- What a quiet run that executes a graph is made of. -/
structure Executing (run : ServedRun) (index : Nat) (execution : Execution) :
    Prop extends Quiet run where
  first : index = 0
  noTask : run.tasks = []
  only : run.executions = [execution]
  noResume : execution.resumeValue = none
  thread : run.activeThread = some execution.thread

theorem eq_singleton_of_getElem? {Item : Type*} {items : List Item}
    {index : Nat} {item : Item} (found : items[index]? = some item)
    (short : items.length ≤ 1) : index = 0 ∧ items = [item] := by
  match items, index with
  | [only], 0 =>
      cases found
      exact ⟨rfl, rfl⟩
  | _ :: _ :: _, _ => simp at short

theorem Quiet.executing {run : ServedRun} {index : Nat}
    {execution : Execution} (quiet : run.Quiet)
    (found : run.executions[index]? = some execution) :
    run.Executing index execution := by
  have single := quiet.single
  obtain ⟨first, only⟩ := eq_singleton_of_getElem? found (by omega)
  rw [only, List.length_singleton] at single
  have member : execution ∈ run.executions := by
    rw [only]
    exact List.mem_singleton_self execution
  exact
    { quiet with
      first := first
      noTask := List.eq_nil_of_length_eq_zero (by omega)
      only := only
      noResume := quiet.noResumeValue execution member
      thread := quiet.onThread execution member }

/-- Once its invocation is gone an executing run is idle. -/
theorem Executing.closed {run : ServedRun} {index : Nat}
    {execution : Execution} (executing : run.Executing index execution) :
    { run with executions := run.executions.eraseIdx index }.Idle := by
  have none_left : run.executions.eraseIdx index = [] := by
    rw [executing.only, executing.first]
    rfl
  refine
    { noInterrupt := executing.noInterrupt
      noTimeout := executing.noTimeout
      noCheckpoint := executing.noCheckpoint
      notInterrupted := executing.notInterrupted
      single := ?_
      noResumeTask := executing.noResumeTask
      noResumeValue := ?_
      onThread := ?_
      noTask := executing.noTask
      noExecution := none_left }
  all_goals
    dsimp only
    rw [none_left]
    simp [executing.noTask]

/-- A node that is no checkpoint, or a checkpoint passed, leaves the run
executing at its next node. -/
theorem Executing.advance {run next : ServedRun} {index : Nat}
    {execution moved : Execution} (executing : run.Executing index execution)
    (interrupts : next.pendingInterrupts = ∅)
    (timeouts : next.hitlTimeouts = [])
    (suspended : next.suspended = [])
    (status : next.detail.status ≠ .interrupted)
    (tasks : next.tasks = run.tasks)
    (executions : next.executions = run.executions.set index moved)
    (activeThread : next.activeThread = run.activeThread)
    (thread : moved.thread = execution.thread)
    (resumeValue : moved.resumeValue = none) : next.Quiet := by
  have only : next.executions = [moved] := by
    rw [executions, executing.only, executing.first]
    rfl
  have noTask : next.tasks = [] := tasks.trans executing.noTask
  refine
    { noInterrupt := interrupts
      noTimeout := timeouts
      noCheckpoint := suspended
      notInterrupted := status
      single := ?_
      noResumeTask := ?_
      noResumeValue := ?_
      onThread := ?_ }
  · rw [only, noTask]
    exact Nat.le_refl 1
  · rw [noTask]
    exact fun _ => List.not_mem_nil
  · rw [only]
    intro other member
    rw [List.mem_singleton.mp member]
    exact resumeValue
  · rw [only]
    intro other member
    rw [List.mem_singleton.mp member, activeThread, thread]
    exact executing.thread

theorem leaveNode_status_ne {run : ServedRun} {outcome : NodeOutcome}
    (running : run.detail.status ≠ .interrupted) :
    (run.leaveNode outcome).detail.status ≠ .interrupted := by
  unfold leaveNode
  dsimp only
  split
  · intro impossible
    cases impossible
  · exact running

theorem Reviewed.agentNode {run next : ServedRun} {index : Nat}
    {execution : Execution} {node : GraphNode} {outcome : NodeOutcome}
    (reviewed : run.Reviewed) (executing : run.Executing index execution)
    (stepped : run.agentNode index execution node outcome = some next) :
    next.Reviewed := by
  unfold ServedRun.agentNode at stepped
  split at stepped
  · cases stepped
    refine reviewed.of_quiet
      (executing.advance executing.noInterrupt executing.noTimeout
        executing.noCheckpoint ?_ rfl rfl rfl rfl executing.noResume) rfl rfl
    apply leaveNode_status_ne
    exact executing.notInterrupted
  · cases stepped

theorem applyReviewedDimensions_status (detail : RunDetail)
    (request : HitlResumeRequest) :
    (applyReviewedDimensions detail request).status = detail.status := by
  rw [applyReviewedDimensions_frame]

theorem mem_raiseInterrupt_hitlTimeouts {run : ServedRun}
    {settings : RunSettings} {stage other : HitlStage}
    (member : other ∈ (run.raiseInterrupt settings stage).hitlTimeouts) :
    other = stage ∨ other ∈ run.hitlTimeouts := by
  unfold ServedRun.raiseInterrupt at member
  split at member
  · exact .inr member
  dsimp only at member
  split at member
  · rcases List.mem_append.mp member with earlier | armed
    · exact .inr earlier
    · exact .inl (List.mem_singleton.mp armed)
  · exact .inr member

/-- The first visit of a checkpoint waits for a reviewer. -/
theorem Executing.raiseInterrupt {run : ServedRun} {index : Nat}
    {execution : Execution} (executing : run.Executing index execution)
    (enabled : run.detail.hitlEnabled = true) (settings : RunSettings)
    (stage : HitlStage) :
    { (run.entering stage).raiseInterrupt settings stage with
      executions := run.executions.eraseIdx index
      suspended := run.suspended ++ [(execution.thread, stage)] }.Waiting
        stage execution.thread := by
  have absent :
      ¬ ((run.entering stage).pendingInterrupts.get? stage).isSome = true := by
    rw [entering, executing.noInterrupt]
    exact Bool.false_ne_true
  have timeouts : ∀ other ∈
      ((run.entering stage).raiseInterrupt settings stage).hitlTimeouts,
      other = stage := by
    intro other member
    rcases mem_raiseInterrupt_hitlTimeouts member with armed | earlier
    · exact armed
    · rw [entering, executing.noTimeout] at earlier
      cases earlier
  unfold ServedRun.raiseInterrupt at timeouts ⊢
  rw [if_neg absent] at timeouts ⊢
  exact
    { hitlEnabled := enabled
      status := rfl
      currentNode := rfl
      interrupt :=
        congrArg (·.set stage (freshInterrupt stage)) executing.noInterrupt
      timeouts := timeouts
      onThread := congrArg (·.getD .main) executing.thread
      checkpoint :=
        congrArg (· ++ [(execution.thread, stage)]) executing.noCheckpoint
      noTask := executing.noTask
      noExecution := executing.closed.noExecution
      latest := rfl
      unanswered := Function.update_self stage 0 _ }

theorem raiseInterrupt_resumedOnce {run : ServedRun}
    (resumedOnce : ∀ stage, run.history.answers stage ≤ 1)
    (settings : RunSettings) (raised stage : HitlStage) :
    (run.raiseInterrupt settings raised).history.answers stage ≤ 1 := by
  unfold ServedRun.raiseInterrupt
  split
  · exact resumedOnce stage
  · by_cases same : stage = raised
    · subst same
      simp
    · simpa [same] using resumedOnce stage

theorem raiseInterrupt_abandoned (run : ServedRun) (settings : RunSettings)
    (stage : HitlStage) :
    (run.raiseInterrupt settings stage).history.abandoned =
      run.history.abandoned := by
  unfold ServedRun.raiseInterrupt
  split <;> rfl

/-- A checkpoint of an executing run is passed or waits for a reviewer. -/
theorem Reviewed.reviewNode {run next : ServedRun} {settings : RunSettings}
    {index : Nat} {execution : Execution} {stage : HitlStage}
    {outcome : NodeOutcome} (reviewed : run.Reviewed)
    (executing : run.Executing index execution)
    (stepped : run.reviewNode settings index execution stage outcome =
      some next) : next.Reviewed := by
  unfold ServedRun.reviewNode at stepped
  rw [executing.noResume] at stepped
  cases hitl : run.detail.hitlEnabled with
  | false =>
      rw [hitlNode_withoutHitl hitl] at stepped
      dsimp only at stepped
      split at stepped
      · cases stepped
        refine reviewed.of_quiet
          (executing.advance executing.noInterrupt executing.noTimeout
            executing.noCheckpoint ?_ rfl rfl rfl rfl rfl) rfl rfl
        apply leaveNode_status_ne
        exact executing.notInterrupted
      · cases stepped
  | true =>
      have absent : run.pendingInterrupts.get? stage = none := by
        rw [executing.noInterrupt]
        rfl
      rw [hitlNode_first hitl absent] at stepped
      cases stepped
      exact
        { phase := .waiting stage execution.thread
            (executing.raiseInterrupt hitl settings stage)
          resumedOnce :=
            @raiseInterrupt_resumedOnce (run.entering stage)
              reviewed.resumedOnce settings stage
          noneAbandoned :=
            (raiseInterrupt_abandoned _ settings stage).trans
              reviewed.noneAbandoned }

/-- The second visit of a checkpoint consumes the resume. -/
theorem Reviewed.reenterNode {run next : ServedRun} {settings : RunSettings}
    {stage : HitlStage} {thread : Thread} {request : HitlResumeRequest}
    {execution : Execution} {index : Nat} {outcome : NodeOutcome}
    (reviewed : run.Reviewed)
    (reentering : run.Reentering stage thread request)
    (found : run.executions[index]? = some execution)
    (stepped : run.reviewNode settings index execution stage outcome =
      some next) : next.Reviewed := by
  obtain ⟨pending, -, interrupt⟩ := reentering.interrupt
  have present : run.pendingInterrupts.get? stage = some pending := by
    rw [interrupt, singleInterrupt_get?, if_pos rfl]
  have noTask : run.tasks = [] := reentering.noTask
  have only := reentering.execution
  rw [only] at found
  obtain ⟨first, same⟩ := eq_singleton_of_getElem? found (Nat.le_refl 1)
  cases same
  subst first
  obtain ⟨answer, decided⟩ :=
    hitlNode_resumed reentering.hitlEnabled present settings request
  unfold ServedRun.reviewNode at stepped
  dsimp only at stepped
  rw [decided] at stepped
  dsimp only at stepped
  split at stepped
  · cases stepped
    refine reviewed.of_quiet ?_ rfl rfl
    refine
      { noInterrupt := ?_
        noTimeout := ?_
        noCheckpoint := reentering.noCheckpoint
        notInterrupted := ?_
        single := ?_
        noResumeTask := ?_
        noResumeValue := ?_
        onThread := ?_ }
    · change run.pendingInterrupts.erase stage = ∅
      rw [interrupt, singleInterrupt_erase]
    · exact congrArg (List.filter _) reentering.noTimeout
    · apply leaveNode_status_ne
      dsimp only [settleInterrupt]
      rw [applyReviewedDimensions_status]
      intro impossible
      exact absurd (reentering.status.symm.trans impossible) (by decide)
    · dsimp only
      rw [List.length_set, only]
      exact (congrArg (·.length + 1) reentering.noTask).le
    · intro other
      exact noTask ▸ List.not_mem_nil
    · dsimp only
      rw [only]
      intro other member
      cases List.mem_singleton.mp member
      rfl
    · dsimp only
      rw [only]
      intro other member
      cases List.mem_singleton.mp member
      exact reentering.onThread
  · cases stepped

/-! ## Beginnings and ends of graph invocations -/

theorem Idle.eraseTask {run : ServedRun} {index : Nat} {task : RunTask}
    (quiet : run.Quiet) (found : run.tasks[index]? = some task) :
    { run with tasks := run.tasks.eraseIdx index }.Idle := by
  have single := quiet.single
  obtain ⟨first, only⟩ := eq_singleton_of_getElem? found (by omega)
  rw [only, List.length_singleton] at single
  have noExecution : run.executions = [] :=
    List.eq_nil_of_length_eq_zero (by omega)
  have noTask : run.tasks.eraseIdx index = [] := by
    rw [only, first]
    rfl
  refine
    { noInterrupt := quiet.noInterrupt
      noTimeout := quiet.noTimeout
      noCheckpoint := quiet.noCheckpoint
      notInterrupted := quiet.notInterrupted
      single := ?_
      noResumeTask := ?_
      noResumeValue := quiet.noResumeValue
      onThread := quiet.onThread
      noTask := noTask
      noExecution := noExecution }
  · dsimp only
    rw [noTask, noExecution]
    exact Nat.zero_le 1
  · dsimp only
    rw [noTask]
    exact fun _ => List.not_mem_nil

/-- An idle run may be rewritten in its detail and its history. -/
theorem Idle.rewrite {run next : ServedRun} (idle : run.Idle)
    (interrupts : next.pendingInterrupts = run.pendingInterrupts)
    (timeouts : next.hitlTimeouts = run.hitlTimeouts)
    (suspended : next.suspended = run.suspended)
    (status : next.detail.status ≠ .interrupted)
    (tasks : next.tasks = run.tasks)
    (executions : next.executions = run.executions) : next.Idle := by
  have noTask := tasks.trans idle.noTask
  have noExecution := executions.trans idle.noExecution
  refine
    { noInterrupt := interrupts.trans idle.noInterrupt
      noTimeout := timeouts.trans idle.noTimeout
      noCheckpoint := suspended.trans idle.noCheckpoint
      notInterrupted := status
      single := ?_
      noResumeTask := ?_
      noResumeValue := ?_
      onThread := ?_
      noTask := noTask
      noExecution := noExecution }
  all_goals simp [noTask, noExecution]

/-- A graph begins in an idle run. -/
theorem Idle.launch {run next : ServedRun} {execution : Execution}
    (idle : run.Idle)
    (interrupts : next.pendingInterrupts = run.pendingInterrupts)
    (timeouts : next.hitlTimeouts = run.hitlTimeouts)
    (suspended : next.suspended = run.suspended)
    (status : next.detail.status = .running)
    (tasks : next.tasks = run.tasks)
    (executions : next.executions = run.executions ++ [execution])
    (activeThread : next.activeThread = some execution.thread)
    (resumeValue : execution.resumeValue = none) : next.Quiet := by
  have noTask := tasks.trans idle.noTask
  rw [idle.noExecution, List.nil_append] at executions
  refine
    { noInterrupt := interrupts.trans idle.noInterrupt
      noTimeout := timeouts.trans idle.noTimeout
      noCheckpoint := suspended.trans idle.noCheckpoint
      notInterrupted := ?_
      single := ?_
      noResumeTask := ?_
      noResumeValue := ?_
      onThread := ?_ }
  · rw [status]
    intro impossible
    cases impossible
  · rw [noTask, executions]
    exact Nat.le_refl 1
  · rw [noTask]
    exact fun _ => List.not_mem_nil
  · rw [executions]
    intro other member
    rw [List.mem_singleton.mp member]
    exact resumeValue
  · rw [executions]
    intro other member
    rw [List.mem_singleton.mp member]
    exact activeThread

theorem Idle.closedAs {run : ServedRun} (idle : run.Idle)
    {status : RunStatus} (final : status ≠ .interrupted) :
    (run.closedAs status).Idle :=
  idle.rewrite rfl rfl rfl final rfl rfl

theorem Idle.startPipeline {run : ServedRun} (idle : run.Idle) :
    run.startPipeline.Quiet :=
  idle.launch rfl rfl rfl rfl rfl rfl rfl rfl

theorem Reviewed.failExecution {run : ServedRun} {index : Nat}
    {execution : Execution} (reviewed : run.Reviewed)
    (executing : run.Executing index execution) :
    (run.failExecution index execution).Reviewed := by
  have failed :=
    executing.closed.closedAs (by decide : RunStatus.failed ≠ .interrupted)
  unfold ServedRun.failExecution
  dsimp only
  split
  · exact reviewed.of_quiet
      { failed.toQuiet with
        noInterrupt := rfl
        noTimeout := rfl } rfl rfl
  · exact reviewed.of_quiet failed.toQuiet rfl rfl

/-- A resume that begins goes back to its checkpoint. -/
theorem Answered.resumeInterruptedGraph {run next : ServedRun}
    {stage : HitlStage} {thread : Thread} {request : HitlResumeRequest}
    (answered : run.Answered stage thread request)
    (stepped : { run with tasks := [] }.resumeInterruptedGraph request =
      some next) :
    next.Reentering stage thread request ∧ next.history = run.history := by
  unfold ServedRun.resumeInterruptedGraph at stepped
  dsimp only at stepped
  rw [answered.onThread, answered.checkpoint,
    List.find?_cons_of_pos (by simp)] at stepped
  cases stepped
  refine ⟨?_, rfl⟩
  exact
    { hitlEnabled := answered.hitlEnabled
      status := answered.status
      currentNode := answered.currentNode
      interrupt := answered.interrupt
      noTimeout := answered.noTimeout
      onThread := rfl
      noCheckpoint := List.erase_cons_head _ _
      noTask := rfl
      execution := congrArg (· ++ _) answered.noExecution }

/-- A resume that fails clears its review. -/
theorem Reentering.failExecution {run : ServedRun} {stage : HitlStage}
    {thread : Thread} {request : HitlResumeRequest} {index : Nat}
    {execution : Execution}
    (reentering : run.Reentering stage thread request)
    (resumes : execution.origin = .resume)
    (last : run.executions.eraseIdx index = []) :
    (run.failExecution index execution).Idle := by
  unfold ServedRun.failExecution
  rw [resumes]
  dsimp only
  rw [last]
  have noTask : (run.closedAs .failed).tasks = [] := reentering.noTask
  exact
    { noInterrupt := rfl
      noTimeout := rfl
      noCheckpoint := reentering.noCheckpoint
      notInterrupted := by
        intro impossible
        cases impossible
      single := by
        dsimp only
        rw [noTask]
        exact Nat.zero_le 1
      noResumeTask := by
        dsimp only
        rw [noTask]
        exact fun _ => List.not_mem_nil
      noResumeValue := fun _ impossible => by cases impossible
      onThread := fun _ impossible => by cases impossible
      noTask := noTask
      noExecution := rfl }

theorem Reviewed.raised {run : ServedRun} {index : Nat}
    {execution : Execution} (reviewed : run.Reviewed)
    (found : run.executions[index]? = some execution) :
    (run.failExecution index execution).Reviewed := by
  cases reviewed.phase with
  | quiet quiet => exact reviewed.failExecution (quiet.executing found)
  | waiting stage thread waiting =>
      simp [waiting.noExecution] at found
  | answered stage thread request answered =>
      simp [answered.noExecution] at found
  | reentering stage thread request reentering =>
      rw [reentering.execution] at found
      obtain ⟨first, same⟩ := eq_singleton_of_getElem? found (Nat.le_refl 1)
      cases same
      subst first
      refine reviewed.of_quiet (reentering.failExecution rfl ?_).toQuiet rfl rfl
      rw [reentering.execution]
      rfl

/-- The steps that read the run do so while no checkpoint is being left:
`running` with the current node `planner_hitl` or `qa_hitl` is the status
`_repair_inconsistent_hitl_status` takes back. -/
def SafeAction (run : ServedRun) : RunAction → Prop
  | .read => run.ReadsSafely
  | .review _ _ => run.ReadsSafely
  | _ => True

instance (run : ServedRun) : ∀ action, Decidable (run.SafeAction action)
  | .read => inferInstanceAs (Decidable run.ReadsSafely)
  | .review _ _ => inferInstanceAs (Decidable run.ReadsSafely)
  | .startTask _ => isTrue trivial
  | .node _ _ => isTrue trivial
  | .raised _ => isTrue trivial
  | .endGraph _ _ _ _ => isTrue trivial
  | .timeout _ => isTrue trivial

section

variable [PyRuntime]

theorem Idle.startRedoGraph {run : ServedRun} (idle : run.Idle)
    (scope : RedoScope) : (run.startRedoGraph scope).Quiet := by
  unfold ServedRun.startRedoGraph
  split
  · exact (idle.closedAs (by decide)).toQuiet
  · exact idle.launch rfl rfl rfl rfl rfl rfl rfl rfl

theorem Idle.startScopedRedo {run : ServedRun} (idle : run.Idle)
    (preferredIssueIds : List String) :
    (run.startScopedRedo preferredIssueIds).Quiet := by
  unfold ServedRun.startScopedRedo
  split
  · exact (idle.closedAs (by decide)).toQuiet
  split
  · exact idle.toQuiet
  split
  · exact idle.toQuiet
  split
  · exact idle.launch rfl rfl rfl rfl rfl rfl rfl rfl
  · exact idle.startRedoGraph _

theorem startScopedRedo_history (run : ServedRun)
    (preferredIssueIds : List String) :
    (run.startScopedRedo preferredIssueIds).history = run.history := by
  unfold startScopedRedo
  split
  · rfl
  split
  · rfl
  split
  · rfl
  split
  · rfl
  · unfold startRedoGraph
    split <;> rfl

theorem Reviewed.finishExecution {run : ServedRun} {index : Nat}
    {execution : Execution} (reviewed : run.Reviewed)
    (executing : run.Executing index execution) (settings : RunSettings)
    (synced : RunDetail) (gateAllowed autoRedo : Bool) :
    (run.finishExecution settings index execution synced gateAllowed
      autoRedo).Reviewed := by
  unfold ServedRun.finishExecution
  dsimp only
  split
  · exact reviewed.of_quiet executing.closed.toQuiet rfl rfl
  split
  · next interrupted => exact (executing.notInterrupted interrupted).elim
  have finalised : ServedRun.Idle
      { run with
        executions := run.executions.eraseIdx index
        detail := run.detail.withWork synced
        activeThread := none } :=
    executing.closed.rewrite rfl rfl rfl executing.notInterrupted rfl rfl
  split
  · refine reviewed.of_quiet (finalised.startScopedRedo []) ?_ ?_
    · rw [startScopedRedo_history]
    · rw [startScopedRedo_history]
  · refine reviewed.of_quiet (finalised.closedAs ?_).toQuiet rfl rfl
    cases gateAllowed <;> decide

theorem Reviewed.startQuietTask {run next : ServedRun} {index : Nat}
    (reviewed : run.Reviewed) (quiet : run.Quiet)
    (stepped : run.startTask index = some next) : next.Reviewed := by
  unfold ServedRun.startTask at stepped
  cases found : run.tasks[index]? with
  | none =>
      rw [found] at stepped
      cases stepped
  | some task =>
      have idle := Idle.eraseTask quiet found
      rw [found] at stepped
      cases task with
      | pipeline =>
          cases stepped
          exact reviewed.of_quiet idle.startPipeline rfl rfl
      | activityPipeline =>
          dsimp only at stepped
          split at stepped
          · cases stepped
            exact reviewed.of_quiet idle.toQuiet rfl rfl
          · cases stepped
            exact reviewed.of_quiet idle.startPipeline rfl rfl
      | scopedRedo preferredIssueIds =>
          cases stepped
          refine reviewed.of_quiet (idle.startScopedRedo preferredIssueIds)
            ?_ ?_
          · rw [startScopedRedo_history]
          · rw [startScopedRedo_history]
      | resume request =>
          exact (quiet.noResumeTask request
            (List.mem_of_getElem? found)).elim

theorem Reviewed.startTask {run next : ServedRun} {index : Nat}
    (reviewed : run.Reviewed) (stepped : run.startTask index = some next) :
    next.Reviewed := by
  cases reviewed.phase with
  | quiet quiet => exact reviewed.startQuietTask quiet stepped
  | waiting stage thread waiting =>
      simp [ServedRun.startTask, waiting.noTask] at stepped
  | answered stage thread request answered =>
      unfold ServedRun.startTask at stepped
      cases found : run.tasks[index]? with
      | none =>
          rw [found] at stepped
          cases stepped
      | some task =>
          have only := answered.task
          rw [only] at found
          obtain ⟨first, same⟩ :=
            eq_singleton_of_getElem? found (Nat.le_refl 1)
          cases same
          subst first
          rw [only] at stepped
          obtain ⟨reentering, history⟩ :=
            answered.resumeInterruptedGraph stepped
          exact
            { phase := .reentering stage thread request reentering
              resumedOnce := by
                rw [history]
                exact reviewed.resumedOnce
              noneAbandoned := by
                rw [history]
                exact reviewed.noneAbandoned }
  | reentering stage thread request reentering =>
      simp [ServedRun.startTask, reentering.noTask] at stepped

theorem Reviewed.node {run next : ServedRun} {settings : RunSettings}
    {index : Nat} {outcome : NodeOutcome} (reviewed : run.Reviewed)
    (stepped : runStep settings run (.node index outcome) = some next) :
    next.Reviewed := by
  unfold runStep at stepped
  dsimp only at stepped
  split at stepped
  · cases stepped
  next execution found =>
  split at stepped
  · cases stepped
  next node position =>
  cases reviewed.phase with
  | quiet quiet =>
      have executing := quiet.executing found
      split at stepped
      · exact reviewed.agentNode executing stepped
      · exact reviewed.reviewNode executing stepped
  | waiting stage thread waiting =>
      simp [waiting.noExecution] at found
  | answered stage thread request answered =>
      simp [answered.noExecution] at found
  | reentering stage thread request reentering =>
      have only := found
      rw [reentering.execution] at only
      obtain ⟨-, same⟩ := eq_singleton_of_getElem? only (Nat.le_refl 1)
      cases same
      cases position
      rw [HitlStage.node_stage?] at stepped
      exact reviewed.reenterNode reentering found stepped

theorem Reviewed.endGraph {run next : ServedRun} {settings : RunSettings}
    {index : Nat} {synced : RunDetail} {gateAllowed autoRedo : Bool}
    (reviewed : run.Reviewed)
    (stepped : runStep settings run
      (.endGraph index synced gateAllowed autoRedo) = some next) :
    next.Reviewed := by
  unfold runStep at stepped
  dsimp only at stepped
  split at stepped
  · cases stepped
  next execution found =>
  split at stepped
  · next ended =>
    cases stepped
    cases reviewed.phase with
    | quiet quiet =>
        exact reviewed.finishExecution (quiet.executing found) settings synced
          gateAllowed autoRedo
    | waiting stage thread waiting =>
        simp [waiting.noExecution] at found
    | answered stage thread request answered =>
        simp [answered.noExecution] at found
    | reentering stage thread request reentering =>
        rw [reentering.execution] at found
        obtain ⟨-, same⟩ := eq_singleton_of_getElem? found (Nat.le_refl 1)
        cases same
        cases ended
  · cases stepped

theorem Reviewed.step {run next : ServedRun} {settings : RunSettings}
    {action : RunAction} (reviewed : run.Reviewed)
    (safe : run.SafeAction action)
    (stepped : runStep settings run action = some next) : next.Reviewed := by
  cases action with
  | startTask index => exact reviewed.startTask stepped
  | node index outcome => exact reviewed.node stepped
  | raised index =>
      unfold runStep at stepped
      dsimp only at stepped
      split at stepped
      · cases stepped
      next execution found =>
      cases stepped
      exact reviewed.raised found
  | endGraph index synced gateAllowed autoRedo =>
      exact reviewed.endGraph stepped
  | timeout stage =>
      unfold runStep at stepped
      dsimp only at stepped
      split at stepped
      · next armed =>
        cases stepped
        exact reviewed.timeout armed
      · cases stepped
  | read =>
      cases stepped
      rw [reviewed.read_eq safe]
      exact reviewed
  | review request systemNote =>
      cases stepped
      exact reviewed.resumeReview safe request systemNote

end

end ServedRun

end CompetiScope
