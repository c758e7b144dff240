import CompetiScope.Orchestrator.HitlPhases

/-!
# Starts of a pipeline

No step of a single run makes its pipeline start more often than the tasks
that already wait for it.
-/

namespace CompetiScope

open Foundation

def RunTask.startsPipeline : RunTask → Bool
  | pipeline => true
  | activityPipeline => true
  | scopedRedo _ => false
  | resume _ => false

namespace ServedRun

/-- The starts of the pipeline that happened or are still to happen. -/
def pipelineClaims (run : ServedRun) : Nat :=
  run.history.pipelineStarts + run.tasks.countP (·.startsPipeline)

/-- The tasks and the pipeline starts are left alone. -/
structure SameClaims (before after : ServedRun) : Prop where
  tasks : after.tasks = before.tasks
  pipelineStarts :
    after.history.pipelineStarts = before.history.pipelineStarts

theorem SameClaims.trans {first second third : ServedRun}
    (left : SameClaims first second) (right : SameClaims second third) :
    SameClaims first third :=
  ⟨right.tasks.trans left.tasks,
    right.pipelineStarts.trans left.pipelineStarts⟩

theorem SameClaims.pipelineClaims_eq {before after : ServedRun}
    (same : SameClaims before after) :
    after.pipelineClaims = before.pipelineClaims := by
  rw [pipelineClaims, same.tasks, same.pipelineStarts]
  rfl

theorem repair_sameClaims (run : ServedRun) :
    SameClaims run run.repairInconsistentHitlStatus :=
  ⟨rfl, rfl⟩

theorem hydrate_sameClaims (run : ServedRun) :
    SameClaims run run.hydratePendingInterruptFromDetail := by
  refine (repair_sameClaims run).trans ?_
  unfold hydratePendingInterruptFromDetail
  dsimp only
  split
  · exact ⟨rfl, rfl⟩
  split <;> exact ⟨rfl, rfl⟩

theorem read_sameClaims (run : ServedRun) : SameClaims run run.read :=
  (repair_sameClaims run).trans (hydrate_sameClaims _)

theorem raiseInterrupt_sameClaims (run : ServedRun) (settings : RunSettings)
    (stage : HitlStage) :
    SameClaims run (run.raiseInterrupt settings stage) := by
  unfold raiseInterrupt
  split <;> exact ⟨rfl, rfl⟩

theorem hitlNode_sameClaims (run : ServedRun) (settings : RunSettings)
    (stage : HitlStage) (resumeValue : Option HitlResumeRequest) :
    SameClaims run (run.hitlNode settings stage resumeValue).1 := by
  have raised := raiseInterrupt_sameClaims (run.entering stage) settings stage
  have entered : SameClaims run (run.entering stage) := ⟨rfl, rfl⟩
  unfold hitlNode
  dsimp only
  split
  · exact entered
  split
  · exact entered.trans raised
  · exact (entered.trans raised).trans ⟨rfl, rfl⟩

theorem agentNode_sameClaims {run next : ServedRun} {index : Nat}
    {execution : Execution} {node : GraphNode} {outcome : NodeOutcome}
    (stepped : run.agentNode index execution node outcome = some next) :
    SameClaims run next := by
  unfold agentNode at stepped
  split at stepped
  · cases stepped
    exact ⟨rfl, rfl⟩
  · cases stepped

theorem reviewNode_sameClaims {run next : ServedRun} {settings : RunSettings}
    {index : Nat} {execution : Execution} {stage : HitlStage}
    {outcome : NodeOutcome}
    (stepped : run.reviewNode settings index execution stage outcome =
      some next) : SameClaims run next := by
  have visited :=
    hitlNode_sameClaims run settings stage execution.resumeValue
  unfold reviewNode at stepped
  split at stepped
  · next raised suspended =>
    cases stepped
    rw [suspended] at visited
    exact visited.trans ⟨rfl, rfl⟩
  · next decided request answered =>
    rw [answered] at visited
    split at stepped
    · cases stepped
      exact visited.trans ⟨rfl, rfl⟩
    · cases stepped

theorem failExecution_sameClaims (run : ServedRun) (index : Nat)
    (execution : Execution) :
    SameClaims run (run.failExecution index execution) := by
  unfold failExecution
  dsimp only
  split <;> exact ⟨rfl, rfl⟩

theorem resume_pipelineClaims (run : ServedRun) (request : HitlResumeRequest)
    (systemNote : Bool) :
    (run.resume request systemNote).pipelineClaims = run.pipelineClaims := by
  unfold resume
  split
  · unfold resumeWithoutInterrupt
    split
    · rfl
    split <;> rfl
  split
  · rfl
  split
  · rfl
  · simp [pipelineClaims, acceptResume, List.countP_append,
      RunTask.startsPipeline]

theorem resumeReview_pipelineClaims (run : ServedRun)
    (request : HitlResumeRequest) (systemNote : Bool) :
    (run.resumeReview request systemNote).pipelineClaims =
      run.pipelineClaims := by
  have seen := (read_sameClaims run).pipelineClaims_eq
  unfold resumeReview
  dsimp only
  split
  · exact seen
  split
  · exact seen
  · rw [resume_pipelineClaims, seen]

theorem timeout_pipelineClaims (run : ServedRun) (stage : HitlStage) :
    (run.autoAcceptAfterTimeout stage).pipelineClaims =
      run.pipelineClaims := by
  unfold autoAcceptAfterTimeout
  dsimp only
  split
  · rfl
  split
  · rfl
  split
  · rfl
  · rw [resume_pipelineClaims]
    rfl

section

variable [PyRuntime]

theorem startScopedRedo_sameClaims (run : ServedRun)
    (preferredIssueIds : List String) :
    SameClaims run (run.startScopedRedo preferredIssueIds) := by
  unfold startScopedRedo
  split
  · exact ⟨rfl, rfl⟩
  split
  · exact ⟨rfl, rfl⟩
  split
  · exact ⟨rfl, rfl⟩
  split
  · exact ⟨rfl, rfl⟩
  · unfold startRedoGraph
    split <;> exact ⟨rfl, rfl⟩

theorem finishExecution_sameClaims (run : ServedRun) (settings : RunSettings)
    (index : Nat) (execution : Execution) (synced : RunDetail)
    (gateAllowed autoRedo : Bool) :
    SameClaims run
      (run.finishExecution settings index execution synced gateAllowed
        autoRedo) := by
  unfold finishExecution
  dsimp only
  split
  · exact ⟨rfl, rfl⟩
  split
  · exact ⟨rfl, rfl⟩
  split
  · refine SameClaims.trans ?_ (startScopedRedo_sameClaims _ [])
    exact ⟨rfl, rfl⟩
  · exact ⟨rfl, rfl⟩

/-- A task that begins turns its claim into a start, or drops it. -/
theorem startTask_pipelineClaims {run next : ServedRun} {index : Nat}
    (stepped : run.startTask index = some next) :
    next.pipelineClaims ≤ run.pipelineClaims := by
  unfold startTask at stepped
  cases found : run.tasks[index]? with
  | none =>
      rw [found] at stepped
      cases stepped
  | some task =>
      obtain ⟨bound, at_index⟩ := List.getElem?_eq_some_iff.mp found
      have counted : run.tasks.countP (·.startsPipeline) =
          (run.tasks.eraseIdx index).countP (·.startsPipeline) +
            if task.startsPipeline then 1 else 0 := by
        rw [← (List.getElem_cons_eraseIdx_perm bound).countP_eq,
          List.countP_cons, at_index]
      rw [found] at stepped
      unfold pipelineClaims
      rw [counted]
      cases task with
      | pipeline =>
          cases stepped
          simp only [startPipeline, withStatus, RunTask.startsPipeline,
            if_true]
          omega
      | activityPipeline =>
          dsimp only at stepped
          split at stepped
          · cases stepped
            exact Nat.add_le_add_left (Nat.le_add_right _ _) _
          · cases stepped
            simp only [startPipeline, withStatus, RunTask.startsPipeline,
              if_true]
            omega
      | scopedRedo preferredIssueIds =>
          cases stepped
          have same := startScopedRedo_sameClaims
            { run with tasks := run.tasks.eraseIdx index } preferredIssueIds
          rw [same.tasks, same.pipelineStarts]
          exact Nat.le_refl _
      | resume request =>
          unfold resumeInterruptedGraph at stepped
          dsimp only at stepped
          split at stepped
          · cases stepped
          · cases stepped
            exact Nat.le_refl _

theorem runStep_pipelineClaims {run next : ServedRun}
    {settings : RunSettings} {action : RunAction}
    (stepped : runStep settings run action = some next) :
    next.pipelineClaims ≤ run.pipelineClaims := by
  unfold runStep at stepped
  cases action with
  | startTask index => exact startTask_pipelineClaims stepped
  | node index outcome =>
      dsimp only at stepped
      split at stepped
      · cases stepped
      split at stepped
      · cases stepped
      split at stepped
      · exact (agentNode_sameClaims stepped).pipelineClaims_eq.le
      · exact (reviewNode_sameClaims stepped).pipelineClaims_eq.le
  | raised index =>
      dsimp only at stepped
      split at stepped
      · cases stepped
      · cases stepped
        exact (failExecution_sameClaims run index _).pipelineClaims_eq.le
  | endGraph index synced gateAllowed autoRedo =>
      dsimp only at stepped
      split at stepped
      · cases stepped
      split at stepped
      · cases stepped
        exact (finishExecution_sameClaims run settings index _ synced
          gateAllowed autoRedo).pipelineClaims_eq.le
      · cases stepped
  | timeout stage =>
      dsimp only at stepped
      split at stepped
      · cases stepped
        exact (timeout_pipelineClaims run stage).le
      · cases stepped
  | read =>
      cases stepped
      exact (read_sameClaims run).pipelineClaims_eq.le
  | review request systemNote =>
      cases stepped
      exact (resumeReview_pipelineClaims run request systemNote).le

end

end ServedRun

end CompetiScope
