import CompetiScope.Orchestrator.ServedRun

/-!
# Phases of a review

Status, current node, pending interrupts, timers and checkpoints of a run
move together through four phases.  This module has the phases, and what
reads, resumes and timers do in each.
-/

namespace CompetiScope

open Foundation

/-- The interrupts of a run with a single one. -/
def singleInterrupt (stage : HitlStage) (pending : PendingInterrupt) :
    Dict HitlStage PendingInterrupt :=
  (∅ : Dict HitlStage PendingInterrupt).set stage pending

@[simp] theorem singleInterrupt_entries (stage : HitlStage)
    (pending : PendingInterrupt) :
    (singleInterrupt stage pending).entries = [(stage, pending)] :=
  rfl

@[simp] theorem singleInterrupt_get? (stage other : HitlStage)
    (pending : PendingInterrupt) :
    (singleInterrupt stage pending).get? other =
      if other = stage then some pending else none := by
  rw [singleInterrupt, Dict.get?_set, Dict.get?_empty]

@[simp] theorem singleInterrupt_set (stage : HitlStage)
    (before after : PendingInterrupt) :
    (singleInterrupt stage before).set stage after =
      singleInterrupt stage after := by
  cases stage <;> rfl

@[simp] theorem singleInterrupt_erase (stage : HitlStage)
    (pending : PendingInterrupt) :
    (singleInterrupt stage pending).erase stage = ∅ := by
  cases stage <;> rfl

/-- The interrupt `_maybe_interrupt` records for a stage. -/
def freshInterrupt (stage : HitlStage) : PendingInterrupt :=
  { interruptNode := stage.node.name }

namespace ServedRun

/-- No review is going on, and at most one coroutine belongs to the run. -/
structure Quiet (run : ServedRun) : Prop where
  noInterrupt : run.pendingInterrupts = ∅
  noTimeout : run.hitlTimeouts = []
  noCheckpoint : run.suspended = []
  notInterrupted : run.detail.status ≠ .interrupted
  single : run.tasks.length + run.executions.length ≤ 1
  noResumeTask : ∀ request, .resume request ∉ run.tasks
  noResumeValue : ∀ execution ∈ run.executions,
    execution.resumeValue = none
  onThread : ∀ execution ∈ run.executions,
    run.activeThread = some execution.thread

/-- The run waits for a reviewer. -/
structure Waiting (run : ServedRun) (stage : HitlStage) (thread : Thread) :
    Prop where
  hitlEnabled : run.detail.hitlEnabled = true
  status : run.detail.status = .interrupted
  currentNode : run.detail.currentNode = some stage.node.name
  interrupt : run.pendingInterrupts =
    singleInterrupt stage (freshInterrupt stage)
  timeouts : ∀ other ∈ run.hitlTimeouts, other = stage
  onThread : run.activeThread.getD .main = thread
  checkpoint : run.suspended = [(thread, stage)]
  noTask : run.tasks = []
  noExecution : run.executions = []
  latest : run.history.latest = some stage
  unanswered : run.history.answers stage = 0

/-- A resume has been accepted and its checkpoint not been passed. -/
structure Resuming (run : ServedRun) (stage : HitlStage) : Prop where
  hitlEnabled : run.detail.hitlEnabled = true
  status : run.detail.status = .running
  currentNode : run.detail.currentNode = some stage.node.name
  interrupt : ∃ pending, pending.resumeInProgress = true ∧
    run.pendingInterrupts = singleInterrupt stage pending
  noTimeout : run.hitlTimeouts = []

/-- The resume is still to begin. -/
structure Answered (run : ServedRun) (stage : HitlStage) (thread : Thread)
    (request : HitlResumeRequest) : Prop extends Resuming run stage where
  onThread : run.activeThread.getD .main = thread
  checkpoint : run.suspended = [(thread, stage)]
  task : run.tasks = [.resume request]
  noExecution : run.executions = []

/-- The graph is about to enter the node of the stage again. -/
structure Reentering (run : ServedRun) (stage : HitlStage) (thread : Thread)
    (request : HitlResumeRequest) : Prop extends Resuming run stage where
  onThread : run.activeThread = some thread
  noCheckpoint : run.suspended = []
  noTask : run.tasks = []
  execution : run.executions =
    [{ origin := .resume
       thread := thread
       next := some stage.node
       resumeValue := some request }]

inductive Phase (run : ServedRun) : Prop where
  | quiet (quiet : run.Quiet)
  | waiting (stage : HitlStage) (thread : Thread)
      (waiting : run.Waiting stage thread)
  | answered (stage : HitlStage) (thread : Thread)
      (request : HitlResumeRequest)
      (answered : run.Answered stage thread request)
  | reentering (stage : HitlStage) (thread : Thread)
      (request : HitlResumeRequest)
      (reentering : run.Reentering stage thread request)

/-- The phases with the history they go along with. -/
structure Reviewed (run : ServedRun) : Prop where
  phase : run.Phase
  resumedOnce : ∀ stage, run.history.answers stage ≤ 1
  noneAbandoned : run.history.abandoned = []

/-- A read of the run would not change its status. -/
def ReadsSafely (run : ServedRun) : Prop :=
  ¬ (run.detail.status = .running ∧ run.detail.hitlStage.isSome = true)

instance (run : ServedRun) : Decidable run.ReadsSafely :=
  inferInstanceAs (Decidable (¬ _))

theorem hitlStage_eq_some {run : ServedRun} {stage : HitlStage}
    (currentNode : run.detail.currentNode = some stage.node.name) :
    run.detail.hitlStage = some stage := by
  unfold RunDetail.hitlStage
  rw [currentNode]
  cases stage <;> rfl

theorem Resuming.not_readsSafely {run : ServedRun} {stage : HitlStage}
    (resuming : run.Resuming stage) : ¬ run.ReadsSafely := by
  intro safe
  apply safe
  rw [hitlStage_eq_some resuming.currentNode]
  exact ⟨resuming.status, rfl⟩

theorem repair_eq_self {run : ServedRun} (safe : run.ReadsSafely) :
    run.repairInconsistentHitlStatus = run := by
  unfold repairInconsistentHitlStatus RunDetail.repairInconsistentHitlStatus
  rw [if_neg safe]

theorem hydrate_eq_self {run : ServedRun} (safe : run.ReadsSafely)
    (hydrated : run.detail.status ≠ .interrupted ∨
      run.pendingInterrupts.entries ≠ []) :
    run.hydratePendingInterruptFromDetail = run := by
  unfold hydratePendingInterruptFromDetail
  rw [repair_eq_self safe]
  exact if_pos hydrated

/-- The interrupt of a waiting run is there, and no other run has to be
hydrated. -/
theorem Reviewed.hydrate_eq {run : ServedRun} (reviewed : run.Reviewed)
    (safe : run.ReadsSafely) :
    run.hydratePendingInterruptFromDetail = run := by
  cases reviewed.phase with
  | quiet quiet => exact hydrate_eq_self safe (.inl quiet.notInterrupted)
  | waiting stage thread waiting =>
      apply hydrate_eq_self safe
      right
      rw [waiting.interrupt]
      exact List.cons_ne_nil _ _
  | answered stage thread request answered =>
      exact (answered.not_readsSafely safe).elim
  | reentering stage thread request reentering =>
      exact (reentering.not_readsSafely safe).elim

theorem Reviewed.read_eq {run : ServedRun} (reviewed : run.Reviewed)
    (safe : run.ReadsSafely) : run.read = run := by
  rw [ServedRun.read, repair_eq_self safe]
  exact reviewed.hydrate_eq safe

/-! ## Resumes -/

theorem Waiting.matchesCurrentNode_eq {run : ServedRun} {stage : HitlStage}
    {thread : Thread} (waiting : run.Waiting stage thread) :
    run.matchesCurrentNode stage (freshInterrupt stage) = true := by
  simp [matchesCurrentNode, waiting.currentNode]

theorem Waiting.resumedInterrupt_eq {run : ServedRun} {stage : HitlStage}
    {thread : Thread} (waiting : run.Waiting stage thread) :
    run.resumedInterrupt = some (stage, freshInterrupt stage) := by
  unfold resumedInterrupt
  rw [waiting.interrupt, singleInterrupt_entries]
  simp only [List.find?_cons, waiting.matchesCurrentNode_eq]
  rfl

/-- Accepting a resume starts it, once. -/
theorem Waiting.acceptResume {run : ServedRun} {stage : HitlStage}
    {thread : Thread} (waiting : run.Waiting stage thread)
    (request : HitlResumeRequest) (systemNote : Bool) :
    (run.acceptResume stage (freshInterrupt stage) request systemNote).Answered
      stage thread request := by
  refine
    { hitlEnabled := waiting.hitlEnabled
      status := rfl
      currentNode := waiting.currentNode
      interrupt :=
        ⟨{ freshInterrupt stage with
            resumeInProgress := true
            autoResume := if systemNote then some request else none },
          rfl, ?_⟩
      noTimeout := rfl
      onThread := waiting.onThread
      checkpoint := waiting.checkpoint
      task := ?_
      noExecution := waiting.noExecution }
  · rw [ServedRun.acceptResume, waiting.interrupt, singleInterrupt_set]
    rfl
  · rw [ServedRun.acceptResume, waiting.noTask]
    rfl

theorem Reviewed.resume {run : ServedRun} {stage : HitlStage}
    {thread : Thread} (reviewed : run.Reviewed)
    (waiting : run.Waiting stage thread) (request : HitlResumeRequest)
    (systemNote : Bool) : (run.resume request systemNote).Reviewed := by
  unfold ServedRun.resume
  rw [waiting.resumedInterrupt_eq]
  dsimp only
  split
  · exact reviewed
  split
  · exact reviewed
  refine
    { phase := .answered stage thread request
        (waiting.acceptResume request systemNote)
      resumedOnce := ?_
      noneAbandoned := reviewed.noneAbandoned }
  intro other
  by_cases same : other = stage
  · subst same
    simp [ServedRun.acceptResume, waiting.unanswered]
  · simpa [ServedRun.acceptResume, same] using reviewed.resumedOnce other

theorem Quiet.hasPendingInterrupt_eq {run : ServedRun}
    (quiet : run.Quiet) : run.hasPendingInterrupt = false := by
  rw [hasPendingInterrupt, quiet.noInterrupt]
  rfl

theorem Reviewed.resumeReview {run : ServedRun} (reviewed : run.Reviewed)
    (safe : run.ReadsSafely) (request : HitlResumeRequest)
    (systemNote : Bool) : (run.resumeReview request systemNote).Reviewed := by
  unfold ServedRun.resumeReview
  rw [reviewed.read_eq safe]
  dsimp only
  split
  · exact reviewed
  split
  · exact reviewed
  next pending =>
  cases reviewed.phase with
  | quiet quiet =>
      rw [quiet.hasPendingInterrupt_eq] at pending
      exact (pending rfl).elim
  | waiting stage thread waiting =>
      exact reviewed.resume waiting request systemNote
  | answered stage thread request answered =>
      exact (answered.not_readsSafely safe).elim
  | reentering stage thread request reentering =>
      exact (reentering.not_readsSafely safe).elim

/-- A timer that has run out is gone; nothing else of a review changes. -/
theorem Waiting.withoutTimeout {run : ServedRun} {stage : HitlStage}
    {thread : Thread} (waiting : run.Waiting stage thread)
    (expired : HitlStage) :
    { run with
      hitlTimeouts := run.hitlTimeouts.filter (· ≠ expired) }.Waiting stage
        thread :=
  { hitlEnabled := waiting.hitlEnabled
    status := waiting.status
    currentNode := waiting.currentNode
    interrupt := waiting.interrupt
    timeouts := fun other member =>
      waiting.timeouts other (List.mem_of_mem_filter member)
    onThread := waiting.onThread
    checkpoint := waiting.checkpoint
    noTask := waiting.noTask
    noExecution := waiting.noExecution
    latest := waiting.latest
    unanswered := waiting.unanswered }

theorem Reviewed.timeout {run : ServedRun} {stage : HitlStage}
    (reviewed : run.Reviewed) (armed : stage ∈ run.hitlTimeouts) :
    (run.autoAcceptAfterTimeout stage).Reviewed := by
  cases reviewed.phase with
  | quiet quiet =>
      rw [quiet.noTimeout] at armed
      cases armed
  | waiting reviewedStage thread waiting =>
      cases waiting.timeouts stage armed
      have found : run.pendingInterrupts.get? stage =
          some (freshInterrupt stage) := by
        rw [waiting.interrupt, singleInterrupt_get?, if_pos rfl]
      have remaining := waiting.withoutTimeout stage
      unfold autoAcceptAfterTimeout
      rw [found]
      dsimp only
      rw [if_neg (not_not_intro waiting.status),
        waiting.matchesCurrentNode_eq]
      apply Reviewed.resume _ remaining
      exact
        { phase := .waiting stage thread remaining
          resumedOnce := reviewed.resumedOnce
          noneAbandoned := reviewed.noneAbandoned }
  | answered stage thread request answered =>
      rw [answered.noTimeout] at armed
      cases armed
  | reentering stage thread request reentering =>
      rw [reentering.noTimeout] at armed
      cases armed

/-! ## Checkpoints -/

/-- The run as it enters the node of a stage. -/
def entering (run : ServedRun) (stage : HitlStage) : ServedRun :=
  { run with
    detail := { run.detail with currentNode := some stage.node.name } }

theorem hitlNode_withoutHitl {run : ServedRun}
    (disabled : run.detail.hitlEnabled = false) (settings : RunSettings)
    (stage : HitlStage) (resumeValue : Option HitlResumeRequest) :
    run.hitlNode settings stage resumeValue =
      (run.entering stage, some { decision := .accept }) := by
  unfold hitlNode
  rw [disabled]
  rfl

theorem hitlNode_first {run : ServedRun} {stage : HitlStage}
    (enabled : run.detail.hitlEnabled = true)
    (absent : run.pendingInterrupts.get? stage = none)
    (settings : RunSettings) :
    run.hitlNode settings stage none =
      ((run.entering stage).raiseInterrupt settings stage, none) := by
  have unanswered :
      ((run.entering stage).raiseInterrupt settings stage).reviewAnswer
        stage none = none := by
    simp [raiseInterrupt, entering, absent, reviewAnswer]
  unfold hitlNode
  rw [enabled]
  dsimp only
  rw [if_neg (by decide)]
  split
  · rfl
  · next answered => cases unanswered.symm.trans answered

theorem hitlNode_resumed {run : ServedRun} {stage : HitlStage}
    {pending : PendingInterrupt}
    (enabled : run.detail.hitlEnabled = true)
    (present : run.pendingInterrupts.get? stage = some pending)
    (settings : RunSettings) (request : HitlResumeRequest) :
    ∃ answer, run.hitlNode settings stage (some request) =
      ((run.entering stage).settleInterrupt stage answer, some answer) := by
  have raised : (run.entering stage).raiseInterrupt settings stage =
      run.entering stage := by
    simp [raiseInterrupt, entering, present]
  obtain ⟨answer, answered⟩ : ∃ answer,
      ((run.entering stage).raiseInterrupt settings stage).reviewAnswer stage
        (some request) = some answer := by
    rw [raised]
    simp only [reviewAnswer, entering, present, Option.bind_some]
    cases pending.autoResume with
    | none => exact ⟨request, rfl⟩
    | some automatic => exact ⟨automatic, rfl⟩
  refine ⟨answer, ?_⟩
  unfold hitlNode
  rw [enabled]
  dsimp only
  rw [if_neg (by decide)]
  split
  · next unanswered => cases answered.symm.trans unanswered
  · next given =>
      cases answered.symm.trans given
      exact congrArg (fun run => (settleInterrupt run stage answer,
        some answer)) raised

end ServedRun

end CompetiScope
