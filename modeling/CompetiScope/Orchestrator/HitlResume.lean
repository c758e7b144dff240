import CompetiScope.Foundation.Transition
import CompetiScope.Orchestrator.HitlSteps

/-!
# Resuming a reviewed run

Every interrupt is answered at most once and every resumed graph is brought
to its end, in the runs whose reads keep away from the moment at which a
checkpoint is being left.
-/

namespace CompetiScope

open Foundation

namespace ServedRun

/-- Interrupts are resumed at most once; what has been resumed is neither
pending nor, until a new interrupt is raised, is the run `interrupted`; no
invocation that reached `END` was given up. -/
structure ResumesSafely (run : ServedRun) : Prop where
  resumedOnce : ∀ stage, run.history.answers stage ≤ 1
  notReopened : ∀ stage, 1 ≤ run.history.answers stage →
    run.openInterrupt stage = false
  atWork : ∀ stage, run.history.latest = some stage →
    1 ≤ run.history.answers stage → run.detail.status ≠ .interrupted
  finalised : run.history.abandoned = []

theorem Waiting.openInterrupt_eq {run : ServedRun} {stage other : HitlStage}
    {thread : Thread} (waiting : run.Waiting stage thread)
    (answered : 1 ≤ run.history.answers other) :
    run.openInterrupt other = false := by
  have different : other ≠ stage := by
    intro same
    subst same
    rw [waiting.unanswered] at answered
    cases answered
  rw [openInterrupt, waiting.interrupt, singleInterrupt_get?,
    if_neg different]
  rfl

theorem Resuming.openInterrupt_eq {run : ServedRun} {stage : HitlStage}
    (resuming : run.Resuming stage) (other : HitlStage) :
    run.openInterrupt other = false := by
  obtain ⟨pending, inProgress, interrupt⟩ := resuming.interrupt
  rw [openInterrupt, interrupt, singleInterrupt_get?]
  split
  · rw [Option.any_some, inProgress]
    rfl
  · rfl

theorem Resuming.notInterrupted {run : ServedRun} {stage : HitlStage}
    (resuming : run.Resuming stage) : run.detail.status ≠ .interrupted := by
  rw [resuming.status]
  intro impossible
  cases impossible

theorem Reviewed.resumesSafely {run : ServedRun}
    (reviewed : run.Reviewed) : run.ResumesSafely := by
  refine
    { resumedOnce := reviewed.resumedOnce
      notReopened := ?_
      atWork := ?_
      finalised := reviewed.noneAbandoned }
  · intro other answered
    cases reviewed.phase with
    | quiet quiet =>
        rw [openInterrupt, quiet.noInterrupt]
        rfl
    | waiting stage thread waiting => exact waiting.openInterrupt_eq answered
    | answered stage thread request resuming =>
        exact resuming.openInterrupt_eq other
    | reentering stage thread request resuming =>
        exact resuming.openInterrupt_eq other
  · intro other latest answered
    cases reviewed.phase with
    | quiet quiet => exact quiet.notInterrupted
    | waiting stage thread waiting =>
        have same := Option.some.inj (waiting.latest.symm.trans latest)
        rw [← same, waiting.unanswered] at answered
        cases answered
    | answered stage thread request resuming =>
        exact resuming.notInterrupted
    | reentering stage thread request resuming =>
        exact resuming.notInterrupted

/-- A run as `create_run` leaves it, its pipeline about to begin. -/
def created (detail : RunDetail) : ServedRun :=
  { detail :=
      { detail with
        status := .queued
        currentNode := some "planner" }
    tasks := [.pipeline] }

/-- A new run with at most one task, which is no resume. -/
theorem reviewed_new {run : ServedRun}
    (fresh : run = { detail := run.detail, tasks := run.tasks })
    (status : run.detail.status = .queued)
    (single : run.tasks.length ≤ 1)
    (noResume : ∀ request, .resume request ∉ run.tasks) :
    run.Reviewed := by
  rw [fresh]
  have quiet : ServedRun.Quiet
      { detail := run.detail, tasks := run.tasks } :=
    { noInterrupt := rfl
      noTimeout := rfl
      noCheckpoint := rfl
      notInterrupted := by
        intro impossible
        cases status.symm.trans impossible
      single := single
      noResumeTask := noResume
      noResumeValue := fun _ impossible => by cases impossible
      onThread := fun _ impossible => by cases impossible }
  exact
    { phase := .quiet quiet
      resumedOnce := fun _ => Nat.zero_le 1
      noneAbandoned := rfl }

theorem created_reviewed (detail : RunDetail) :
    (created detail).Reviewed := by
  apply reviewed_new rfl rfl
  · exact Nat.le_refl 1
  · intro request member
    cases List.mem_singleton.mp member

end ServedRun

section

variable [PyRuntime]

/-- Whatever the order of graph steps, resumes, timers and reads: if no read
takes back the status of a run that is leaving a checkpoint, resumes are
safe. -/
theorem hitlResumes_safe_along (settings : RunSettings) (detail : RunDetail)
    (actions : List RunAction) (run : ServedRun)
    (safe : Along (runStep settings) ServedRun.SafeAction
      (ServedRun.created detail) actions)
    (reached : exec (runStep settings) (ServedRun.created detail) actions =
      some run) : run.ResumesSafely := by
  have preserved : ∀ before action after, before.Reviewed →
      before.SafeAction action →
        runStep settings before action = some after → after.Reviewed :=
    fun _ _ _ reviewed allowed stepped => reviewed.step allowed stepped
  have reviewed := exec_invariant_along preserved
    (ServedRun.created_reviewed detail) safe reached
  exact reviewed.resumesSafely

end

/-! ## A read while a checkpoint is being left -/

section

local instance resumeExampleRuntime : PyRuntime := asciiRuntime

def reviewedDetail : RunDetail :=
  { id := "run"
    plan :=
      { competitors := ["Acme"]
        dimensions := ["pricing"] }
    hitlEnabled := true }

def reviewSettings : RunSettings :=
  { autoRedoEnabled := true
    hitlTimeout := true }

/-- The invocation of the run goes on to a node. -/
def visit (next : GraphNode) : RunAction :=
  .node 0
    { work := reviewedDetail
      next := some next }

/-- The pipeline up to the review of the plan. -/
def toPlanReview : List RunAction :=
  [.startTask 0, visit .plannerHitl, visit .collectorDispatch]

/-- From the fan-out to the writer. -/
def toWriter : List RunAction :=
  [visit .collector, visit .collectJoin, visit .surveyInterview,
    visit .collectQa, visit .analystDispatch, visit .analyst,
    visit .analystJoin, visit .analystQa, visit .comparator,
    visit .reflector, visit .writer]

def acceptPlan : RunAction :=
  .review { decision := .accept } false

/-- The plan is accepted by a reviewer, the report by the timer. -/
def acceptedRun : List RunAction :=
  toPlanReview ++
    [.read, acceptPlan, .startTask 0, visit .collectorDispatch] ++
    toWriter ++
    [.read, visit .qa, visit .qaHitl, visit .writer, .read, .timeout .qa,
      .startTask 0,
      .node 0
        { work := reviewedDetail
          next := none },
      .endGraph 0 reviewedDetail true false, .read]

theorem hitlResumes_safe_accepted :
    ∃ run,
      exec (runStep reviewSettings) (ServedRun.created reviewedDetail)
          acceptedRun = some run ∧ run.ResumesSafely :=
  ⟨_, rfl,
    hitlResumes_safe_along reviewSettings reviewedDetail acceptedRun _
      (by decide) rfl⟩

/-- Polling the run while it leaves the review of its plan: the one interrupt
is accepted twice, and the graph ends after the writer without an end of the
run. -/
theorem hitlResumes_unsafe_polled :
    ∃ run,
      exec (runStep reviewSettings) (ServedRun.created reviewedDetail)
          (toPlanReview ++
            [acceptPlan, .read, .startTask 0, visit .collectorDispatch,
              .read, acceptPlan, .read] ++
            toWriter ++
            [.node 0
                { work := reviewedDetail
                  next := none },
              .endGraph 0 reviewedDetail true false]) = some run ∧
        run.history.answers .planner = 2 ∧
        run.history.abandoned = [.resume] ∧
        run.detail.status = .interrupted ∧ ¬ run.ResumesSafely := by
  refine ⟨_, rfl, rfl, rfl, rfl, ?_⟩
  intro safe
  exact absurd safe.finalised (List.cons_ne_nil _ _)

end

end CompetiScope
