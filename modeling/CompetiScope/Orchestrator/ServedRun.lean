import Mathlib.Logic.Function.Basic
import CompetiScope.Orchestrator.Graph
import CompetiScope.Orchestrator.RevisionLog

/-!
# A run in the run service

The life of one run in `RunService`: graph invocations, HITL interrupts and
their timers, resumes and reads.  One step is what the event loop does
without giving way: a node, a command, a timer, a read.
-/

namespace CompetiScope

open Foundation

/-- The node names of `orchestrator/graph.py`. -/
inductive GraphNode where
  | redoRouter
  | planner
  | plannerHitl
  | collectorDispatch
  | collector
  | collectJoin
  | surveyInterview
  | collectQa
  | analystDispatch
  | analyst
  | analystJoin
  | analystQa
  | comparator
  | reflector
  | writer
  | qa
  | qaHitl
  deriving DecidableEq

namespace GraphNode

def name : GraphNode → String
  | redoRouter => "redo_router"
  | planner => "planner"
  | plannerHitl => "planner_hitl"
  | collectorDispatch => "collector_dispatch"
  | collector => "collector"
  | collectJoin => "collect_join"
  | surveyInterview => "survey_interview"
  | collectQa => "collect_qa"
  | analystDispatch => "analyst_dispatch"
  | analyst => "analyst"
  | analystJoin => "analyst_join"
  | analystQa => "analyst_qa"
  | comparator => "comparator"
  | reflector => "reflector"
  | writer => "writer"
  | qa => "qa"
  | qaHitl => "qa_hitl"

/-- The edges of the graphs; `none` is `END`.  A fan-out goes on while
branches are left, and ends the graph when there are none. -/
def successors : GraphNode → List (Option GraphNode)
  | redoRouter =>
      [some writer, some comparator, some analystDispatch,
        some collectorDispatch, some planner]
  | planner => [some plannerHitl]
  | plannerHitl => [some collectorDispatch]
  | collectorDispatch => [some collector, none]
  | collector => [some collector, some collectJoin]
  | collectJoin => [some surveyInterview]
  | surveyInterview => [some collectQa]
  | collectQa => [some collectorDispatch, some analystDispatch, none]
  | analystDispatch => [some analyst, none]
  | analyst => [some analyst, some analystJoin]
  | analystJoin => [some analystQa]
  | analystQa => [some analystDispatch, some comparator, none]
  | comparator => [some reflector]
  | reflector => [some writer]
  | writer => [some qa, none]
  | qa => [some qaHitl]
  | qaHitl =>
      [none, some writer, some comparator, some analystDispatch,
        some collectorDispatch, some planner]

/-- `current_node` of the run as an agent node leaves it: the checks of a
phase name themselves when they fail the run, a failed writer none. -/
def currentNode (node : GraphNode) (mode : ExecutionMode) (failed : Bool)
    (before : Option String) : Option String :=
  match node with
  | redoRouter => before
  | collectQa => some (if failed ∨ mode = .demo then "collect_qa" else "qa")
  | analystQa => some (if failed ∨ mode = .demo then "analyst_qa" else "qa")
  | writer => if failed then none else some "writer"
  | other => some other.name

end GraphNode

inductive HitlStage where
  | planner
  | qa
  deriving DecidableEq

def HitlStage.node : HitlStage → GraphNode
  | planner => .plannerHitl
  | qa => .qaHitl

/-- The stage reviewed by a node. -/
def GraphNode.stage? : GraphNode → Option HitlStage
  | plannerHitl => some .planner
  | qaHitl => some .qa
  | _ => none

@[simp] theorem HitlStage.node_stage? (stage : HitlStage) :
    stage.node.stage? = some stage := by
  cases stage <;> rfl

/-- An entry of `record.pending_interrupts`. -/
structure PendingInterrupt where
  interruptNode : String
  resumeInProgress : Bool := false
  autoResume : Option HitlResumeRequest := none
  deriving DecidableEq

/-- The graph threads of a run: its pipelines share one, a scoped redo of the
real graph has its own. -/
inductive Thread where
  | main
  | redo (iteration : Nat) (scope : RedoScope)
  deriving DecidableEq

inductive ExecutionOrigin where
  | pipeline
  | scopedRedo
  | resume
  deriving DecidableEq

/-- A graph invocation between two nodes; `next` is `none` at `END`. -/
structure Execution where
  origin : ExecutionOrigin
  thread : Thread
  next : Option GraphNode
  resumeValue : Option HitlResumeRequest := none
  deriving DecidableEq

/-- A coroutine handed to the event loop that has not begun. -/
inductive RunTask where
  | pipeline
  /-- An activity that created the run and has yet to look at its status. -/
  | activityPipeline
  | scopedRedo (preferredIssueIds : List String)
  | resume (request : HitlResumeRequest)
  deriving DecidableEq

/-- What happened to a run so far; no function of the service reads it. -/
structure RunHistory where
  /-- The stage of the last interrupt raised. -/
  latest : Option HitlStage := none
  /-- Resumes accepted since the last interrupt of a stage. -/
  answers : HitlStage → Nat := fun _ => 0
  /-- Invocations that reached `END` and were given up as interrupted. -/
  abandoned : List ExecutionOrigin := []
  pipelineStarts : Nat := 0

/-- A `RunRecord` with the tasks and graph invocations of its run. -/
structure ServedRun where
  detail : RunDetail
  pendingInterrupts : Dict HitlStage PendingInterrupt := ∅
  hitlTimeouts : List HitlStage := []
  activeThread : Option Thread := none
  /-- The threads whose checkpoint holds an interrupt. -/
  suspended : List (Thread × HitlStage) := []
  tasks : List RunTask := []
  executions : List Execution := []
  history : RunHistory := {}

structure RunSettings where
  autoRedoEnabled : Bool
  /-- `hitl_timeout_seconds` is positive. -/
  hitlTimeout : Bool

/-- What a node wrote and which edge the graph takes after it; `failed` when
the node gave up on the run. -/
structure NodeOutcome where
  work : RunDetail
  failed : Bool := false
  next : Option GraphNode

inductive RunAction where
  /-- A waiting coroutine begins. -/
  | startTask (index : Nat)
  /-- A graph invocation runs its next node. -/
  | node (index : Nat) (outcome : NodeOutcome)
  /-- A graph invocation raises an exception. -/
  | raised (index : Nat)
  /-- A graph invocation that reached `END` returns; `autoRedo` when its
  finalisation asks for an automatic redo. -/
  | endGraph (index : Nat) (synced : RunDetail) (gateAllowed autoRedo : Bool)
  /-- The timer of a stage runs out. -/
  | timeout (stage : HitlStage)
  /-- `get_run` or `list_runs`. -/
  | read
  /-- The command `resume_review`; `systemNote` when the note reads like that
  of the timer. -/
  | review (request : HitlResumeRequest) (systemNote : Bool)

/-- What nodes and projections may rewrite: everything but the settings, the
status and the current node. -/
def RunDetail.withWork (detail work : RunDetail) : RunDetail :=
  { work with
    id := detail.id
    status := detail.status
    executionMode := detail.executionMode
    maxIterations := detail.maxIterations
    autoRedoWarnEnabled := detail.autoRedoWarnEnabled
    hitlEnabled := detail.hitlEnabled
    currentNode := detail.currentNode }

/-- The stage whose node is the current node. -/
def RunDetail.hitlStage (detail : RunDetail) : Option HitlStage :=
  if detail.currentNode = some "planner_hitl" then some .planner
  else if detail.currentNode = some "qa_hitl" then some .qa
  else none

/-- `_repair_inconsistent_hitl_status`. -/
def RunDetail.repairInconsistentHitlStatus (detail : RunDetail) : RunDetail :=
  if detail.status = .running ∧ detail.hitlStage.isSome then
    { detail with status := .interrupted }
  else detail

namespace ServedRun

def withStatus (run : ServedRun) (status : RunStatus) : ServedRun :=
  { run with detail := { run.detail with status := status } }

/-- Where a run is left that is over or failed. -/
def closedAs (run : ServedRun) (status : RunStatus) : ServedRun :=
  { run with
    detail :=
      { run.detail with
        status := status
        currentNode := none } }

def repairInconsistentHitlStatus (run : ServedRun) : ServedRun :=
  { run with detail := run.detail.repairInconsistentHitlStatus }

/-- `_hydrate_pending_interrupt_from_detail`. -/
def hydratePendingInterruptFromDetail (run : ServedRun) : ServedRun :=
  let repaired := run.repairInconsistentHitlStatus
  if repaired.detail.status ≠ .interrupted ∨
      repaired.pendingInterrupts.entries ≠ [] then
    repaired
  else
    match repaired.detail.hitlStage with
    | none => repaired
    | some stage =>
        { repaired with
          activeThread := some .main
          pendingInterrupts :=
            repaired.pendingInterrupts.set stage
              { interruptNode := stage.node.name } }

/-- What `get_run` and `list_runs` do to the record they return. -/
def read (run : ServedRun) : ServedRun :=
  run.repairInconsistentHitlStatus.hydratePendingInterruptFromDetail

/-- `_pending_interrupt_matches_current_node`. -/
def matchesCurrentNode (run : ServedRun) (stage : HitlStage)
    (pending : PendingInterrupt) : Bool :=
  run.detail.currentNode = some pending.interruptNode ||
    run.detail.currentNode = some stage.node.name

/-- The entry `resume` answers: the one of the current node, else the
first. -/
def resumedInterrupt (run : ServedRun) :
    Option (HitlStage × PendingInterrupt) :=
  (run.pendingInterrupts.entries.find? fun entry =>
    run.matchesCurrentNode entry.1 entry.2).or
      run.pendingInterrupts.entries.head?

def openInterrupt (run : ServedRun) (stage : HitlStage) : Bool :=
  (run.pendingInterrupts.get? stage).any fun pending =>
    !pending.resumeInProgress

/-- `has_pending_interrupt`. -/
def hasPendingInterrupt (run : ServedRun) : Bool :=
  run.pendingInterrupts.values.any fun pending => !pending.resumeInProgress

/-- `can_modify_plan_competitors`. -/
def canModifyPlanCompetitors (run : ServedRun) : Bool :=
  run.detail.status = .interrupted && run.openInterrupt .planner

/-- `resume` without a pending interrupt. -/
def resumeWithoutInterrupt (run : ServedRun) (request : HitlResumeRequest) :
    ServedRun :=
  if request.decision ≠ .redo then run
  else if run.detail.qaFindings = [] ∨ run.detail.redoLimitReached then
    run.closedAs .completed
  else
    { run with
      detail :=
        { applyReviewedDimensions run.detail request with
          status := .running } }

/-- `resume` once the request has been validated. -/
def acceptResume (run : ServedRun) (stage : HitlStage)
    (pending : PendingInterrupt) (request : HitlResumeRequest)
    (systemNote : Bool) : ServedRun :=
  { run with
    detail :=
      { run.detail with
        plan := reviewedPlan run.detail.plan request
        status := .running }
    pendingInterrupts :=
      run.pendingInterrupts.set stage
        { pending with
          resumeInProgress := true
          autoResume :=
            if systemNote then some request else pending.autoResume }
    hitlTimeouts := []
    tasks := run.tasks ++ [.resume request]
    history :=
      { run.history with
        answers :=
          Function.update run.history.answers stage
            (run.history.answers stage + 1) } }

/-- `resume`; a request that raises an error changes nothing. -/
def resume (run : ServedRun) (request : HitlResumeRequest)
    (systemNote : Bool) : ServedRun :=
  match run.resumedInterrupt with
  | none => run.resumeWithoutInterrupt request
  | some (stage, pending) =>
      if pending.resumeInProgress then run
      else if request.competitors.isSome ∧
          (request.decision ≠ .modifyPlan ∨ stage ≠ .planner) then
        run
      else run.acceptResume stage pending request systemNote

/-- The command `resume_review`, with the read it begins with. -/
def resumeReview (run : ServedRun) (request : HitlResumeRequest)
    (systemNote : Bool) : ServedRun :=
  let seen := run.read
  if request.competitors.isSome ∧
      (request.decision ≠ .modifyPlan ∨ !seen.canModifyPlanCompetitors) then
    seen
  else if !seen.hasPendingInterrupt then seen
  else seen.resume request systemNote

/-- The timer armed by `_schedule_hitl_timeout`. -/
def autoAcceptAfterTimeout (run : ServedRun) (stage : HitlStage) :
    ServedRun :=
  let rest :=
    { run with hitlTimeouts := run.hitlTimeouts.filter (· ≠ stage) }
  match run.pendingInterrupts.get? stage with
  | none => rest
  | some pending =>
      if run.detail.status ≠ .interrupted then rest
      else if !run.matchesCurrentNode stage pending then
        { rest with pendingInterrupts := run.pendingInterrupts.erase stage }
      else rest.resume { decision := .accept } true

/-- `_maybe_interrupt` up to the call of `interrupt`. -/
def raiseInterrupt (run : ServedRun) (settings : RunSettings)
    (stage : HitlStage) : ServedRun :=
  if (run.pendingInterrupts.get? stage).isSome then run
  else
    { run with
      detail :=
        { run.detail with
          status := .interrupted
          currentNode := some stage.node.name }
      pendingInterrupts :=
        run.pendingInterrupts.set stage { interruptNode := stage.node.name }
      hitlTimeouts :=
        if settings.hitlTimeout ∧ stage ∉ run.hitlTimeouts then
          run.hitlTimeouts ++ [stage]
        else run.hitlTimeouts
      history :=
        { run.history with
          latest := some stage
          answers := Function.update run.history.answers stage 0 } }

/-- The answer `_maybe_interrupt` goes on with: that of the timer, else the
value of the resume; `none` suspends the graph. -/
def reviewAnswer (run : ServedRun) (stage : HitlStage)
    (resumeValue : Option HitlResumeRequest) : Option HitlResumeRequest :=
  ((run.pendingInterrupts.get? stage).bind (·.autoResume)).or resumeValue

/-- `_maybe_interrupt` from the call of `interrupt` on. -/
def settleInterrupt (run : ServedRun) (stage : HitlStage)
    (request : HitlResumeRequest) : ServedRun :=
  { run with
    detail := applyReviewedDimensions run.detail request
    pendingInterrupts := run.pendingInterrupts.erase stage
    hitlTimeouts := run.hitlTimeouts.filter (· ≠ stage) }

/-- A HITL node up to its decision; no decision suspends the graph. -/
def hitlNode (run : ServedRun) (settings : RunSettings) (stage : HitlStage)
    (resumeValue : Option HitlResumeRequest) :
    ServedRun × Option HitlResumeRequest :=
  let entered :=
    { run with
      detail := { run.detail with currentNode := some stage.node.name } }
  if !run.detail.hitlEnabled then (entered, some { decision := .accept })
  else
    let raised := entered.raiseInterrupt settings stage
    match raised.reviewAnswer stage resumeValue with
    | none => (raised, none)
    | some request => (raised.settleInterrupt stage request, some request)

/-- The rest of a node: what it wrote, and its failure. -/
def leaveNode (run : ServedRun) (outcome : NodeOutcome) : ServedRun :=
  { run with
    detail :=
      { run.detail.withWork outcome.work with
        status := if outcome.failed then .failed else run.detail.status } }

end ServedRun

/-- The routes of the conditional edges: a phase fails the run or goes on,
the writer leads to the QA unless the run is failed or interrupted, and only
a redo leads back from the final QA. -/
def NodeOutcome.fits (outcome : NodeOutcome) (node : GraphNode)
    (decision : HitlDecision) (status : RunStatus) : Bool :=
  outcome.next ∈ node.successors &&
    match node with
    | .collectQa => outcome.failed = outcome.next.isNone
    | .analystQa => outcome.failed = outcome.next.isNone
    | .writer =>
        outcome.next.isNone =
          (outcome.failed || status = .failed || status = .interrupted)
    | .qaHitl =>
        (outcome.next.isNone || decision = .redo) &&
          (!outcome.failed || (decision = .redo && outcome.next.isNone))
    | _ => !outcome.failed

namespace ServedRun

/-- The next node of an invocation, unless it is a HITL node. -/
def agentNode (run : ServedRun) (index : Nat) (execution : Execution)
    (node : GraphNode) (outcome : NodeOutcome) : Option ServedRun :=
  if outcome.fits node .accept run.detail.status then
    let entered :=
      { run with
        detail :=
          { run.detail with
            currentNode :=
              node.currentNode run.detail.executionMode outcome.failed
                run.detail.currentNode } }
    some
      { entered.leaveNode outcome with
        executions :=
          run.executions.set index { execution with next := outcome.next } }
  else none

/-- A HITL node of an invocation. -/
def reviewNode (run : ServedRun) (settings : RunSettings) (index : Nat)
    (execution : Execution) (stage : HitlStage) (outcome : NodeOutcome) :
    Option ServedRun :=
  match run.hitlNode settings stage execution.resumeValue with
  | (raised, none) =>
      some
        { raised with
          executions := run.executions.eraseIdx index
          suspended := run.suspended ++ [(execution.thread, stage)] }
  | (decided, some request) =>
      if outcome.fits stage.node request.decision decided.detail.status then
        some
          { decided.leaveNode outcome with
            executions :=
              run.executions.set index
                { execution with
                  next := outcome.next
                  resumeValue := none } }
      else none

/-- `run_pipeline` up to the start of its graph. -/
def startPipeline (run : ServedRun) : ServedRun :=
  { run.withStatus .running with
    activeThread := some .main
    executions :=
      run.executions ++
        [{ origin := .pipeline
           thread := .main
           next := some .planner }]
    history :=
      { run.history with pipelineStarts := run.history.pipelineStarts + 1 } }

/-- The statuses with which an activity leaves a run alone. -/
def settled (run : ServedRun) : Bool :=
  run.detail.status ∈ [.completed, .completedWithBlockers, .interrupted, .failed]

/-- `_resume_interrupted_graph` up to the start of its graph.  A resume of a
thread whose checkpoint holds no interrupt is not modelled. -/
def resumeInterruptedGraph (run : ServedRun) (request : HitlResumeRequest) :
    Option ServedRun :=
  let thread := run.activeThread.getD .main
  match run.suspended.find? fun interrupt => interrupt.1 = thread with
  | none => none
  | some interrupt =>
      some
        { run with
          activeThread := some thread
          suspended := run.suspended.erase interrupt
          executions :=
            run.executions ++
              [{ origin := .resume
                 thread := thread
                 next := some interrupt.2.node
                 resumeValue := some request }] }

/-- The exception handlers of `run_pipeline`, `run_scoped_redo` and
`_resume_interrupted_graph`. -/
def failExecution (run : ServedRun) (index : Nat) (execution : Execution) :
    ServedRun :=
  let failed :=
    { run.closedAs .failed with
      executions := run.executions.eraseIdx index }
  match execution.origin with
  | .resume =>
      { failed with
        pendingInterrupts := ∅
        hitlTimeouts := [] }
  | _ => failed

section

variable [PyRuntime]

/-- The real graph of `run_scoped_redo`. -/
def startRedoGraph (run : ServedRun) (scope : RedoScope) : ServedRun :=
  match prepareRedoScopeInputs run.detail scope with
  | .error _ => run.closedAs .failed
  | .ok prepared =>
      let thread :=
        Thread.redo (run.detail.revisions.length + 1)
          { scope with rationale := "" }
      { run with
        detail := { prepared.detail with status := .running }
        activeThread := some thread
        executions :=
          run.executions ++
            [{ origin := .scopedRedo
               thread := thread
               next := some .redoRouter }] }

/-- `run_scoped_redo` up to the start of its graph. -/
def startScopedRedo (run : ServedRun) (preferredIssueIds : List String) :
    ServedRun :=
  if run.detail.redoLimitReached then run.closedAs .completed
  else if run.detail.qaFindings = [] then run
  else
    match selectRedoIssues run.detail preferredIssueIds with
    | [] => run
    | primary :: others =>
        match run.detail.executionMode with
        | .demo =>
            { run.withStatus .running with
              activeThread := some .main
              executions :=
                run.executions ++
                  [{ origin := .scopedRedo
                     thread := .main
                     next := some .planner }] }
        | .real => run.startRedoGraph (mergeRedoScopes primary others)

/-- A coroutine begins. -/
def startTask (run : ServedRun) (index : Nat) : Option ServedRun :=
  let rest := { run with tasks := run.tasks.eraseIdx index }
  match run.tasks[index]? with
  | none => none
  | some .pipeline => some rest.startPipeline
  | some .activityPipeline =>
      if run.settled then some rest else some rest.startPipeline
  | some (.scopedRedo preferredIssueIds) =>
      some (rest.startScopedRedo preferredIssueIds)
  | some (.resume request) => rest.resumeInterruptedGraph request

/-- `_invoke_graph` after its graph and the finalisation that follows. -/
def finishExecution (run : ServedRun) (settings : RunSettings) (index : Nat)
    (execution : Execution) (synced : RunDetail)
    (gateAllowed autoRedo : Bool) : ServedRun :=
  let rest := { run with executions := run.executions.eraseIdx index }
  if run.detail.status = .failed then rest
  else if run.detail.status = .interrupted then
    { rest with
      history :=
        { run.history with
          abandoned := run.history.abandoned ++ [execution.origin] } }
  else
    let finalised :=
      { rest with
        detail := run.detail.withWork synced
        activeThread := none }
    if autoRedo ∧
        autoRedoWanted settings.autoRedoEnabled finalised.detail then
      finalised.startScopedRedo []
    else
      finalised.closedAs
        (if gateAllowed then .completed else .completedWithBlockers)

end

end ServedRun

/-- The steps of a run in the run service. -/
def runStep [PyRuntime] (settings : RunSettings) (run : ServedRun) :
    RunAction → Option ServedRun
  | .startTask index => run.startTask index
  | .node index outcome =>
      match run.executions[index]? with
      | none => none
      | some execution =>
          match execution.next with
          | none => none
          | some node =>
              match node.stage? with
              | none => run.agentNode index execution node outcome
              | some stage =>
                  run.reviewNode settings index execution stage outcome
  | .raised index =>
      match run.executions[index]? with
      | none => none
      | some execution => some (run.failExecution index execution)
  | .endGraph index synced gateAllowed autoRedo =>
      match run.executions[index]? with
      | none => none
      | some execution =>
          if execution.next = none then
            some
              (run.finishExecution settings index execution synced
                gateAllowed autoRedo)
          else none
  | .timeout stage =>
      if stage ∈ run.hitlTimeouts then some (run.autoAcceptAfterTimeout stage)
      else none
  | .read => some run.read
  | .review request systemNote =>
      some (run.resumeReview request systemNote)

end CompetiScope
