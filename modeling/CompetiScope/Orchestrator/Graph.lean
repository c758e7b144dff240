import CompetiScope.Orchestrator.FinalQa

/-!
# The analysis graph

`orchestrator/graph.py`: the nodes of the real analysis graph and of the
scoped redo graph as one step function.  The two graphs differ in their entry
only.  What agents and reviewers do is an answer supplied from outside; a
fan-out runs its branches one after another in an order the answers choose.
-/

namespace CompetiScope

open Foundation

/-- Where a run of the graph stands. -/
inductive Position where
  | redoRouter
  | planner
  | plannerHitl
  /-- Suspended inside `planner_hitl`. -/
  | plannerReview
  /-- `collector_dispatch` and `analyst_dispatch`. -/
  | dispatch (phase : Phase)
  /-- The `collector` or `analyst` branches that still have to run. -/
  | fanOut (phase : Phase) (pending : List Branch)
  /-- `collect_join` and `analyst_join`. -/
  | join (phase : Phase)
  | surveyInterview
  /-- `collect_qa` and `analyst_qa` with their conditional edges. -/
  | phaseQa (phase : Phase)
  | comparator
  | reflector
  | writer
  | qa
  | qaHitl
  /-- Suspended inside `qa_hitl`. -/
  | qaReview
  | finished
  deriving DecidableEq

/-- The outputs an agent may rewrite while its node runs. -/
structure WorkProduct where
  rawSources : List RawSource := []
  competitorKbs : Dict String CompetitorKB := ∅
  competitorKnowledge : Dict String CompetitorKnowledge := ∅
  comparisonMatrix : Option ComparisonMatrix := none
  reflections : List ReflectionRecord := []
  reportMd : String := ""

/-- What the environment of the graph decides in one step. -/
inductive Answer where
  /-- A node without a decision of its own. -/
  | proceed
  /-- The planner ran; `discovered` are the competitors it found. -/
  | planned (discovered : List String)
  /-- An agent node ran. -/
  | worked (product : WorkProduct)
  /-- One branch of the fan-out ran. -/
  | branch (branch : Branch) (product : WorkProduct)
  /-- A QA node ran and left these findings. -/
  | judged (findings : List QCIssue) (product : WorkProduct)
  /-- The writer ran; `failed` when it gave up on the report. -/
  | written (product : WorkProduct) (failed : Bool)
  | suspend
  | resume (request : HitlResumeRequest)
  /-- The node raised an exception. -/
  | raised

/-- Blockers found by a phase QA node. -/
structure PhaseOutcome where
  phase : Phase
  blockers : List QCIssue
  deriving DecidableEq

/-- A run of the graph.  `outcomes` lists the phase QA outcomes so far; it is
a history of the run that no node reads. -/
structure GraphRun where
  position : Position
  state : GraphState
  record : RunRecord
  outcomes : List PhaseOutcome := []

namespace GraphState

def attempts (state : GraphState) : Phase → Nat
  | .collect => state.collectQaAttempts
  | .analyst => state.analystQaAttempts

def setAttempts (state : GraphState) (attempts : Nat) : Phase → GraphState
  | .collect => { state with collectQaAttempts := attempts }
  | .analyst => { state with analystQaAttempts := attempts }

def complete (state : GraphState) (branch : Branch) : Phase → GraphState
  | .collect =>
      { state with
        completedCollectorBranches :=
          state.completedCollectorBranches ++ [branch] }
  | .analyst =>
      { state with
        completedAnalystBranches :=
          state.completedAnalystBranches ++ [branch] }

end GraphState

namespace RunRecord

def withProduct (record : RunRecord) (product : WorkProduct) : RunRecord :=
  { record with
    detail :=
      { record.detail with
        rawSources := product.rawSources
        competitorKbs := product.competitorKbs
        competitorKnowledge := product.competitorKnowledge
        comparisonMatrix := product.comparisonMatrix
        reflections := product.reflections
        reportMd := product.reportMd } }

def withFindings (record : RunRecord) (findings : List QCIssue) : RunRecord :=
  { record with detail := { record.detail with qaFindings := findings } }

def withStatus (record : RunRecord) (status : RunStatus) : RunRecord :=
  { record with detail := { record.detail with status := status } }

/-- `_maybe_interrupt` before it suspends the graph. -/
def interruptedAt (record : RunRecord) (node : String) : RunRecord :=
  { record with
    detail :=
      { record.detail with
        status := .interrupted
        currentNode := some node } }

def withPlan (record : RunRecord) (plan : AnalysisPlan) : RunRecord :=
  { record with detail := { record.detail with plan := plan } }

end RunRecord

/-- The planner fills in the competitors of a topic-only run. -/
def plannedBy (plan : AnalysisPlan) (discovered : List String) :
    AnalysisPlan :=
  { plan with competitors := orElse plan.competitors discovered }

/-- The plan after the reviewer's answer at the planner checkpoint. -/
def reviewedPlan (plan : AnalysisPlan) (request : HitlResumeRequest) :
    AnalysisPlan :=
  { competitors := request.competitors.getD plan.competitors
    dimensions := orElse request.dimensions plan.dimensions }

/-- The node a redo kind leads to, in `route_redo` and `_route_final_qa`. -/
def redoEntry : RedoKind → Position
  | .writerOnly => .writer
  | .comparator => .comparator
  | .analyst => .dispatch .analyst
  | .collector => .dispatch .collect
  | .full => .planner

/-- The edge taken when a phase passes its QA. -/
def Phase.successor : Phase → Position
  | collect => .dispatch .analyst
  | analyst => .comparator

/-- The node after the join of a phase. -/
def Phase.afterJoin : Phase → Position
  | collect => .surveyInterview
  | analyst => .phaseQa .analyst

def PhaseRoute.position (route : PhaseRoute) (phase : Phase) : Position :=
  match route with
  | .retry => .dispatch phase
  | .pass => phase.successor
  | .fail => .finished

/-- The state returned by `collect_qa` and `analyst_qa`. -/
def phaseQaState (state : GraphState) (plan : AnalysisPlan) (phase : Phase)
    (blockers : List QCIssue) : GraphState :=
  if blockers = [] then
    { state with dimensions := orElse state.dimensions plan.dimensions }
  else
    { state.setAttempts (state.attempts phase + 1) phase with
      dimensions := issueDimensions plan blockers
      targetCompetitors := issueTargetCompetitors plan blockers }

/-- The state after a join node; only `analyst_join` rewrites the targets. -/
def joinState (state : GraphState) (plan : AnalysisPlan) (phase : Phase) :
    GraphState :=
  { state with
    dimensions := orderedUnique (orElse state.dimensions plan.dimensions)
    targetCompetitors :=
      match phase with
      | .collect => state.targetCompetitors
      | .analyst =>
          orderedUnique (orElse state.targetCompetitors plan.competitors) }

def surveyState (state : GraphState) (plan : AnalysisPlan) : GraphState :=
  { state with
    dimensions := orderedUnique (orElse state.dimensions plan.dimensions)
    targetCompetitors :=
      orderedUnique (orElse state.targetCompetitors plan.competitors) }

def dispatchState (state : GraphState) (plan : AnalysisPlan) : GraphState :=
  { state with
    dimensions := orElse state.dimensions plan.dimensions
    targetCompetitors := orElse state.targetCompetitors plan.competitors }

namespace GraphRun

def plan (run : GraphRun) : AnalysisPlan :=
  run.record.detail.plan

/-- The exception handler of `run_pipeline` and `run_scoped_redo`. -/
def fail (run : GraphRun) : GraphRun :=
  { run with
    position := .finished
    record :=
      { run.record with
        detail :=
          { run.record.detail with
            status := .failed
            currentNode := none } } }

/-- `resume` puts the run back to work before the graph goes on. -/
def resumed (run : GraphRun) : GraphRun :=
  { run with record := run.record.withStatus .running }

/-- Leaving `planner_hitl` under a plan. -/
def planAccepted (run : GraphRun) (plan : AnalysisPlan) : GraphRun :=
  { run with
    position := .dispatch .collect
    state := { run.state with dimensions := plan.dimensions }
    record := run.record.withPlan plan }

/-- The writer node with `_route_after_writer`. -/
def written (run : GraphRun) (product : WorkProduct) (failed : Bool) :
    GraphRun :=
  let produced := run.record.withProduct product
  let record := if failed then produced.withStatus .failed else produced
  { run with
    position :=
      if record.detail.status ∈ [.failed, .interrupted] then .finished
      else .qa
    record := record }

/-- A dispatch node; a fan-out without branches ends the graph. -/
def dispatched (run : GraphRun) (phase : Phase) : GraphRun :=
  { run with
    position :=
      match run.state.dispatched run.plan with
      | [] => .finished
      | first :: rest => .fanOut phase (first :: rest)
    state := dispatchState run.state run.plan }

/-- One branch of the fan-out has run. -/
def branchDone (run : GraphRun) (phase : Phase) (pending : List Branch)
    (branch : Branch) (product : WorkProduct) : GraphRun :=
  { run with
    position :=
      match pending.erase branch with
      | [] => .join phase
      | first :: rest => .fanOut phase (first :: rest)
    state := run.state.complete branch phase
    record := run.record.withProduct product }

end GraphRun

section

variable [PyRuntime]

/-- A phase QA node with its conditional edge. -/
def phaseQaNode (run : GraphRun) (phase : Phase) (findings : List QCIssue)
    (product : WorkProduct) : GraphRun :=
  let detail := ((run.record.withProduct product).withFindings findings).detail
  let blockers := phaseBlockers findings phase
  let state := phaseQaState run.state run.plan phase blockers
  let routed := routePhaseQa detail (state.attempts phase) phase
  { position := routed.2.position phase
    state := state
    record := { run.record with detail := routed.1 }
    outcomes :=
      run.outcomes ++
        [{ phase := phase
           blockers := blockers }] }

/-- The `qa_hitl` node once an answer is there; a raised error fails the
run. -/
def finalDecision (run : GraphRun) (request : HitlResumeRequest) : GraphRun :=
  match qaHitlNode run.record run.state request with
  | .error _ => run.fail
  | .ok (record, state) =>
      { run with
        position :=
          match state.redoKind with
          | none => .finished
          | some kind => redoEntry kind
        state := state
        record := record }

/-- One node, or one branch of a fan-out; `none` when the answer does not fit
the node. -/
def GraphRun.node (run : GraphRun) : Position → Answer → Option GraphRun
  | .redoRouter, .proceed =>
      let kind := run.state.redoKind.getD .full
      some
        { run with
          position := redoEntry kind
          state := { run.state with redoKind := some kind } }
  | .planner, .planned discovered =>
      let plan := plannedBy run.plan discovered
      if plan.competitors = [] then none
      else
        some
          { run with
            position := .plannerHitl
            state := { run.state with dimensions := plan.dimensions }
            record := run.record.withPlan plan }
  | .plannerHitl, .proceed =>
      if run.record.detail.hitlEnabled then none
      else some (run.planAccepted run.plan)
  | .plannerHitl, .suspend =>
      if run.record.detail.hitlEnabled then
        some
          { run with
            position := .plannerReview
            record := run.record.interruptedAt "planner_hitl" }
      else none
  | .plannerReview, .resume request =>
      some (run.resumed.planAccepted (reviewedPlan run.plan request))
  | .dispatch phase, .proceed => some (run.dispatched phase)
  | .fanOut phase pending, .branch branch product =>
      if branch ∈ pending then
        some (run.branchDone phase pending branch product)
      else none
  | .join phase, .worked product =>
      some
        { run with
          position := phase.afterJoin
          state := joinState run.state run.plan phase
          record := run.record.withProduct product }
  | .surveyInterview, .worked product =>
      some
        { run with
          position := .phaseQa .collect
          state := surveyState run.state run.plan
          record := run.record.withProduct product }
  | .phaseQa phase, .judged findings product =>
      some (phaseQaNode run phase findings product)
  | .comparator, .worked product =>
      some
        { run with
          position := .reflector
          record := run.record.withProduct product }
  | .reflector, .worked product =>
      some
        { run with
          position := .writer
          record := run.record.withProduct product }
  | .writer, .written product failed => some (run.written product failed)
  | .qa, .judged findings product =>
      some
        { run with
          position := .qaHitl
          record := (run.record.withProduct product).withFindings findings }
  | .qaHitl, .proceed =>
      if run.record.detail.hitlEnabled then none
      else some (finalDecision run { decision := .accept })
  | .qaHitl, .suspend =>
      if run.record.detail.hitlEnabled then
        some
          { run with
            position := .qaReview
            record := run.record.interruptedAt "qa_hitl" }
      else none
  | .qaReview, .resume request => some (finalDecision run.resumed request)
  | _, _ => none

/-- One step of the analysis graph. -/
def graphStep (run : GraphRun) (answer : Answer) : Option GraphRun :=
  match answer with
  | .raised => if run.position = .finished then none else some run.fail
  | answer => run.node run.position answer

/-! ## What a step can do -/

theorem phaseQaNode_sameSettings (run : GraphRun) (phase : Phase)
    (findings : List QCIssue) (product : WorkProduct) :
    run.record.detail.SameSettings
      (phaseQaNode run phase findings product).record.detail := by
  have judged : run.record.detail.SameSettings
      ((run.record.withProduct product).withFindings findings).detail :=
    ⟨rfl, rfl, rfl, rfl⟩
  exact judged.trans (routePhaseQa_sameSettings _ _ phase)

/-- The conditional edges of `collect_qa` and `analyst_qa`. -/
theorem phaseQaNode_position (run : GraphRun) (phase : Phase)
    (findings : List QCIssue) (product : WorkProduct) :
    (phaseQaNode run phase findings product).position =
      if phaseBlockers findings phase = [] then phase.successor
      else if run.record.detail.maxIterations ≤ run.state.attempts phase + 1
      then .finished
      else .dispatch phase := by
  by_cases clear : phaseBlockers findings phase = []
  · simp [phaseQaNode, routePhaseQa, blockingPhaseIssues,
      RunRecord.withFindings, clear, PhaseRoute.position]
  · have counted : (phaseQaState run.state run.plan phase
        (phaseBlockers findings phase)).attempts phase =
        run.state.attempts phase + 1 := by
      cases phase <;> simp [phaseQaState, clear, GraphState.attempts,
        GraphState.setAttempts]
    simp only [phaseQaNode, routePhaseQa, blockingPhaseIssues, counted,
      RunRecord.withFindings, RunRecord.withProduct, clear, if_false]
    split
    · rfl
    · rfl

/-- The nodes that hand the outputs on without routing. -/
inductive WorkNode (run : GraphRun) :
    Position → Position → GraphState → Prop where
  | join (phase : Phase) :
      WorkNode run (.join phase) phase.afterJoin
        (joinState run.state run.plan phase)
  | survey :
      WorkNode run .surveyInterview (.phaseQa .collect)
        (surveyState run.state run.plan)
  | comparator : WorkNode run .comparator .reflector run.state
  | reflector : WorkNode run .reflector .writer run.state

/-- One case for every transition of the graph. -/
inductive StepOf (run : GraphRun) : Answer → GraphRun → Prop where
  | raised (here : run.position ≠ .finished) : StepOf run .raised run.fail
  | routed (here : run.position = .redoRouter) :
      StepOf run .proceed
        { run with
          position := redoEntry (run.state.redoKind.getD .full)
          state :=
            { run.state with
              redoKind := some (run.state.redoKind.getD .full) } }
  | planned (discovered : List String) (here : run.position = .planner)
      (found : (plannedBy run.plan discovered).competitors ≠ []) :
      StepOf run (.planned discovered)
        { run with
          position := .plannerHitl
          state :=
            { run.state with
              dimensions := (plannedBy run.plan discovered).dimensions }
          record := run.record.withPlan (plannedBy run.plan discovered) }
  | planPassed (here : run.position = .plannerHitl) :
      StepOf run .proceed (run.planAccepted run.plan)
  | planSuspended (here : run.position = .plannerHitl) :
      StepOf run .suspend
        { run with
          position := .plannerReview
          record := run.record.interruptedAt "planner_hitl" }
  | planReviewed (request : HitlResumeRequest)
      (here : run.position = .plannerReview) :
      StepOf run (.resume request)
        (run.resumed.planAccepted (reviewedPlan run.plan request))
  | dispatched (phase : Phase) (here : run.position = .dispatch phase) :
      StepOf run .proceed (run.dispatched phase)
  | branchDone {phase : Phase} {pending : List Branch} {branch : Branch}
      (product : WorkProduct) (here : run.position = .fanOut phase pending)
      (member : branch ∈ pending) :
      StepOf run (.branch branch product)
        (run.branchDone phase pending branch product)
  | worked {node successor : Position} {state : GraphState}
      (product : WorkProduct) (here : run.position = node)
      (work : WorkNode run node successor state) :
      StepOf run (.worked product)
        { run with
          position := successor
          state := state
          record := run.record.withProduct product }
  | phaseJudged (phase : Phase) (findings : List QCIssue)
      (product : WorkProduct) (here : run.position = .phaseQa phase) :
      StepOf run (.judged findings product)
        (phaseQaNode run phase findings product)
  | written (product : WorkProduct) (failed : Bool)
      (here : run.position = .writer) :
      StepOf run (.written product failed) (run.written product failed)
  | judged (findings : List QCIssue) (product : WorkProduct)
      (here : run.position = .qa) :
      StepOf run (.judged findings product)
        { run with
          position := .qaHitl
          record := (run.record.withProduct product).withFindings findings }
  | finalPassed (here : run.position = .qaHitl) :
      StepOf run .proceed (finalDecision run { decision := .accept })
  | finalSuspended (here : run.position = .qaHitl) :
      StepOf run .suspend
        { run with
          position := .qaReview
          record := run.record.interruptedAt "qa_hitl" }
  | finalReviewed (request : HitlResumeRequest)
      (here : run.position = .qaReview) :
      StepOf run (.resume request) (finalDecision run.resumed request)

private theorem node_cases {run next : GraphRun} {answer : Answer}
    {position : Position} (here : run.position = position)
    (stepped : run.node position answer = some next) :
    StepOf run answer next := by
  revert stepped
  fun_cases GraphRun.node run position answer
  all_goals
    intro stepped
    cases stepped
  · exact .routed here
  · next discovered _ found => exact .planned discovered here found
  · exact .planPassed here
  · exact .planSuspended here
  · next request => exact .planReviewed request here
  · next phase => exact .dispatched phase here
  · next product member => exact .branchDone product here member
  · next phase product => exact .worked product here (.join phase)
  · next product => exact .worked product here .survey
  · next phase findings product => exact .phaseJudged phase findings product here
  · next product => exact .worked product here .comparator
  · next product => exact .worked product here .reflector
  · next product failed => exact .written product failed here
  · next findings product => exact .judged findings product here
  · exact .finalPassed here
  · exact .finalSuspended here
  · next request => exact .finalReviewed request here

theorem graphStep_cases {run next : GraphRun} {answer : Answer}
    (stepped : graphStep run answer = some next) : StepOf run answer next := by
  cases answer with
  | raised =>
      simp only [graphStep] at stepped
      split at stepped
      · cases stepped
      · next here =>
          cases stepped
          exact .raised here
  | _ => exact node_cases rfl stepped

end

/-! ## Entries -/

/-- `_run_real_pipeline`: the graph starts at the planner without targets. -/
def realAnalysisStart (record : RunRecord) (dimensions : List String) :
    GraphRun :=
  { position := .planner
    state := { dimensions := dimensions }
    record := record.withStatus .running }

/-- `_run_real_scoped_redo`: the graph starts at the redo router. -/
def scopedRedoStart (record : RunRecord) (kind : RedoKind)
    (redo : PreparedRedo) : GraphRun :=
  { position := .redoRouter
    state :=
      { dimensions := redo.dimensions
        targetCompetitors := redo.targetCompetitors
        redoKind := some kind }
    record := { record with detail := redo.detail } }

end CompetiScope
