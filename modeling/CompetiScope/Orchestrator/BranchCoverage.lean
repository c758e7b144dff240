import CompetiScope.Foundation.Transition
import CompetiScope.Orchestrator.Graph

/-!
# Branch coverage of the analysis graph

A failed collect QA narrows the lists of the graph state to the blocking
dimensions and competitors, and a passed one carries the narrowed lists to the
analysts.  Collectors reach every slice of the plan in any case; which slices
the analysts reach is decided by the blockers of the phase QA outcomes.
-/

namespace CompetiScope

open Foundation

/-- The blockers ask for `value`: one of them names it, or none names a
member of the plan. -/
def NamesTarget (target : QCIssue → Option String) (allowed : List String)
    (blockers : List QCIssue) (value : String) : Prop :=
  (∃ issue ∈ blockers, target issue = some value) ∨
    ∀ issue ∈ blockers, ∀ other ∈ allowed, target issue ≠ some other

/-- The blockers of an outcome ask for this slice again. -/
def NamesBranch (plan : AnalysisPlan) (blockers : List QCIssue)
    (branch : Branch) : Prop :=
  NamesTarget (·.targetSubagent) plan.dimensions blockers branch.dimension ∧
    NamesTarget (·.targetCompetitor) plan.competitors blockers
      branch.competitor

/-- Outcomes that sent a phase back or failed the run. -/
def failedOutcomes (outcomes : List PhaseOutcome) (phase : Phase) :
    List PhaseOutcome :=
  outcomes.filter fun outcome => outcome.phase = phase && outcome.blockers ≠ []

/-- A slice an analyst has to run for: the last failed collect QA asks for it,
or there was none, or some failed analyst QA asks for it. -/
def AnalystScheduled (plan : AnalysisPlan) (outcomes : List PhaseOutcome)
    (branch : Branch) : Prop :=
  (∀ outcome ∈ (failedOutcomes outcomes .collect).getLast?,
      NamesBranch plan outcome.blockers branch) ∨
    ∃ outcome ∈ failedOutcomes outcomes .analyst,
      NamesBranch plan outcome.blockers branch

/-- Every slice of the plan has been collected and analysed. -/
def CoversPlan (run : GraphRun) : Prop :=
  ∀ branch ∈ run.plan.branches,
    branch ∈ run.state.completedCollectorBranches ∧
      branch ∈ run.state.completedAnalystBranches

/-! ## Slices in scope -/

theorem mem_dispatched {state : GraphState} {plan : AnalysisPlan}
    {branch : Branch} :
    branch ∈ state.dispatched plan ↔
      branch.dimension ∈ orElse state.dimensions plan.dimensions ∧
        branch.competitor ∈ orElse state.targetCompetitors plan.competitors :=
  mem_branchesOf

private theorem mem_orElse_congr {left right fallback : List String}
    {value : String} (empty : left = [] ↔ right = [])
    (members : value ∈ left ↔ value ∈ right) :
    value ∈ orElse left fallback ↔ value ∈ orElse right fallback := by
  by_cases none : right = []
  · rw [none, empty.mpr none]
  · rw [orElse_of_ne_nil none, orElse_of_ne_nil (mt empty.mp none), members]

private theorem mem_orElse_orderedUnique {values fallback : List String}
    {value : String} :
    value ∈ orElse (orderedUnique (orElse values fallback)) fallback ↔
      value ∈ orElse values fallback := by
  rw [mem_orElse_congr orderedUnique_eq_nil mem_orderedUnique, orElse_orElse]

@[simp] theorem mem_dispatched_surveyState {state : GraphState}
    {plan : AnalysisPlan} {branch : Branch} :
    branch ∈ (surveyState state plan).dispatched plan ↔
      branch ∈ state.dispatched plan := by
  simp only [mem_dispatched, surveyState, mem_orElse_orderedUnique]

@[simp] theorem mem_dispatched_joinState {state : GraphState}
    {plan : AnalysisPlan} {phase : Phase} {branch : Branch} :
    branch ∈ (joinState state plan phase).dispatched plan ↔
      branch ∈ state.dispatched plan := by
  cases phase with
  | collect => simp only [mem_dispatched, joinState, mem_orElse_orderedUnique]
  | analyst => simp only [mem_dispatched, joinState, mem_orElse_orderedUnique]

theorem dispatched_dispatchState (state : GraphState) (plan : AnalysisPlan) :
    (dispatchState state plan).dispatched plan = state.dispatched plan := by
  simp [GraphState.dispatched, dispatchState]

theorem dispatched_phaseQaState_passed (state : GraphState)
    (plan : AnalysisPlan) (phase : Phase) :
    (phaseQaState state plan phase []).dispatched plan =
      state.dispatched plan := by
  simp [GraphState.dispatched, phaseQaState]

theorem mem_planTargets {target : QCIssue → Option String}
    {allowed : List String} {issues : List QCIssue} {value : String} :
    value ∈ planTargets target allowed issues ↔
      value ∈ allowed ∧ ∃ issue ∈ issues, target issue = some value := by
  simp [planTargets, and_comm]

theorem planTargets_eq_nil {target : QCIssue → Option String}
    {allowed : List String} {issues : List QCIssue} :
    planTargets target allowed issues = [] ↔
      ∀ issue ∈ issues, ∀ other ∈ allowed, target issue ≠ some other := by
  rw [List.eq_nil_iff_forall_not_mem]
  constructor
  · intro none issue member other allowedOther named
    exact none other (mem_planTargets.mpr ⟨allowedOther, issue, member, named⟩)
  · intro none other member
    obtain ⟨allowedOther, issue, issueMember, named⟩ := mem_planTargets.mp member
    exact none issue issueMember other allowedOther named

/-- Falling back to the plan when no blocker names one of its members. -/
theorem mem_orElse_planTargets {target : QCIssue → Option String}
    {allowed : List String} {blockers : List QCIssue} {value : String}
    (member : value ∈ allowed) :
    value ∈ orElse (planTargets target allowed blockers) allowed ↔
      NamesTarget target allowed blockers value := by
  unfold NamesTarget
  rw [← planTargets_eq_nil]
  by_cases none : planTargets target allowed blockers = []
  · simp [none, member]
  · rw [orElse_of_ne_nil none, mem_planTargets]
    simp [none, member]

/-- The scope of a retry consists of the slices its blockers ask for. -/
theorem mem_dispatched_retry {state : GraphState} {plan : AnalysisPlan}
    {phase : Phase} {blockers : List QCIssue} {branch : Branch}
    (blocked : blockers ≠ []) (member : branch ∈ plan.branches) :
    branch ∈ (phaseQaState state plan phase blockers).dispatched plan ↔
      NamesBranch plan blockers branch := by
  obtain ⟨dimension, competitor⟩ := mem_branchesOf.mp member
  have issueScope : issueDimensions plan blockers =
      sortedSet (orElse
        (planTargets (·.targetSubagent) plan.dimensions blockers)
        plan.dimensions) := rfl
  rw [mem_dispatched, phaseQaState, if_neg blocked, issueScope,
    issueTargetCompetitors, mem_orElse_congr sortedSet_eq_nil mem_sortedSet,
    mem_orElse_congr sortedSet_eq_nil mem_sortedSet, orElse_orElse,
    mem_orElse_planTargets dimension, mem_orElse_planTargets competitor]
  exact Iff.rfl

/-! ## How an outcome changes the schedule -/

theorem failedOutcomes_append (outcomes : List PhaseOutcome)
    (outcome : PhaseOutcome) (phase : Phase) :
    failedOutcomes (outcomes ++ [outcome]) phase =
      failedOutcomes outcomes phase ++
        if outcome.phase = phase ∧ outcome.blockers ≠ [] then [outcome]
        else [] := by
  by_cases failed : outcome.phase = phase ∧ outcome.blockers ≠ []
  · simp [failedOutcomes, failed]
  · rw [if_neg failed]
    simp only [failedOutcomes, List.filter_append]
    congr 1
    simpa [and_comm] using failed

theorem analystScheduled_passed {plan : AnalysisPlan}
    {outcomes : List PhaseOutcome} {phase : Phase} {branch : Branch} :
    AnalystScheduled plan
        (outcomes ++
          [{ phase := phase
             blockers := [] }]) branch ↔
      AnalystScheduled plan outcomes branch := by
  simp [AnalystScheduled, failedOutcomes_append]

/-- A failed collect QA decides alone as long as no analyst QA has failed. -/
theorem analystScheduled_collectFailed {plan : AnalysisPlan}
    {outcomes : List PhaseOutcome} {blockers : List QCIssue} {branch : Branch}
    (blocked : blockers ≠ [])
    (noAnalyst : failedOutcomes outcomes .analyst = []) :
    AnalystScheduled plan
        (outcomes ++
          [{ phase := .collect
             blockers := blockers }]) branch ↔
      NamesBranch plan blockers branch := by
  simp [AnalystScheduled, failedOutcomes_append, blocked, noAnalyst]

/-- A failed analyst QA adds the slices it asks for. -/
theorem analystScheduled_analystFailed {plan : AnalysisPlan}
    {outcomes : List PhaseOutcome} {blockers : List QCIssue} {branch : Branch}
    (blocked : blockers ≠ []) :
    AnalystScheduled plan
        (outcomes ++
          [{ phase := .analyst
             blockers := blockers }]) branch ↔
      AnalystScheduled plan outcomes branch ∨
        NamesBranch plan blockers branch := by
  simp [AnalystScheduled, failedOutcomes_append, blocked, or_and_right,
    exists_or, or_assoc]

/-! ## The invariant before the first comparison -/

/-- Every slice has been collected or is among `pending`. -/
def CollectedUpTo (run : GraphRun) (pending : List Branch) : Prop :=
  ∀ branch ∈ run.plan.branches,
    branch ∈ run.state.completedCollectorBranches ∨ branch ∈ pending

/-- The slices analysed or among `pending` are the scheduled ones. -/
def AnalysedUpTo (run : GraphRun) (pending : List Branch) : Prop :=
  ∀ branch ∈ run.plan.branches,
    (branch ∈ run.state.completedAnalystBranches ∨ branch ∈ pending) ↔
      AnalystScheduled run.plan run.outcomes branch

/-- No analyst has run yet, and the scope carried along is the schedule. -/
structure CollectSide (run : GraphRun) : Prop where
  notAnalysed : run.state.completedAnalystBranches = []
  noAnalystFailure : failedOutcomes run.outcomes .analyst = []
  scope : ∀ branch ∈ run.plan.branches,
    branch ∈ run.state.dispatched run.plan ↔
      AnalystScheduled run.plan run.outcomes branch

/-- Before the first fan-out nothing has been narrowed. -/
structure Untouched (run : GraphRun) : Prop where
  targets : run.state.targetCompetitors = []
  notAnalysed : run.state.completedAnalystBranches = []
  outcomes : run.outcomes = []

/-- What holds at each node until the comparator is entered. -/
def CoverageInvariant (run : GraphRun) : Prop :=
  match run.position with
  | .planner | .plannerHitl | .plannerReview => Untouched run
  | .dispatch .collect =>
      CollectSide run ∧ CollectedUpTo run (run.state.dispatched run.plan)
  | .fanOut .collect pending => CollectSide run ∧ CollectedUpTo run pending
  | .join .collect | .surveyInterview | .phaseQa .collect =>
      CollectSide run ∧ CollectedUpTo run []
  | .dispatch .analyst =>
      CollectedUpTo run [] ∧
        AnalysedUpTo run (run.state.dispatched run.plan)
  | .fanOut .analyst pending =>
      CollectedUpTo run [] ∧ AnalysedUpTo run pending
  | .join .analyst | .phaseQa .analyst | .comparator =>
      CollectedUpTo run [] ∧ AnalysedUpTo run []
  | .finished => True
  | _ => False

theorem coverageInvariant_start (record : RunRecord)
    (dimensions : List String) :
    CoverageInvariant (realAnalysisStart record dimensions) :=
  ⟨rfl, rfl, rfl⟩

/-- Leaving the planner checkpoint sends out the whole plan. -/
private theorem planAccepted_coverage {run : GraphRun} (plan : AnalysisPlan)
    (untouched : Untouched run) : CoverageInvariant (run.planAccepted plan) := by
  have everything : ∀ branch ∈ plan.branches,
      branch ∈ (run.planAccepted plan).state.dispatched plan := by
    intro branch member
    rw [mem_dispatched]
    simp only [GraphRun.planAccepted, untouched.targets, orElse_self,
      orElse_nil]
    exact mem_branchesOf.mp member
  have scheduled : ∀ branch,
      AnalystScheduled plan (run.planAccepted plan).outcomes branch := by
    intro branch
    simp [GraphRun.planAccepted, untouched.outcomes, AnalystScheduled,
      failedOutcomes]
  refine ⟨⟨untouched.notAnalysed, ?_, ?_⟩, ?_⟩
  · simp [GraphRun.planAccepted, untouched.outcomes, failedOutcomes]
  · intro branch member
    exact iff_of_true (everything branch member) (scheduled branch)
  · intro branch member
    exact .inr (everything branch member)

private theorem mem_pending_or_completed {pending completed : List Branch}
    {ran branch : Branch} (member : ran ∈ pending) :
    (branch ∈ completed ++ [ran] ∨ branch ∈ pending.erase ran) ↔
      (branch ∈ completed ∨ branch ∈ pending) := by
  by_cases same : branch = ran
  · simp [same, member]
  · simp [same, List.mem_erase_of_ne same]

/-- Steps that keep the scope stay on the collect side. -/
private theorem CollectSide.carry {run after : GraphRun}
    (side : CollectSide run) (plan : after.plan = run.plan)
    (outcomes : after.outcomes = run.outcomes)
    (analysed : after.state.completedAnalystBranches =
      run.state.completedAnalystBranches)
    (scope : ∀ branch, branch ∈ after.state.dispatched run.plan ↔
      branch ∈ run.state.dispatched run.plan) :
    CollectSide after := by
  refine ⟨analysed.trans side.notAnalysed, ?_, ?_⟩
  · rw [outcomes]
    exact side.noAnalystFailure
  · rw [plan, outcomes]
    intro branch member
    exact (scope branch).trans (side.scope branch member)

private theorem dispatched_coverage {run : GraphRun} {phase : Phase}
    (here : run.position = .dispatch phase)
    (invariant : CoverageInvariant run) :
    CoverageInvariant (run.dispatched phase) := by
  cases sent : run.state.dispatched run.plan with
  | nil => simp [CoverageInvariant, GraphRun.dispatched, sent]
  | cons first rest =>
      have next : (run.dispatched phase).position =
          .fanOut phase (first :: rest) := by
        simp [GraphRun.dispatched, sent]
      cases phase with
      | collect =>
          simp only [CoverageInvariant, here, sent] at invariant
          simp only [CoverageInvariant, next]
          obtain ⟨side, collected⟩ := invariant
          refine ⟨side.carry rfl rfl rfl ?_, collected⟩
          intro branch
          exact iff_of_eq
            (congrArg (branch ∈ ·) (dispatched_dispatchState _ _))
      | analyst =>
          simp only [CoverageInvariant, here, sent] at invariant
          simp only [CoverageInvariant, next]
          exact invariant

/-- The position after a branch: the rest of the fan-out, or the join. -/
private def remaining (phase : Phase) : List Branch → Position
  | [] => .join phase
  | first :: rest => .fanOut phase (first :: rest)

private theorem branchDone_position (run : GraphRun) (phase : Phase)
    (pending : List Branch) (branch : Branch) (product : WorkProduct) :
    (run.branchDone phase pending branch product).position =
      remaining phase (pending.erase branch) := by
  unfold GraphRun.branchDone
  cases pending.erase branch with
  | nil => rfl
  | cons first rest => rfl

private theorem coverage_collecting {run : GraphRun} {pending : List Branch}
    (here : run.position = remaining .collect pending)
    (side : CollectSide run) (collected : CollectedUpTo run pending) :
    CoverageInvariant run := by
  cases pending with
  | nil =>
      simp only [CoverageInvariant, here, remaining]
      exact ⟨side, collected⟩
  | cons first rest =>
      simp only [CoverageInvariant, here, remaining]
      exact ⟨side, collected⟩

private theorem coverage_analysing {run : GraphRun} {pending : List Branch}
    (here : run.position = remaining .analyst pending)
    (collected : CollectedUpTo run []) (analysed : AnalysedUpTo run pending) :
    CoverageInvariant run := by
  cases pending with
  | nil =>
      simp only [CoverageInvariant, here, remaining]
      exact ⟨collected, analysed⟩
  | cons first rest =>
      simp only [CoverageInvariant, here, remaining]
      exact ⟨collected, analysed⟩

private theorem branchDone_coverage {run : GraphRun} {phase : Phase}
    {pending : List Branch} {branch : Branch} (product : WorkProduct)
    (here : run.position = .fanOut phase pending) (member : branch ∈ pending)
    (invariant : CoverageInvariant run) :
    CoverageInvariant (run.branchDone phase pending branch product) := by
  have position := branchDone_position run phase pending branch product
  simp only [CoverageInvariant, here] at invariant
  cases phase with
  | collect =>
      obtain ⟨side, collected⟩ := invariant
      apply coverage_collecting position
      · exact side.carry rfl rfl rfl (fun _ => Iff.rfl)
      · intro other planned
        exact (mem_pending_or_completed member).mpr (collected other planned)
  | analyst =>
      obtain ⟨collected, analysed⟩ := invariant
      apply coverage_analysing position collected
      intro other planned
      exact (mem_pending_or_completed member).trans (analysed other planned)

/-- The nodes between a fan-out and the phase QA keep the scope. -/
private theorem worked_coverage {run : GraphRun} {successor : Position}
    {state : GraphState} (product : WorkProduct)
    (work : WorkNode run run.position successor state)
    (early : run.position ≠ .comparator) (invariant : CoverageInvariant run) :
    CoverageInvariant
      { run with
        position := successor
        state := state
        record := run.record.withProduct product } := by
  generalize here : run.position = node at work early
  simp only [CoverageInvariant, here] at invariant
  cases work with
  | join phase =>
      cases phase with
      | collect =>
          obtain ⟨side, collected⟩ := invariant
          exact ⟨side.carry rfl rfl rfl fun _ => mem_dispatched_joinState,
            collected⟩
      | analyst => exact invariant
  | survey =>
      obtain ⟨side, collected⟩ := invariant
      exact ⟨side.carry rfl rfl rfl fun _ => mem_dispatched_surveyState,
        collected⟩
  | comparator => exact (early rfl).elim
  | reflector => exact invariant.elim

section

variable [PyRuntime]

private theorem collectQa_coverage {run : GraphRun} (findings : List QCIssue)
    (product : WorkProduct) (here : run.position = .phaseQa .collect)
    (invariant : CoverageInvariant run) :
    CoverageInvariant (phaseQaNode run .collect findings product) := by
  simp only [CoverageInvariant, here] at invariant
  obtain ⟨side, collected⟩ := invariant
  have plan : (phaseQaNode run .collect findings product).plan = run.plan :=
    (phaseQaNode_sameSettings run .collect findings product).plan
  have position := phaseQaNode_position run .collect findings product
  by_cases clear : phaseBlockers findings .collect = []
  · -- Passed: the lists carried along are the scope of the analysts.
    rw [if_pos clear] at position
    simp only [CoverageInvariant, position, Phase.successor]
    unfold CollectedUpTo AnalysedUpTo
    rw [plan]
    simp only [phaseQaNode, clear, dispatched_phaseQaState_passed,
      analystScheduled_passed]
    refine ⟨collected, ?_⟩
    intro branch member
    rw [← side.scope branch member]
    simp [phaseQaState, side.notAnalysed]
  · rw [if_neg clear] at position
    split at position
    · simp only [CoverageInvariant, position]
    · -- Sent back: the blockers replace the scope.
      simp only [CoverageInvariant, position]
      have completed : (phaseQaNode run .collect findings product).state =
          phaseQaState run.state run.plan .collect
            (phaseBlockers findings .collect) := rfl
      have kept : ∀ branch ∈ run.plan.branches, branch ∈
          (phaseQaNode run .collect findings
            product).state.completedCollectorBranches := by
        intro branch member
        rw [completed, phaseQaState, if_neg clear]
        simpa [GraphState.setAttempts] using collected branch member
      refine ⟨⟨?_, ?_, ?_⟩, ?_⟩
      · rw [completed, phaseQaState, if_neg clear]
        exact side.notAnalysed
      · simp [phaseQaNode, failedOutcomes_append, side.noAnalystFailure]
      · rw [plan]
        intro branch member
        rw [completed, mem_dispatched_retry clear member]
        exact (analystScheduled_collectFailed clear side.noAnalystFailure).symm
      · intro branch member
        rw [plan] at member
        exact .inl (kept branch member)

private theorem analystQa_coverage {run : GraphRun} (findings : List QCIssue)
    (product : WorkProduct) (here : run.position = .phaseQa .analyst)
    (invariant : CoverageInvariant run) :
    CoverageInvariant (phaseQaNode run .analyst findings product) := by
  simp only [CoverageInvariant, here] at invariant
  obtain ⟨collected, analysed⟩ := invariant
  have plan : (phaseQaNode run .analyst findings product).plan = run.plan :=
    (phaseQaNode_sameSettings run .analyst findings product).plan
  have position := phaseQaNode_position run .analyst findings product
  by_cases clear : phaseBlockers findings .analyst = []
  · rw [if_pos clear] at position
    simp only [CoverageInvariant, position, Phase.successor]
    unfold CollectedUpTo AnalysedUpTo
    rw [plan]
    simp only [phaseQaNode, clear, analystScheduled_passed]
    exact ⟨collected, analysed⟩
  · rw [if_neg clear] at position
    split at position
    · simp only [CoverageInvariant, position]
    · -- Sent back: the slices the blockers ask for are added.
      simp only [CoverageInvariant, position]
      unfold CollectedUpTo AnalysedUpTo
      rw [plan]
      refine ⟨?_, ?_⟩
      · intro branch member
        simpa [phaseQaNode, phaseQaState, clear, GraphState.setAttempts]
          using collected branch member
      · intro branch member
        have before := analysed branch member
        simp only [phaseQaNode, mem_dispatched_retry clear member,
          analystScheduled_analystFailed clear, ← before]
        simp [phaseQaState, clear, GraphState.setAttempts]

/-- One step before the first comparison keeps the invariant. -/
theorem graphStep_coverage {run next : GraphRun} {answer : Answer}
    (invariant : CoverageInvariant run) (early : run.position ≠ .comparator)
    (stepped : graphStep run answer = some next) : CoverageInvariant next := by
  cases graphStep_cases stepped with
  | raised here => exact trivial
  | routed here => simp [CoverageInvariant, here] at invariant
  | planned discovered here found =>
      simp only [CoverageInvariant, here] at invariant
      exact ⟨invariant.targets, invariant.notAnalysed, invariant.outcomes⟩
  | planPassed here =>
      simp only [CoverageInvariant, here] at invariant
      exact planAccepted_coverage run.plan invariant
  | planSuspended here =>
      simp only [CoverageInvariant, here] at invariant
      exact ⟨invariant.targets, invariant.notAnalysed, invariant.outcomes⟩
  | planReviewed request here =>
      simp only [CoverageInvariant, here] at invariant
      exact planAccepted_coverage _
        ⟨invariant.targets, invariant.notAnalysed, invariant.outcomes⟩
  | dispatched phase here => exact dispatched_coverage here invariant
  | branchDone product here member =>
      exact branchDone_coverage product here member invariant
  | worked product here work =>
      rw [← here] at work
      exact worked_coverage product work early invariant
  | phaseJudged phase findings product here =>
      cases phase with
      | collect => exact collectQa_coverage findings product here invariant
      | analyst => exact analystQa_coverage findings product here invariant
  | written product failed here => simp [CoverageInvariant, here] at invariant
  | judged findings product here => simp [CoverageInvariant, here] at invariant
  | finalPassed here => simp [CoverageInvariant, here] at invariant
  | finalSuspended here => simp [CoverageInvariant, here] at invariant
  | finalReviewed request here =>
      simp [CoverageInvariant, here] at invariant

/-- At the first comparison every slice of the plan has been collected, and
all of them have been analysed exactly when the blockers of the phase QA
outcomes left none out. -/
theorem coversPlan_iff_scheduled {record : RunRecord}
    {dimensions : List String} {answers : List Answer} {final : GraphRun}
    (run : exec graphStep (realAnalysisStart record dimensions) answers =
      some final)
    (first : Along graphStep (fun run _ => run.position ≠ .comparator)
      (realAnalysisStart record dimensions) answers)
    (entered : final.position = .comparator) :
    CoversPlan final ↔
      ∀ branch ∈ final.plan.branches,
        AnalystScheduled final.plan final.outcomes branch := by
  have invariant : CoverageInvariant final :=
    exec_invariant_along
      (fun run answer next holds early stepped =>
        graphStep_coverage holds early stepped)
      (coverageInvariant_start record dimensions) first run
  simp only [CoverageInvariant, entered] at invariant
  obtain ⟨collected, analysed⟩ := invariant
  constructor
  · intro covers branch member
    exact (analysed branch member).mp (.inl (covers branch member).2)
  · intro scheduled branch member
    refine ⟨?_, ?_⟩
    · simpa using collected branch member
    · simpa using (analysed branch member).mpr (scheduled branch member)

end

/-- A plan with one slice, collected and analysed without blockers. -/
def oneSliceRecord : RunRecord :=
  { detail :=
      { id := "run-1"
        plan :=
          { competitors := ["Acme"]
            dimensions := ["pricing"] } } }

def oneSliceAnswers : List Answer :=
  [.planned [], .proceed, .proceed, .branch ⟨"pricing", "Acme"⟩ {},
    .worked {}, .worked {}, .judged [] {}, .proceed,
    .branch ⟨"pricing", "Acme"⟩ {}, .worked {}, .judged [] {}]

theorem coversPlan_oneSlice :
    ∃ final,
      exec (@graphStep asciiRuntime) (realAnalysisStart oneSliceRecord [])
        oneSliceAnswers = some final ∧ CoversPlan final := by
  refine ⟨_, rfl, ?_⟩
  refine (@coversPlan_iff_scheduled asciiRuntime oneSliceRecord []
    oneSliceAnswers _ rfl (by decide) rfl).mpr ?_
  intro branch _
  left
  intro outcome member
  cases member

/-- Collect QA sends one dimension back and passes; the analysts then run for
that dimension alone.  Analyst QA asks for one slice of the other dimension,
and its second slice is never analysed. -/
def narrowedRecord : RunRecord :=
  { detail :=
      { id := "run-1"
        plan :=
          { competitors := ["Acme", "Bolt"]
            dimensions := ["pricing", "features"] } } }

def narrowedAnswers : List Answer :=
  let collectBlocker : QCIssue :=
    { id := "Q1"
      severity := .blocker
      detectedBy := .coverage
      targetAgent := "collector"
      targetSubagent := some "pricing"
      redoScope := { kind := .collector } }
  let analystBlocker : QCIssue :=
    { id := "Q2"
      severity := .blocker
      detectedBy := .coverage
      targetAgent := "analyst"
      targetSubagent := some "features"
      targetCompetitor := some "Acme"
      redoScope := { kind := .analyst } }
  let collectPricing : List Answer :=
    [.branch ⟨"pricing", "Acme"⟩ {}, .branch ⟨"pricing", "Bolt"⟩ {}]
  [.planned [], .proceed, .proceed] ++ collectPricing ++
    [.branch ⟨"features", "Acme"⟩ {}, .branch ⟨"features", "Bolt"⟩ {},
      .worked {}, .worked {}, .judged [collectBlocker] {}, .proceed] ++
    collectPricing ++ [.worked {}, .worked {}, .judged [] {}, .proceed] ++
    collectPricing ++ [.worked {}, .judged [analystBlocker] {}, .proceed,
      .branch ⟨"features", "Acme"⟩ {}, .worked {}, .judged [] {}]

theorem coversPlan_fails_after_narrowedRetry :
    ¬ ∀ (record : RunRecord) (dimensions : List String)
        (answers : List Answer) (final : GraphRun),
        exec (@graphStep asciiRuntime) (realAnalysisStart record dimensions)
          answers = some final →
        Along (@graphStep asciiRuntime)
          (fun run _ => run.position ≠ .comparator)
          (realAnalysisStart record dimensions) answers →
        final.position = .comparator → CoversPlan final := by
  intro covers
  have covered := covers narrowedRecord [] narrowedAnswers _ rfl (by decide)
    rfl
  have lost := (covered ⟨"features", "Bolt"⟩ (by decide)).2
  revert lost
  decide

end CompetiScope
