import CompetiScope.Workflows.ApprovalRetries

/-!
# The approval workflow of a report version

Signals of reviewers set one field of the workflow at any time.  The workflow
wakes when the field is set, takes its value and has it applied; the state
query reads the field again.  The list of approvers is recorded with the
request and never compared with a signal.
-/

namespace CompetiScope

open Foundation

/-- `_ApprovalSignal`. -/
structure ApprovalSignal where
  decision : ApprovalDecision
  approverId : String
  note : String := ""
  deriving DecidableEq

/-- The activity that applies a signalled decision. -/
def ApprovalSignal.activity (signal : ApprovalSignal)
    (reportVersionId : String) : ApprovalActivity :=
  let input : ReportApprovalDecisionInput :=
    { reportVersionId := reportVersionId
      approverId := signal.approverId
      note := signal.note }
  match signal.decision with
  | .approved => .approve input
  | .rejected => .reject input

/-- `ReportApprovalWorkflowResult`; the decision `none` is `timed_out`. -/
structure ReportApprovalWorkflowResult where
  reportVersionId : String
  workspaceId : String
  projectId : String
  decision : Option ApprovalDecision
  finalStatus : ReportStatus
  approverId : Option String := none
  note : String := ""
  deriving DecidableEq

/-- `_approval_result`. -/
def approvalResult (state : ReportApprovalState)
    (decision : Option ApprovalDecision) (approverId : Option String)
    (note : String) : ReportApprovalWorkflowResult :=
  { reportVersionId := state.reportVersionId
    workspaceId := state.workspaceId
    projectId := state.projectId
    decision := decision
    finalStatus := state.status
    approverId := approverId
    note := note }

/-- Where the workflow is; activities count their failed attempts, and a
closed workflow without result has failed. -/
inductive ApprovalStage where
  | initialized
  | requesting (attempts : Nat)
  | waiting (requested : ReportApprovalState)
  | applying (taken : ApprovalSignal) (attempts : Nat)
  | closed (result : Option ReportApprovalWorkflowResult)
  deriving DecidableEq

/-- `_status`. -/
inductive ApprovalWorkflowStatus where
  | initialized
  | running
  | waiting
  | timedOut
  | completed
  deriving DecidableEq

/-- A `ReportApprovalWorkflow` with the store its activities write;
`applied` are the decisions they have applied. -/
structure ReportApprovalRun where
  input : ReportApprovalWorkflowInput
  store : EnterpriseReports
  decision : Option ApprovalSignal := none
  approverId : Option String := none
  status : ApprovalWorkflowStatus := .initialized
  stage : ApprovalStage := .initialized
  applied : List ApprovalSignal := []

/-- The answer of the `state` query. -/
structure ReportApprovalQuery where
  status : ApprovalWorkflowStatus
  approverId : Option String
  decision : Option ApprovalDecision
  deriving DecidableEq

def ReportApprovalRun.query (run : ReportApprovalRun) :
    ReportApprovalQuery :=
  { status := run.status
    approverId := run.approverId
    decision := run.decision.map (·.decision) }

inductive ReportApprovalAction where
  | start
  | signal (signal : ApprovalSignal)
  | wake
  | timeout
  /-- An attempt of the activity in progress: whether it is executed, whether
  its acknowledgement arrives, and what the release gate answers. -/
  | attempt (executed acknowledged : Bool) (gate : ReportReleaseGate)
      (now : Nat)

/-- `maximum_attempts` of the retry policy. -/
def maximumAttempts : Nat :=
  3

/-- The stage after a failed or lost attempt. -/
def retryOrFail (stage : Nat → ApprovalStage) (attempts : Nat) :
    ApprovalStage :=
  if attempts + 1 = maximumAttempts then .closed none
  else stage (attempts + 1)

section

variable (sha256Hex : String → String)

/-- What an attempt answers, when it is executed and succeeds. -/
def ReportApprovalRun.attempt (run : ReportApprovalRun)
    (activity : ApprovalActivity) (executed : Bool)
    (gate : ReportReleaseGate) (now : Nat) :
    Option (EnterpriseReports × ReportApprovalState) :=
  if executed then activity.execute sha256Hex run.store gate now else none

def reportApprovalStep (run : ReportApprovalRun) :
    ReportApprovalAction → Option ReportApprovalRun
  | .start =>
      match run.stage with
      | .initialized =>
          some
            { run with
              status := .running
              stage := .requesting 0 }
      | _ => none
  | .signal signal =>
      match run.stage with
      | .closed _ => none
      | _ => some { run with decision := some signal }
  | .wake =>
      match run.stage, run.decision with
      | .waiting _, some decision =>
          some
            { run with
              approverId := some decision.approverId
              stage := .applying decision 0 }
      | _, _ => none
  | .timeout =>
      match run.stage, run.decision with
      | .waiting requested, none =>
          some
            { run with
              status := .timedOut
              stage := .closed
                (some (approvalResult requested none none "")) }
      | _, _ => none
  | .attempt executed acknowledged gate now =>
      match run.stage with
      | .requesting attempts =>
          match run.attempt sha256Hex (.request run.input) executed gate
              now with
          | none =>
              some { run with stage := retryOrFail .requesting attempts }
          | some (store, state) =>
              if acknowledged then
                some
                  { run with
                    store := store
                    status := .waiting
                    stage := .waiting state }
              else
                some
                  { run with
                    store := store
                    stage := retryOrFail .requesting attempts }
      | .applying taken attempts =>
          match run.attempt sha256Hex
              (taken.activity run.input.reportVersionId) executed gate
              now with
          | none =>
              some
                { run with stage := retryOrFail (.applying taken) attempts }
          | some (store, state) =>
              if acknowledged then
                some
                  { run with
                    store := store
                    status := .completed
                    stage := .closed
                      (some (approvalResult state (some taken.decision)
                        (some taken.approverId) taken.note))
                    applied := run.applied ++ [taken] }
              else
                some
                  { run with
                    store := store
                    stage := retryOrFail (.applying taken) attempts
                    applied := run.applied ++ [taken] }
      | _ => none

end

/-! ## What the decision should be -/

/-- The signal comes from one of the approvers, if there are any. -/
def ApprovalSignal.Authorized (input : ReportApprovalWorkflowInput)
    (signal : ApprovalSignal) : Prop :=
  input.approverIds ≠ [] → signal.approverId ∈ input.approverIds

instance (input : ReportApprovalWorkflowInput) (signal : ApprovalSignal) :
    Decidable (signal.Authorized input) :=
  inferInstanceAs (Decidable (_ → _))

/-- A result reports a decision that was applied, or that none was made. -/
def ReportApprovalRun.Reports (run : ReportApprovalRun)
    (result : ReportApprovalWorkflowResult) : Prop :=
  (∃ signal ∈ run.applied,
    result.decision = some signal.decision ∧
      result.approverId = some signal.approverId ∧
        result.note = signal.note) ∨
    run.applied = [] ∧ result.decision = none ∧ run.query.decision = none

/-- Authority, uniqueness and consistency of the decision. -/
structure ReportApprovalRun.Lawful (run : ReportApprovalRun) : Prop where
  authorized : ∀ signal ∈ run.applied, signal.Authorized run.input
  atMostOne : run.applied.length ≤ 1
  query : ∀ signal ∈ run.applied,
    run.query.decision = some signal.decision ∧
      run.query.approverId = some signal.approverId
  result : ∀ result, run.stage = .closed (some result) → run.Reports result

/-- The workflow wakes for an authorized signal, and no signal with the other
decision arrives while one is applied. -/
def Heeds (run : ReportApprovalRun) : ReportApprovalAction → Prop
  | .start => True
  | .signal signal => ∀ taken attempts,
      run.stage = .applying taken attempts →
        signal.decision = taken.decision
  | .wake => ∀ signal ∈ run.decision, signal.Authorized run.input
  | .timeout => True
  | .attempt _ _ _ _ => True

/-! ## Phases of a run that heeds this -/

section Phases

variable {sha256Hex : String → String} {run next : ReportApprovalRun}

/-- The workflow has taken a signal and reports it. -/
structure ReportApprovalRun.Took (run : ReportApprovalRun)
    (taken : ApprovalSignal) : Prop where
  approver : run.approverId = some taken.approverId
  decision : run.query.decision = some taken.decision
  authorized : taken.Authorized run.input

/-- The decision cannot be applied any more. -/
def ReportApprovalRun.Spent (sha256Hex : String → String)
    (run : ReportApprovalRun) (taken : ApprovalSignal) : Prop :=
  ∀ gate now, (taken.activity run.input.reportVersionId).execute sha256Hex
    run.store gate now = none

/-- What the stage and the applied decisions have to do with each other. -/
inductive ApprovalPhase (sha256Hex : String → String)
    (run : ReportApprovalRun) : Prop where
  | undecided (unapplied : run.applied = [])
      (notApplying : ∀ taken attempts, run.stage ≠ .applying taken attempts)
      (noResult : ∀ result, run.stage ≠ .closed (some result))
  | applying (taken : ApprovalSignal) (attempts : Nat)
      (stage : run.stage = .applying taken attempts) (took : run.Took taken)
      (unapplied : run.applied = [])
  | unacknowledged (taken : ApprovalSignal) (attempts : Nat)
      (stage : run.stage = .applying taken attempts) (took : run.Took taken)
      (once : run.applied = [taken]) (spent : run.Spent sha256Hex taken)
  | timedOut (result : ReportApprovalWorkflowResult)
      (stage : run.stage = .closed (some result)) (unapplied : run.applied = [])
      (noDecision : result.decision = none) (unsignalled : run.decision = none)
  | decided (taken : ApprovalSignal)
      (result : Option ReportApprovalWorkflowResult)
      (stage : run.stage = .closed result) (took : run.Took taken)
      (once : run.applied = [taken])
      (reports : ∀ answer ∈ result, answer.decision = some taken.decision ∧
        answer.approverId = some taken.approverId ∧ answer.note = taken.note)

theorem ApprovalPhase.lawful (phase : ApprovalPhase sha256Hex run) :
    run.Lawful := by
  have ofUnapplied : run.applied = [] →
      (∀ result, run.stage = .closed (some result) → run.Reports result) →
        run.Lawful := by
    intro unapplied reports
    refine ⟨?_, ?_, ?_, reports⟩
    · rw [unapplied]
      nofun
    · rw [unapplied]
      exact Nat.zero_le 1
    · rw [unapplied]
      nofun
  have ofOnce : ∀ taken, run.applied = [taken] → run.Took taken →
      (∀ result, run.stage = .closed (some result) → run.Reports result) →
        run.Lawful := by
    intro taken once took reports
    refine ⟨?_, ?_, ?_, reports⟩
    · rw [once]
      intro signal member
      rw [List.mem_singleton.mp member]
      exact took.authorized
    · rw [once]
      exact Nat.le_refl 1
    · rw [once]
      intro signal member
      rw [List.mem_singleton.mp member]
      exact ⟨took.decision, took.approver⟩
  cases phase with
  | undecided unapplied notApplying noResult =>
      apply ofUnapplied unapplied
      intro result closed
      exact (noResult result closed).elim
  | applying taken attempts stage took unapplied =>
      apply ofUnapplied unapplied
      intro result closed
      rw [stage] at closed
      cases closed
  | unacknowledged taken attempts stage took once spent =>
      apply ofOnce taken once took
      intro result closed
      rw [stage] at closed
      cases closed
  | timedOut result stage unapplied noDecision unsignalled =>
      apply ofUnapplied unapplied
      intro answer closed
      rw [stage] at closed
      cases closed
      refine .inr ⟨unapplied, noDecision, ?_⟩
      rw [ReportApprovalRun.query, unsignalled]
      rfl
  | decided taken result stage took once reports =>
      apply ofOnce taken once took
      intro answer closed
      rw [stage] at closed
      cases closed
      refine .inl ⟨taken, ?_, reports answer rfl⟩
      rw [once]
      exact List.mem_singleton_self taken

/-- A decision applied once cannot be applied again. -/
theorem activity_spent {store : EnterpriseReports} {taken : ApprovalSignal}
    {id : String} {gate : ReportReleaseGate} {now : Nat}
    {first : EnterpriseReports × ReportApprovalState}
    (executed : (taken.activity id).execute sha256Hex store gate now =
      some first) (laterGate : ReportReleaseGate) (later : Nat) :
    (taken.activity id).execute sha256Hex first.1 laterGate later = none := by
  unfold ApprovalSignal.activity at executed ⊢
  cases decision : taken.decision with
  | approved =>
      rw [decision] at executed
      exact approve_again_fails executed laterGate later
  | rejected =>
      rw [decision] at executed
      exact reject_again_fails executed later

theorem attempt_eq_some {activity : ApprovalActivity} {executed : Bool}
    {gate : ReportReleaseGate} {now : Nat}
    {outcome : EnterpriseReports × ReportApprovalState}
    (attempted : run.attempt sha256Hex activity executed gate now =
      some outcome) :
    activity.execute sha256Hex run.store gate now = some outcome := by
  unfold ReportApprovalRun.attempt at attempted
  split at attempted
  · exact attempted
  · cases attempted

theorem retryOrFail_cases (stage : Nat → ApprovalStage) (attempts : Nat) :
    retryOrFail stage attempts = .closed none ∨
      retryOrFail stage attempts = stage (attempts + 1) := by
  unfold retryOrFail
  split
  · exact .inl rfl
  · exact .inr rfl

/-- Only an undecided run is at a stage before the decision. -/
theorem ApprovalPhase.unapplied (phase : ApprovalPhase sha256Hex run)
    (notApplying : ∀ taken attempts, run.stage ≠ .applying taken attempts)
    (notClosed : ∀ result, run.stage ≠ .closed result) :
    run.applied = [] := by
  cases phase with
  | undecided unapplied _ _ => exact unapplied
  | applying taken attempts stage _ unapplied => exact unapplied
  | unacknowledged taken attempts stage _ _ _ =>
      exact (notApplying taken attempts stage).elim
  | timedOut result stage unapplied _ _ => exact unapplied
  | decided taken result stage _ _ _ => exact (notClosed result stage).elim

theorem approvalPhase_signal {signal : ApprovalSignal}
    (phase : ApprovalPhase sha256Hex run)
    (heeds : Heeds run (.signal signal))
    (notClosed : ∀ result, run.stage ≠ .closed result) :
    ApprovalPhase sha256Hex { run with decision := some signal } := by
  have tookAgain : ∀ taken attempts,
      run.stage = .applying taken attempts → run.Took taken →
        ReportApprovalRun.Took { run with decision := some signal }
          taken := by
    intro taken attempts stage took
    exact
      { approver := took.approver
        decision := congrArg some (heeds taken attempts stage)
        authorized := took.authorized }
  cases phase with
  | undecided unapplied notApplying noResult =>
      exact .undecided unapplied notApplying noResult
  | applying taken attempts stage took unapplied =>
      exact .applying taken attempts stage (tookAgain _ _ stage took) unapplied
  | unacknowledged taken attempts stage took once spent =>
      exact .unacknowledged taken attempts stage (tookAgain _ _ stage took)
        once spent
  | timedOut result stage _ _ _ => exact (notClosed _ stage).elim
  | decided taken result stage _ _ _ => exact (notClosed _ stage).elim

/-- An attempt to apply the decision that was taken. -/
theorem approvalPhase_apply {taken : ApprovalSignal} {attempts : Nat}
    {executed acknowledged : Bool} {gate : ReportReleaseGate} {now : Nat}
    (phase : ApprovalPhase sha256Hex run)
    (stage : run.stage = .applying taken attempts)
    (stepped : reportApprovalStep sha256Hex run
      (.attempt executed acknowledged gate now) = some next) :
    ApprovalPhase sha256Hex next := by
  have tookOrOnce : run.Took taken ∧
      (run.applied = [] ∨
        run.applied = [taken] ∧ run.Spent sha256Hex taken) := by
    cases phase with
    | undecided unapplied notApplying noResult =>
        exact (notApplying taken attempts stage).elim
    | applying signal count isStage took unapplied =>
        rw [stage] at isStage
        cases isStage
        exact ⟨took, .inl unapplied⟩
    | unacknowledged signal count isStage took once spent =>
        rw [stage] at isStage
        cases isStage
        exact ⟨took, .inr ⟨once, spent⟩⟩
    | timedOut result isStage _ _ _ =>
        rw [stage] at isStage
        cases isStage
    | decided signal result isStage _ _ _ =>
        rw [stage] at isStage
        cases isStage
  obtain ⟨took, applied⟩ := tookOrOnce
  simp only [reportApprovalStep, stage] at stepped
  split at stepped
  · -- The attempt failed or was not executed.
    cases stepped
    rcases retryOrFail_cases (.applying taken) attempts with failed | again
    · rcases applied with unapplied | ⟨once, spent⟩
      · refine .undecided unapplied ?_ ?_
        · intro signal count isStage
          rw [failed] at isStage
          cases isStage
        · intro result isStage
          rw [failed] at isStage
          cases isStage
      · exact .decided taken none failed
          ⟨took.approver, took.decision, took.authorized⟩ once nofun
    · rcases applied with unapplied | ⟨once, spent⟩
      · exact .applying taken (attempts + 1) again
          ⟨took.approver, took.decision, took.authorized⟩ unapplied
      · exact .unacknowledged taken (attempts + 1) again
          ⟨took.approver, took.decision, took.authorized⟩ once spent
  · next store state attempted =>
      have executedOnce := attempt_eq_some attempted
      have once : run.applied ++ [taken] = [taken] := by
        rcases applied with unapplied | ⟨-, spent⟩
        · rw [unapplied]
          rfl
        · rw [spent gate now] at executedOnce
          cases executedOnce
      have spent := activity_spent executedOnce
      split at stepped
      · cases stepped
        refine .decided taken _ rfl
          ⟨took.approver, took.decision, took.authorized⟩ once ?_
        rintro answer ⟨⟩
        exact ⟨rfl, rfl, rfl⟩
      · cases stepped
        rcases retryOrFail_cases (.applying taken) attempts with
          failed | again
        · exact .decided taken none failed
            ⟨took.approver, took.decision, took.authorized⟩ once nofun
        · exact .unacknowledged taken (attempts + 1) again
            ⟨took.approver, took.decision, took.authorized⟩ once spent

theorem approvalPhase_step {action : ReportApprovalAction}
    (phase : ApprovalPhase sha256Hex run) (heeds : Heeds run action)
    (stepped : reportApprovalStep sha256Hex run action = some next) :
    ApprovalPhase sha256Hex next := by
  cases action with
  | start =>
      simp only [reportApprovalStep] at stepped
      split at stepped
      · next stage =>
          cases stepped
          have unapplied := phase.unapplied (by simp [stage]) (by simp [stage])
          exact .undecided unapplied nofun nofun
      · cases stepped
  | signal signal =>
      simp only [reportApprovalStep] at stepped
      split at stepped
      · cases stepped
      · next notClosed =>
          cases stepped
          exact approvalPhase_signal phase heeds notClosed
  | wake =>
      simp only [reportApprovalStep] at stepped
      split at stepped
      · next stage signalled =>
          cases stepped
          have unapplied := phase.unapplied (by simp [stage]) (by simp [stage])
          refine .applying _ 0 rfl ?_ unapplied
          exact
            { approver := rfl
              decision := by
                rw [ReportApprovalRun.query, signalled]
                rfl
              authorized := heeds _ signalled }
      · cases stepped
  | timeout =>
      simp only [reportApprovalStep] at stepped
      split at stepped
      · next stage unsignalled =>
          cases stepped
          have unapplied := phase.unapplied (by simp [stage]) (by simp [stage])
          exact .timedOut _ rfl unapplied rfl unsignalled
      · cases stepped
  | attempt executed acknowledged gate now =>
      cases stage : run.stage with
      | applying taken attempts => exact approvalPhase_apply phase stage stepped
      | requesting attempts =>
          have unapplied := phase.unapplied (by simp [stage]) (by simp [stage])
          have retried : ∀ later : ReportApprovalRun, later.applied = [] →
              later.stage = retryOrFail .requesting attempts →
                ApprovalPhase sha256Hex later := by
            intro later stillUnapplied isStage
            rcases retryOrFail_cases .requesting attempts with failed | again
            · rw [failed] at isStage
              exact .undecided stillUnapplied (by simp [isStage])
                (by simp [isStage])
            · rw [again] at isStage
              exact .undecided stillUnapplied (by simp [isStage])
                (by simp [isStage])
          simp only [reportApprovalStep, stage] at stepped
          split at stepped
          · cases stepped
            exact retried _ unapplied rfl
          · split at stepped
            · cases stepped
              exact .undecided unapplied nofun nofun
            · cases stepped
              exact retried _ unapplied rfl
      | initialized =>
          simp only [reportApprovalStep, stage] at stepped
          cases stepped
      | waiting requested =>
          simp only [reportApprovalStep, stage] at stepped
          cases stepped
      | closed result =>
          simp only [reportApprovalStep, stage] at stepped
          cases stepped

/-- For every order of signals, timeout and attempts: when the workflow wakes
for authorized signals only and no other decision arrives while one is
applied, at most one decision is applied, an approver made it, and the query
and the result report it. -/
theorem reportApproval_lawful_along {input : ReportApprovalWorkflowInput}
    {store : EnterpriseReports} {actions : List ReportApprovalAction}
    {final : ReportApprovalRun}
    (heeds : Along (reportApprovalStep sha256Hex) Heeds
      { input := input, store := store } actions)
    (reached : exec (reportApprovalStep sha256Hex)
      { input := input, store := store } actions = some final) :
    final.Lawful := by
  have start : ApprovalPhase sha256Hex { input := input, store := store } :=
    .undecided rfl nofun nofun
  have preserved : ∀ run action next, ApprovalPhase sha256Hex run →
      Heeds run action → reportApprovalStep sha256Hex run action = some next →
        ApprovalPhase sha256Hex next := by
    intro run action next phase heeded stepped
    exact approvalPhase_step phase heeded stepped
  exact (exec_invariant_along preserved start heeds reached).lawful

end Phases

/-! ## Signals that arrive anyway -/

namespace ReportExample

local instance approvalExampleRuntime : PyRuntime := asciiRuntime

def approvalInput : ReportApprovalWorkflowInput :=
  { reportVersionId := versionId
    approverIds := ["reviewer"] }

/-- The workflow for the draft of the first run. -/
def approvalRun : ReportApprovalRun :=
  { input := approvalInput
    store := draftStore }

def signalled (decision : ApprovalDecision) (approverId : String) :
    ApprovalSignal :=
  { decision := decision
    approverId := approverId }

/-- The reviewer approves while the approval is requested. -/
def approvedInTime : List ReportApprovalAction :=
  [.start, .signal (signalled .approved "reviewer"),
    .attempt true true gate 2, .wake, .attempt true true gate 3]

theorem reportApproval_lawful_inTime :
    ∃ final, exec (reportApprovalStep id) approvalRun approvedInTime =
        some final ∧ final.Lawful := by
  have heeds : Along (reportApprovalStep id) Heeds approvalRun
      approvedInTime := by
    refine ⟨trivial, ?_, trivial, ?_, trivial, trivial⟩
    · nofun
    · rintro signal ⟨⟩
      decide
  exact ⟨_, rfl, reportApproval_lawful_along heeds rfl⟩

/-- An outsider approves, and rejects while the approval is applied: the
approval is applied, the query answers that the version was rejected. -/
theorem reportApproval_outsider :
    ∃ final, exec (reportApprovalStep id) approvalRun
        [.start, .attempt true true gate 2,
          .signal (signalled .approved "outsider"), .wake,
          .signal (signalled .rejected "outsider"),
          .attempt true true gate 3] = some final ∧
      final.applied = [signalled .approved "outsider"] ∧
      final.query.decision = some .rejected ∧ ¬ final.Lawful := by
  refine ⟨_, rfl, rfl, rfl, ?_⟩
  intro lawful
  have authorized := lawful.authorized (signalled .approved "outsider")
    (List.mem_singleton_self _)
  exact absurd authorized (by decide)

end ReportExample

end CompetiScope
