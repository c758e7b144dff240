import CompetiScope.Foundation.Dict
import Mathlib.Algebra.GroupWithZero.Nat

/-!
# Usage and quotas of workspaces

The enterprise store counts the runs a workspace created in the current month
and adds up their tokens and costs.  A workspace that blocks refuses new runs
once one of the three has reached its quota.
-/

namespace CompetiScope

open Foundation

inductive QuotaEnforcementMode where
  | monitor
  | block
  deriving DecidableEq

/-- The quotas of a `WorkspaceRecord`; costs are millionths of a dollar. -/
structure WorkspaceRecord where
  monthlyRunQuota : Nat := 1000
  monthlyTokenQuota : Nat := 2000000
  monthlyCostQuota : Nat := 100000000
  quotaEnforcement : QuotaEnforcementMode := .block

/-- What the metrics of a run charge to its workspace. -/
structure RunCharges where
  inputTokensEstimate : Nat := 0
  outputTokensEstimate : Nat := 0
  costEstimate : Nat := 0

/-- An entry of `run_details`. -/
structure StoredRun where
  workspaceId : String
  createdAt : Nat
  metrics : RunCharges := {}

structure WorkspaceUsageSummary where
  runCount : Nat
  totalTokensEstimate : Nat
  costEstimate : Nat

inductive WorkspaceUsageStatus where
  | ok
  | warn
  | exceeded
  deriving DecidableEq

/-- `_usage_ratio` is at least so many percent; it is one for a quota of
zero. -/
def usageRatioReaches (percent used quota : Nat) : Bool :=
  percent * quota ≤ 100 * used

/-- `_usage_status` of pairs of an amount and its quota. -/
def usageStatus (amounts : List (Nat × Nat)) : WorkspaceUsageStatus :=
  if amounts.any fun amount => usageRatioReaches 100 amount.1 amount.2 then
    .exceeded
  else if amounts.any fun amount => usageRatioReaches 80 amount.1 amount.2
  then .warn
  else .ok

def WorkspaceUsageSummary.status (usage : WorkspaceUsageSummary)
    (workspace : WorkspaceRecord) : WorkspaceUsageStatus :=
  usageStatus
    [(usage.runCount, workspace.monthlyRunQuota),
      (usage.totalTokensEstimate, workspace.monthlyTokenQuota),
      (usage.costEstimate, workspace.monthlyCostQuota)]

/-- `allowed` of `build_quota_decision`. -/
def WorkspaceUsageSummary.allowed (usage : WorkspaceUsageSummary)
    (workspace : WorkspaceRecord) : Bool :=
  usage.status workspace ≠ .exceeded ||
    workspace.quotaEnforcement = .monitor

section

/-! `month` numbers the calendar months: `current_month_window` puts two times
in one window when their months are the same. -/

variable (month : Nat → Nat)

/-- The run was created in a month for a workspace. -/
def StoredRun.chargedTo (workspaceId : String) (period : Nat)
    (run : StoredRun) : Bool :=
  run.workspaceId = workspaceId && month run.createdAt = period

/-- The number of runs a workspace created in a month. -/
def runCount (runDetails : Dict String StoredRun) (workspaceId : String)
    (period : Nat) : Nat :=
  runDetails.values.countP (·.chargedTo month workspaceId period)

/-- `get_workspace_usage` of the current month. -/
def getWorkspaceUsage (runDetails : Dict String StoredRun)
    (workspaceId : String) (now : Nat) : WorkspaceUsageSummary :=
  let runs :=
    runDetails.values.filter (·.chargedTo month workspaceId (month now))
  { runCount := runs.length
    totalTokensEstimate :=
      (runs.map (·.metrics.inputTokensEstimate)).sum +
        (runs.map (·.metrics.outputTokensEstimate)).sum
    costEstimate := (runs.map (·.metrics.costEstimate)).sum }

/-- `check_workspace_quota`. -/
def checkWorkspaceQuota (workspace : WorkspaceRecord)
    (runDetails : Dict String StoredRun) (workspaceId : String)
    (now : Nat) : Bool :=
  (getWorkspaceUsage month runDetails workspaceId now).allowed workspace

/-- No month of a blocking workspace has more runs than its quota. -/
def WithinRunQuota (workspaces : String → WorkspaceRecord)
    (runDetails : Dict String StoredRun) : Prop :=
  ∀ workspaceId period, (workspaces workspaceId).quotaEnforcement = .block →
    runCount month runDetails workspaceId period ≤
      (workspaces workspaceId).monthlyRunQuota

end

/-- `start_run`: the store keeps a copy of the run. -/
def startRun (runDetails : Dict String StoredRun) (runId : String)
    (run : StoredRun) : Dict String StoredRun :=
  runDetails.set runId run

section

variable {month : Nat → Nat} {runDetails : Dict String StoredRun}

theorem getWorkspaceUsage_runCount (workspaceId : String) (now : Nat) :
    (getWorkspaceUsage month runDetails workspaceId now).runCount =
      runCount month runDetails workspaceId (month now) :=
  List.countP_eq_length_filter.symm

theorem runCount_lt_of_allowed {workspace : WorkspaceRecord}
    {workspaceId : String} {now : Nat}
    (blocks : workspace.quotaEnforcement = .block)
    (allowed : checkWorkspaceQuota month workspace runDetails workspaceId
      now = true) :
    runCount month runDetails workspaceId (month now) <
      workspace.monthlyRunQuota := by
  by_contra full
  have reached : usageRatioReaches 100
      (getWorkspaceUsage month runDetails workspaceId now).runCount
        workspace.monthlyRunQuota = true := by
    rw [usageRatioReaches, decide_eq_true_eq, getWorkspaceUsage_runCount]
    omega
  have exceeded : (getWorkspaceUsage month runDetails workspaceId
      now).status workspace = .exceeded := by
    rw [WorkspaceUsageSummary.status, usageStatus, if_pos]
    simp [reached]
  rw [checkWorkspaceQuota, WorkspaceUsageSummary.allowed, exceeded, blocks]
    at allowed
  cases allowed

theorem runCount_startRun_new {runId : String}
    (unknown : runDetails.get? runId = none) (run : StoredRun)
    (workspaceId : String) (period : Nat) :
    runCount month (startRun runDetails runId run) workspaceId period =
      runCount month runDetails workspaceId period +
        if run.chargedTo month workspaceId period then 1 else 0 := by
  rw [runCount, startRun, Dict.values_set_of_absent unknown,
    List.countP_append, List.countP_singleton]
  rfl

/-- A run that is stored again is not charged twice. -/
theorem runCount_startRun_again {runId : String} {before after : StoredRun}
    (stored : runDetails.get? runId = some before)
    (workspace : after.workspaceId = before.workspaceId)
    (created : after.createdAt = before.createdAt) (workspaceId : String)
    (period : Nat) :
    runCount month (startRun runDetails runId after) workspaceId period =
      runCount month runDetails workspaceId period := by
  apply Dict.countP_values_set_of_present stored
  rw [StoredRun.chargedTo, StoredRun.chargedTo, workspace, created]

theorem WithinRunQuota.startRun_new
    {workspaces : String → WorkspaceRecord}
    (within : WithinRunQuota month workspaces runDetails) {runId : String}
    (unknown : runDetails.get? runId = none) {run : StoredRun}
    (allowed : checkWorkspaceQuota month (workspaces run.workspaceId)
      runDetails run.workspaceId run.createdAt = true) :
    WithinRunQuota month workspaces (startRun runDetails runId run) := by
  intro workspaceId period blocks
  rw [runCount_startRun_new unknown]
  split
  · next charged =>
      simp only [StoredRun.chargedTo, Bool.and_eq_true, decide_eq_true_eq]
        at charged
      obtain ⟨rfl, rfl⟩ := charged
      exact runCount_lt_of_allowed blocks allowed
  · exact within workspaceId period blocks

theorem WithinRunQuota.startRun_again
    {workspaces : String → WorkspaceRecord}
    (within : WithinRunQuota month workspaces runDetails) {runId : String}
    {before after : StoredRun} (stored : runDetails.get? runId = some before)
    (workspace : after.workspaceId = before.workspaceId)
    (created : after.createdAt = before.createdAt) :
    WithinRunQuota month workspaces (startRun runDetails runId after) := by
  intro workspaceId period blocks
  rw [runCount_startRun_again stored workspace created]
  exact within workspaceId period blocks

end

end CompetiScope
