import CompetiScope.Runtime.RunCommands

/-!
# What the steps of a run service keep

A run keeps the fingerprint and the time it was created with, and no read
makes it active again.  Only `create_run` adds a run, under an id that no run
has.
-/

namespace CompetiScope

open Foundation

namespace ServedRun

/-- The run counts as an active duplicate of later requests. -/
def active (run : ServedRun) : Bool :=
  run.detail.status ∈ activeRunDuplicateStatuses

theorem repair_active (run : ServedRun) :
    run.repairInconsistentHitlStatus.active = run.active := by
  unfold repairInconsistentHitlStatus RunDetail.repairInconsistentHitlStatus
  split
  · next running => simp [active, running.1, activeRunDuplicateStatuses]
  · rfl

theorem hydrate_active (run : ServedRun) :
    run.hydratePendingInterruptFromDetail.active = run.active := by
  rw [← repair_active run]
  unfold hydratePendingInterruptFromDetail
  dsimp only
  split
  · rfl
  split <;> rfl

theorem read_active (run : ServedRun) : run.read.active = run.active :=
  (hydrate_active _).trans (repair_active run)

theorem load_active (run : ServedRun) (journal : Bool) :
    (run.load journal).active = run.active := by
  unfold load
  split
  · exact hydrate_active run
  · rfl

/-- An activity starts the pipeline of queued and running runs only. -/
theorem active_of_ensurePipeline {run : ServedRun}
    (activated : run.ensurePipeline.active = true) : run.active = true := by
  unfold ensurePipeline at activated
  split at activated
  · exact activated
  · next unsettled =>
      cases status : run.detail.status <;>
        simp [settled, active, activeRunDuplicateStatuses, status]
          at unsettled ⊢

theorem requestRedo_active (run : ServedRun) (issueIds : List String) :
    (run.requestRedo issueIds).active = run.active := by
  unfold requestRedo
  split
  · rfl
  split
  · rfl
  split <;> rfl

end ServedRun

/-- What the creation of a run settles. -/
def HostedRun.creation (hosted : HostedRun) : String × Nat :=
  (hosted.fingerprint, hosted.createdAt)

namespace RunHost

/-- The service has the runs it had, and only the revived ones are active
without having been so. -/
structure KeepsRuns (host next : RunHost) (revived : String → Prop) :
    Prop where
  now : host.now ≤ next.now
  creation : ∀ runId, (next.runs.get? runId).map HostedRun.creation =
    (host.runs.get? runId).map HostedRun.creation
  inactive : ∀ runId before after, ¬ revived runId →
    host.runs.get? runId = some before →
      next.runs.get? runId = some after →
        after.served.active = true → before.served.active = true

theorem keepsRuns_refl (host : RunHost) (revived : String → Prop) :
    host.KeepsRuns host revived :=
  { now := Nat.le_refl _
    creation := fun _ => rfl
    inactive := by
      intro runId before after _ isBefore isAfter active
      rw [isBefore] at isAfter
      cases isAfter
      exact active }

theorem KeepsRuns.weaken {host next : RunHost}
    {revived widened : String → Prop} (keeps : host.KeepsRuns next revived)
    (wider : ∀ runId, revived runId → widened runId) :
    host.KeepsRuns next widened :=
  { now := keeps.now
    creation := keeps.creation
    inactive := fun runId before after unrevived =>
      keeps.inactive runId before after fun isRevived =>
        unrevived (wider runId isRevived) }

theorem keepsRuns_update {host : RunHost} {runId : String}
    {hosted : HostedRun} {served : ServedRun} {revived : String → Prop}
    (found : host.runs.get? runId = some hosted)
    (activated : ¬ revived runId → served.active = true →
      hosted.served.active = true) :
    host.KeepsRuns (host.update runId hosted served) revived where
  now := Nat.le_refl _
  creation := by
    intro other
    rw [update, Dict.get?_set]
    split
    · next same =>
        rw [same, found]
        rfl
    · rfl
  inactive := by
    intro other before after unrevived isBefore isAfter active
    rw [update, Dict.get?_set] at isAfter
    split at isAfter
    · next same =>
        cases isAfter
        rw [same, found] at isBefore
        cases isBefore
        exact activated (same ▸ unrevived) active
    · rw [isBefore] at isAfter
      cases isAfter
      exact active

/-! ## Calls of `create_run` -/

/-- The run the command `create_run` finds for a request. -/
def commandAnswer (host : RunHost) (sha256Hex : String → String)
    (request : RunCreateRequest) : CreateAnswer :=
  match host.findActiveDuplicateRun request.fingerprint with
  | some duplicate => .activeDuplicate duplicate
  | none => host.answer sha256Hex request false

/-- What a call does that finds a run: it registers a new one, and keeps the
others. -/
def CreateEffect (host next : RunHost) (request : RunCreateRequest) :
    CreateAnswer → Prop
  | .newRun runId => ∃ tasks, next = host.register runId request tasks
  | _ => host.KeepsRuns next fun _ => False

theorem answer_newRun {host : RunHost} {sha256Hex : String → String}
    {request : RunCreateRequest} {skip : Bool} {runId : String}
    (answered : host.answer sha256Hex request skip = .newRun runId) :
    runId = computeRunIdForIdempotencyKey sha256Hex request.idempotencyKey ∧
      host.runs.get? runId = none ∧
      (skip = false →
        host.findActiveDuplicateRun request.fingerprint = none) := by
  unfold answer at answered
  dsimp only at answered
  split at answered
  · cases answered
  next unknown =>
  split at answered
  · next skipped =>
      cases answered
      refine ⟨rfl, unknown, ?_⟩
      intro unskipped
      rw [unskipped] at skipped
      cases skipped
  split at answered
  · cases answered
  · next noDuplicate =>
      cases answered
      exact ⟨rfl, unknown, fun _ => noDuplicate⟩

theorem answer_sameKey {host : RunHost}
    {sha256Hex : String → String} {request : RunCreateRequest}
    {skip : Bool} {runId : String} {hosted : HostedRun}
    (answered : host.answer sha256Hex request skip = .sameKey runId hosted) :
    runId = computeRunIdForIdempotencyKey sha256Hex request.idempotencyKey ∧
      host.runs.get? runId = some hosted := by
  unfold answer at answered
  dsimp only at answered
  split at answered
  · next found =>
    cases answered
    exact ⟨rfl, found⟩
  split at answered
  · cases answered
  split at answered <;> cases answered

theorem commandAnswer_newRun {host : RunHost}
    {sha256Hex : String → String} {request : RunCreateRequest}
    {runId : String}
    (answered : host.commandAnswer sha256Hex request = .newRun runId) :
    host.answer sha256Hex request false = .newRun runId := by
  unfold commandAnswer at answered
  split at answered
  · cases answered
  · exact answered

theorem registerRun_effect (host : RunHost) (sha256Hex : String → String)
    (journal : Bool) (request : RunCreateRequest) (skip : Bool) :
    host.CreateEffect (host.registerRun sha256Hex journal request skip)
      request (host.answer sha256Hex request skip) := by
  unfold registerRun
  split
  · next runId hosted answered =>
      rw [answered]
      apply keepsRuns_update (answer_sameKey answered).2
      intro _ active
      rwa [ServedRun.load_active] at active
  · next answered =>
      rw [answered]
      exact host.keepsRuns_refl _
  · next answered =>
      rw [answered]
      exact ⟨[], rfl⟩

theorem scanProject_effect (host : RunHost) (sha256Hex : String → String)
    (journal : Bool) (request : RunCreateRequest) :
    host.CreateEffect (host.scanProject sha256Hex journal request) request
      (host.answer sha256Hex request false) := by
  unfold scanProject
  split
  · next runId hosted answered =>
      rw [answered]
      apply keepsRuns_update (answer_sameKey answered).2
      intro _ active
      have loaded := ServedRun.active_of_ensurePipeline active
      rwa [ServedRun.load_active] at loaded
  · next runId answered =>
      rw [answered]
      split
      · exact host.keepsRuns_refl _
      · next hosted found =>
          apply keepsRuns_update found
          intro _ active
          exact ServedRun.active_of_ensurePipeline active
  · next answered =>
      rw [answered]
      exact ⟨[.activityPipeline], rfl⟩

theorem createRun_effect (host : RunHost) (sha256Hex : String → String)
    (journal : Bool) (request : RunCreateRequest) :
    host.CreateEffect (host.createRun sha256Hex journal request) request
      (host.commandAnswer sha256Hex request) := by
  unfold createRun commandAnswer
  cases host.findActiveDuplicateRun request.fingerprint with
  | some duplicate => exact host.keepsRuns_refl _
  | none =>
  dsimp only
  split
  · next runId hosted answered =>
      rw [answered]
      apply keepsRuns_update (answer_sameKey answered).2
      intro _ active
      have loaded : (hosted.served.load journal).active = true := active
      rwa [ServedRun.load_active] at loaded
  · next answered =>
      rw [answered]
      exact host.keepsRuns_refl _
  · next answered =>
      rw [answered]
      exact ⟨[.pipeline], rfl⟩

end RunHost

/-! ## The search for active duplicates -/

theorem newestRun_eq_none {entries : List (String × HostedRun)}
    (noNewest : newestRun entries = none) : entries = [] := by
  cases entries with
  | nil => rfl
  | cons entry entries =>
      rw [newestRun] at noNewest
      split at noNewest
      · cases noNewest
      · split at noNewest <;> cases noNewest

/-- Without an active duplicate the active runs of the fingerprint are
older than the window. -/
theorem RunHost.outsideWindow {host : RunHost} {fingerprint : String}
    (noDuplicate : host.findActiveDuplicateRun fingerprint = none)
    {runId : String} {hosted : HostedRun}
    (found : host.runs.get? runId = some hosted)
    (same : hosted.fingerprint = fingerprint)
    (active : hosted.served.active = true) :
    activeRunDuplicateWindowSeconds < host.now - hosted.createdAt := by
  by_contra young
  rw [findActiveDuplicateRun, Option.map_eq_none_iff] at noDuplicate
  have noCandidate := List.filter_eq_nil_iff.mp
    (newestRun_eq_none noDuplicate) (runId, hosted) (Dict.mem_entries.mpr found)
  apply noCandidate
  have activeStatus : hosted.served.detail.status ∈
      activeRunDuplicateStatuses := by
    simpa [ServedRun.active] using active
  simp [same, activeStatus, Nat.le_of_not_lt young]

/-! ## Steps that create nothing -/

/-- The action calls `create_run`. -/
def HostAction.creates : HostAction → Bool
  | .createRun _ => true
  | .registerRun _ _ => true
  | .scanProject _ => true
  | _ => false

section

variable [PyRuntime]

/-- The step of a run makes it active although it was not. -/
def RunHost.Revives (host : RunHost) (settings : HostSettings)
    (action : HostAction) (runId : String) : Prop :=
  ∃ step hosted served, action = .onRun runId step ∧
    host.runs.get? runId = some hosted ∧
    runStep settings.runSettings hosted.served step = some served ∧
    hosted.served.active = false ∧ served.active = true

theorem hostStep_keepsRuns {settings : HostSettings} {host next : RunHost}
    {action : HostAction} (creates : action.creates = false)
    (stepped : hostStep settings host action = some next) :
    host.KeepsRuns next (host.Revives settings action) := by
  unfold hostStep at stepped
  cases action with
  | onRun runId step =>
      dsimp only at stepped
      split at stepped
      · cases stepped
      next hosted found =>
      obtain ⟨served, servedStep, rfl⟩ := Option.map_eq_some_iff.mp stepped
      apply RunHost.keepsRuns_update found
      intro unrevived active
      by_contra inactive
      exact unrevived
        ⟨step, hosted, served, rfl, found, servedStep,
          Bool.eq_false_of_not_eq_true inactive, active⟩
  | listRuns =>
      cases stepped
      refine
        { now := Nat.le_refl _
          creation := ?_
          inactive := ?_ }
      · intro runId
        rw [Dict.get?_mapValues, Option.map_map]
        rfl
      · intro runId before after _ isBefore isAfter active
        rw [Dict.get?_mapValues, isBefore] at isAfter
        cases isAfter
        rwa [ServedRun.read_active] at active
  | tick seconds =>
      cases stepped
      exact
        { now := Nat.le_add_right _ _
          creation := fun _ => rfl
          inactive := (host.keepsRuns_refl _).inactive }
  | createRun request => cases creates
  | registerRun request skip => cases creates
  | scanProject request => cases creates
  | runLanggraphPipeline runId =>
      dsimp only at stepped
      split at stepped
      · cases stepped
      next hosted found =>
      cases stepped
      apply RunHost.keepsRuns_update found
      intro _ active
      have readActive := ServedRun.active_of_ensurePipeline active
      rwa [ServedRun.read_active] at readActive
  | requestRedo runId issueIds =>
      dsimp only at stepped
      split at stepped
      · cases stepped
      next hosted found =>
      cases stepped
      apply RunHost.keepsRuns_update found
      intro _ active
      rwa [ServedRun.requestRedo_active, ServedRun.read_active] at active

end

end CompetiScope
