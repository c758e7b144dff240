import CompetiScope.Foundation.Transition
import CompetiScope.Orchestrator.HitlResume
import CompetiScope.Runtime.PipelineClaims
import CompetiScope.Runtime.RunsKept

/-!
# One execution of a run at a time

Commands and activities start graph executions without looking at what the
run already executes.  In the histories in which they are issued for runs
that execute nothing, no run has two executions and no pipeline starts twice.
-/

namespace CompetiScope

open Foundation

namespace ServedRun

/-- No graph of the run is scheduled or executing. -/
def Unoccupied (run : ServedRun) : Prop :=
  run.tasks = [] ∧ run.executions = []

/-- Starting the pipeline is harmless: an activity leaves the run alone, or
its pipeline has not been started by anyone. -/
def MayStart (run : ServedRun) : Prop :=
  run.settled = true ∨ (run.Unoccupied ∧ run.history.pipelineStarts = 0)

instance (run : ServedRun) : Decidable run.Unoccupied :=
  inferInstanceAs (Decidable (_ ∧ _))

instance (run : ServedRun) : Decidable run.MayStart :=
  inferInstanceAs (Decidable (_ ∨ _))

/-- The phases of a review, with a pipeline claimed at most once. -/
structure SoundlyRun (run : ServedRun) : Prop where
  reviewed : run.Reviewed
  claimedOnce : run.pipelineClaims ≤ 1

theorem Quiet.idle {run : ServedRun} (quiet : run.Quiet)
    (unoccupied : run.Unoccupied) : run.Idle :=
  { quiet with
    noTask := unoccupied.1
    noExecution := unoccupied.2 }

theorem Answered.not_unoccupied {run : ServedRun} {stage : HitlStage}
    {thread : Thread} {request : HitlResumeRequest}
    (answered : run.Answered stage thread request) : ¬ run.Unoccupied := by
  intro unoccupied
  have noTask := unoccupied.1
  rw [answered.task] at noTask
  cases noTask

theorem Reentering.not_unoccupied {run : ServedRun} {stage : HitlStage}
    {thread : Thread} {request : HitlResumeRequest}
    (reentering : run.Reentering stage thread request) :
    ¬ run.Unoccupied := by
  intro unoccupied
  have noExecution := unoccupied.2
  rw [reentering.execution] at noExecution
  cases noExecution

theorem Waiting.settled_eq {run : ServedRun} {stage : HitlStage}
    {thread : Thread} (waiting : run.Waiting stage thread) :
    run.settled = true := by
  rw [settled, waiting.status]
  rfl

theorem Waiting.hasPendingInterrupt_eq {run : ServedRun}
    {stage : HitlStage} {thread : Thread}
    (waiting : run.Waiting stage thread) :
    run.hasPendingInterrupt = true := by
  rw [hasPendingInterrupt, waiting.interrupt]
  rfl

theorem SoundlyRun.ensurePipeline {run : ServedRun} (sound : run.SoundlyRun)
    (mayStart : run.MayStart) : run.ensurePipeline.SoundlyRun := by
  unfold ServedRun.ensurePipeline
  split
  · exact sound
  next open_run =>
  obtain ⟨unoccupied, neverStarted⟩ := mayStart.resolve_left open_run
  cases sound.reviewed.phase with
  | quiet quiet =>
      have idle := quiet.idle unoccupied
      refine ⟨sound.reviewed.of_quiet idle.startPipeline rfl rfl, ?_⟩
      simp [pipelineClaims, startPipeline, withStatus, neverStarted,
        unoccupied.1]
  | waiting stage thread waiting => exact (open_run waiting.settled_eq).elim
  | answered stage thread request answered =>
      exact (answered.not_unoccupied unoccupied).elim
  | reentering stage thread request reentering =>
      exact (reentering.not_unoccupied unoccupied).elim

/-- A task for an idle run is its only one. -/
theorem Idle.withTask {run : ServedRun} (idle : run.Idle) {task : RunTask}
    (noResume : ∀ request, task ≠ .resume request) :
    (run.withTask task).Quiet := by
  have only : run.tasks ++ [task] = [task] := by
    rw [idle.noTask]
    rfl
  exact
    { noInterrupt := idle.noInterrupt
      noTimeout := idle.noTimeout
      noCheckpoint := idle.noCheckpoint
      notInterrupted := idle.notInterrupted
      single := by
        rw [ServedRun.withTask, only, idle.noExecution]
        exact Nat.le_refl 1
      noResumeTask := by
        intro request member
        rw [ServedRun.withTask, only] at member
        exact noResume request (List.mem_singleton.mp member).symm
      noResumeValue := idle.noResumeValue
      onThread := idle.onThread }

theorem SoundlyRun.requestRedo [PyRuntime] {run : ServedRun}
    (sound : run.SoundlyRun) (unoccupied : run.Unoccupied)
    (issueIds : List String) : (run.requestRedo issueIds).SoundlyRun := by
  unfold ServedRun.requestRedo
  split
  · exact sound
  next noInterrupt =>
  split
  · exact sound
  split
  · exact sound
  cases sound.reviewed.phase with
  | quiet quiet =>
      have idle := quiet.idle unoccupied
      refine ⟨sound.reviewed.of_quiet (idle.withTask ?_) rfl rfl, ?_⟩
      · intro request impossible
        cases impossible
      · simpa [pipelineClaims, ServedRun.withTask, List.countP_append,
          RunTask.startsPipeline] using sound.claimedOnce
  | waiting stage thread waiting =>
      exact (noInterrupt waiting.hasPendingInterrupt_eq).elim
  | answered stage thread request answered =>
      exact (answered.not_unoccupied unoccupied).elim
  | reentering stage thread request reentering =>
      exact (reentering.not_unoccupied unoccupied).elim

theorem SoundlyRun.load {run : ServedRun} (sound : run.SoundlyRun)
    (safe : run.ReadsSafely) (journal : Bool) : run.load journal = run := by
  unfold ServedRun.load
  split
  · exact sound.reviewed.hydrate_eq safe
  · rfl

theorem SoundlyRun.oneExecution {run : ServedRun} (sound : run.SoundlyRun) :
    run.executions.length ≤ 1 := by
  cases sound.reviewed.phase with
  | quiet quiet =>
      have single := quiet.single
      omega
  | waiting stage thread waiting =>
      rw [waiting.noExecution]
      exact Nat.zero_le 1
  | answered stage thread request answered =>
      rw [answered.noExecution]
      exact Nat.zero_le 1
  | reentering stage thread request reentering =>
      rw [reentering.execution]
      exact Nat.le_refl 1

theorem SoundlyRun.startedOnce {run : ServedRun} (sound : run.SoundlyRun) :
    run.history.pipelineStarts ≤ 1 :=
  (Nat.le_add_right _ _).trans sound.claimedOnce

theorem soundlyRun_new {run : ServedRun}
    (fresh : run = { detail := run.detail, tasks := run.tasks })
    (status : run.detail.status = .queued)
    (single : run.tasks.length ≤ 1)
    (noResume : ∀ request, .resume request ∉ run.tasks) :
    run.SoundlyRun := by
  refine ⟨reviewed_new fresh status single noResume, ?_⟩
  have counted := List.countP_le_length (l := run.tasks)
    (p := (·.startsPipeline))
  have unstarted : run.history.pipelineStarts = 0 := by
    rw [fresh]
  rw [pipelineClaims, unstarted]
  omega

end ServedRun

namespace RunHost

def SoundlyHosted (host : RunHost) : Prop :=
  ∀ runId hosted, host.runs.get? runId = some hosted →
    hosted.served.SoundlyRun

theorem SoundlyHosted.update {host : RunHost} (sound : host.SoundlyHosted)
    (runId : String) (hosted : HostedRun) {served : ServedRun}
    (soundlyRun : served.SoundlyRun) :
    (host.update runId hosted served).SoundlyHosted := by
  intro other found lookup
  rw [RunHost.update, Dict.get?_set] at lookup
  split at lookup
  · cases lookup
    exact soundlyRun
  · exact sound other found lookup

theorem SoundlyHosted.register {host : RunHost} (sound : host.SoundlyHosted)
    (runId : String) (request : RunCreateRequest) {tasks : List RunTask}
    (single : tasks.length ≤ 1)
    (noResume : ∀ request, .resume request ∉ tasks) :
    (host.register runId request tasks).SoundlyHosted := by
  intro other found lookup
  rw [RunHost.register, Dict.get?_set] at lookup
  split at lookup
  · cases lookup
    exact ServedRun.soundlyRun_new rfl rfl single noResume
  · exact sound other found lookup

/-- What holds of the run of an id, if there is one. -/
def At (host : RunHost) (runId : String) (property : ServedRun → Prop) :
    Prop :=
  match host.runs.get? runId with
  | none => True
  | some hosted => property hosted.served

instance (host : RunHost) (runId : String) (property : ServedRun → Prop)
    [decidable : DecidablePred property] :
    Decidable (host.At runId property) :=
  match found : host.runs.get? runId with
  | none => isTrue (by simp [At, found])
  | some hosted =>
      decidable_of_iff (property hosted.served) (by simp [At, found])

theorem At.apply {host : RunHost} {runId : String} {hosted : HostedRun}
    {property : ServedRun → Prop} (holds : host.At runId property)
    (found : host.runs.get? runId = some hosted) : property hosted.served := by
  simpa [At, found] using holds

/-- At most one execution of a run is active, and its pipeline has been
started at most once. -/
structure SingleExecution (host : RunHost) : Prop where
  oneExecution : ∀ runId hosted, host.runs.get? runId = some hosted →
    hosted.served.executions.length ≤ 1
  startedOnce : ∀ runId hosted, host.runs.get? runId = some hosted →
    hosted.served.history.pipelineStarts ≤ 1

theorem SoundlyHosted.singleExecution {host : RunHost}
    (sound : host.SoundlyHosted) : host.SingleExecution :=
  { oneExecution := fun runId hosted found =>
      (sound runId hosted found).oneExecution
    startedOnce := fun runId hosted found =>
      (sound runId hosted found).startedOnce }

/-- The run an activity finds for its request may be started. -/
def ScanMayStart (host : RunHost) (sha256Hex : String → String)
    (request : RunCreateRequest) : Prop :=
  match host.answer sha256Hex request false with
  | .sameKey _ hosted => hosted.served.ReadsSafely ∧ hosted.served.MayStart
  | .activeDuplicate runId => host.At runId ServedRun.MayStart
  | .newRun _ => True

instance (host : RunHost) (sha256Hex : String → String)
    (request : RunCreateRequest) :
    Decidable (host.ScanMayStart sha256Hex request) :=
  match answered : host.answer sha256Hex request false with
  | .sameKey _ hosted =>
      decidable_of_iff (hosted.served.ReadsSafely ∧ hosted.served.MayStart)
        (by simp [ScanMayStart, answered])
  | .activeDuplicate runId =>
      decidable_of_iff (host.At runId ServedRun.MayStart)
        (by simp [ScanMayStart, answered])
  | .newRun _ => isTrue (by simp [ScanMayStart, answered])

/-- What starts an execution is issued for a run that executes nothing, and
no read takes back the status of a run that leaves a checkpoint. -/
def Allows (host : RunHost) (settings : HostSettings) : HostAction → Prop
  | .onRun runId action => host.At runId (·.SafeAction action)
  | .listRuns => ∀ hosted ∈ host.runs.values, hosted.served.ReadsSafely
  | .tick _ => True
  | .createRun request =>
      (host.findActiveDuplicateRun request.fingerprint).isSome = true ∨
        host.runs.get? (computeRunIdForIdempotencyKey settings.sha256Hex
          request.idempotencyKey) = none
  | .registerRun request _ =>
      host.At (computeRunIdForIdempotencyKey settings.sha256Hex
        request.idempotencyKey) (·.ReadsSafely)
  | .scanProject request => host.ScanMayStart settings.sha256Hex request
  | .runLanggraphPipeline runId =>
      host.At runId fun run => run.ReadsSafely ∧ run.MayStart
  | .requestRedo runId _ =>
      host.At runId fun run => run.ReadsSafely ∧ run.Unoccupied

instance (host : RunHost) (settings : HostSettings) :
    ∀ action, Decidable (host.Allows settings action)
  | .onRun runId action =>
      inferInstanceAs (Decidable (host.At runId (·.SafeAction action)))
  | .listRuns => inferInstanceAs (Decidable (∀ _ ∈ _, _))
  | .tick _ => isTrue trivial
  | .createRun _ => inferInstanceAs (Decidable (_ ∨ _))
  | .registerRun _ _ =>
      inferInstanceAs (Decidable (host.At _ (·.ReadsSafely)))
  | .scanProject _ => inferInstanceAs (Decidable (host.ScanMayStart _ _))
  | .runLanggraphPipeline runId =>
      inferInstanceAs (Decidable (host.At runId fun run =>
        run.ReadsSafely ∧ run.MayStart))
  | .requestRedo runId _ =>
      inferInstanceAs (Decidable (host.At runId fun run =>
        run.ReadsSafely ∧ run.Unoccupied))

theorem SoundlyHosted.createRun {host : RunHost}
    (sound : host.SoundlyHosted) {settings : HostSettings}
    {request : RunCreateRequest}
    (allowed : host.Allows settings (.createRun request)) :
    (host.createRun settings.sha256Hex settings.journal
      request).SoundlyHosted := by
  unfold RunHost.createRun
  split
  · exact sound
  next noDuplicate =>
  split
  · next runId hosted answered =>
    obtain ⟨sameId, found⟩ := answer_sameKey answered
    rcases allowed with duplicate | unknown
    · rw [noDuplicate] at duplicate
      cases duplicate
    · rw [← sameId, found] at unknown
      cases unknown
  · exact sound
  · apply sound.register
    · exact Nat.le_refl 1
    · intro other member
      cases List.mem_singleton.mp member

theorem SoundlyHosted.registerRun {host : RunHost}
    (sound : host.SoundlyHosted) {settings : HostSettings}
    {request : RunCreateRequest} {skip : Bool}
    (allowed : host.Allows settings (.registerRun request skip)) :
    (host.registerRun settings.sha256Hex settings.journal request
      skip).SoundlyHosted := by
  unfold RunHost.registerRun
  split
  · next runId hosted answered =>
    obtain ⟨sameId, found⟩ := answer_sameKey answered
    subst sameId
    have soundlyRun := sound _ hosted found
    apply sound.update
    rw [soundlyRun.load (allowed.apply found)]
    exact soundlyRun
  · exact sound
  · apply sound.register
    · exact Nat.zero_le 1
    · exact fun _ => List.not_mem_nil

theorem SoundlyHosted.scanProject {host : RunHost}
    (sound : host.SoundlyHosted) {settings : HostSettings}
    {request : RunCreateRequest}
    (allowed : host.ScanMayStart settings.sha256Hex request) :
    (host.scanProject settings.sha256Hex settings.journal
      request).SoundlyHosted := by
  unfold RunHost.scanProject
  unfold ScanMayStart at allowed
  cases answered : host.answer settings.sha256Hex request false with
  | sameKey runId hosted =>
      rw [answered] at allowed
      obtain ⟨-, found⟩ := answer_sameKey answered
      have soundlyRun := sound runId hosted found
      apply sound.update
      rw [soundlyRun.load allowed.1]
      exact soundlyRun.ensurePipeline allowed.2
  | activeDuplicate runId =>
      rw [answered] at allowed
      dsimp only
      split
      · exact sound
      · next hosted found =>
        apply sound.update
        exact (sound runId hosted found).ensurePipeline (allowed.apply found)
  | newRun runId =>
      apply sound.register
      · exact Nat.le_refl 1
      · intro other member
        cases List.mem_singleton.mp member

section

variable [PyRuntime]

theorem SoundlyHosted.step {host next : RunHost} {settings : HostSettings}
    {action : HostAction} (sound : host.SoundlyHosted)
    (allowed : host.Allows settings action)
    (stepped : hostStep settings host action = some next) :
    next.SoundlyHosted := by
  unfold hostStep at stepped
  cases action with
  | onRun runId action =>
      dsimp only at stepped
      split at stepped
      · cases stepped
      next hosted found =>
      obtain ⟨served, served_stepped, rfl⟩ := Option.map_eq_some_iff.mp stepped
      have soundlyRun := sound runId hosted found
      have safe : host.At runId (·.SafeAction action) := allowed
      apply sound.update
      exact
        ⟨soundlyRun.reviewed.step (safe.apply found) served_stepped,
          (ServedRun.runStep_pipelineClaims served_stepped).trans
            soundlyRun.claimedOnce⟩
  | listRuns =>
      cases stepped
      intro runId found lookup
      rw [Dict.get?_mapValues] at lookup
      obtain ⟨hosted, present, rfl⟩ := Option.map_eq_some_iff.mp lookup
      have soundlyRun := sound runId hosted present
      have safe := allowed hosted (Dict.mem_values.mpr ⟨runId, present⟩)
      dsimp only
      rw [soundlyRun.reviewed.read_eq safe]
      exact soundlyRun
  | tick seconds =>
      cases stepped
      exact sound
  | createRun request =>
      cases stepped
      exact sound.createRun allowed
  | registerRun request skip =>
      cases stepped
      exact sound.registerRun allowed
  | scanProject request =>
      cases stepped
      exact sound.scanProject allowed
  | runLanggraphPipeline runId =>
      dsimp only at stepped
      split at stepped
      · cases stepped
      next hosted found =>
      cases stepped
      have soundlyRun := sound runId hosted found
      have holds : host.At runId fun run =>
          run.ReadsSafely ∧ run.MayStart := allowed
      obtain ⟨safe, mayStart⟩ := holds.apply found
      apply sound.update
      rw [soundlyRun.reviewed.read_eq safe]
      exact soundlyRun.ensurePipeline mayStart
  | requestRedo runId issueIds =>
      dsimp only at stepped
      split at stepped
      · cases stepped
      next hosted found =>
      cases stepped
      have soundlyRun := sound runId hosted found
      have holds : host.At runId fun run =>
          run.ReadsSafely ∧ run.Unoccupied := allowed
      obtain ⟨safe, unoccupied⟩ := holds.apply found
      apply sound.update
      rw [soundlyRun.reviewed.read_eq safe]
      exact soundlyRun.requestRedo unoccupied issueIds

end

end RunHost

/-- Whatever the order of commands, activities, graph steps, resumes, timers
and reads: while executions are only started for runs that execute nothing,
every run has at most one execution and one start of its pipeline. -/
theorem singleExecution_along [PyRuntime] (settings : HostSettings)
    (actions : List HostAction) (host : RunHost)
    (allowed : Along (hostStep settings)
      (fun before action => before.Allows settings action) {} actions)
    (reached : exec (hostStep settings) {} actions = some host) :
    host.SingleExecution := by
  have preserved : ∀ before action after, before.SoundlyHosted →
      before.Allows settings action →
        hostStep settings before action = some after →
          after.SoundlyHosted :=
    fun _ _ _ sound allows stepped => sound.step allows stepped
  have start : ({} : RunHost).SoundlyHosted := by
    intro runId hosted lookup
    rw [Dict.get?_empty] at lookup
    cases lookup
  have sound := exec_invariant_along preserved start allowed reached
  exact sound.singleExecution

/-! ## Commands for runs that execute already -/

section

local instance executionExampleRuntime : PyRuntime := asciiRuntime

def hostSettings : HostSettings :=
  { runSettings := reviewSettings
    sha256Hex := id
    journal := false }

/-- A run without review whose report has one finding. -/
def unreviewedDetail : RunDetail :=
  { id := ""
    plan :=
      { competitors := ["Acme"]
        dimensions := ["pricing"] }
    qaFindings :=
      [{ id := "Q1"
         severity := .warn
         detectedBy := .textQuality
         targetAgent := "writer"
         redoScope := { kind := .writerOnly } }] }

def pricingRequest : RunCreateRequest :=
  { idempotencyKey := "pricing"
    fingerprint := "active-run-pricing"
    detail := unreviewedDetail }

/-- The pipeline of the run of `pricingRequest`, from its start to its end. -/
def wholePipeline : List HostAction :=
  ([.startTask 0, visit .plannerHitl, visit .collectorDispatch] ++
    toWriter ++
    [visit .qa, visit .qaHitl,
      .node 0
        { work := unreviewedDetail
          next := none },
      .endGraph 0 unreviewedDetail true false]).map
    (HostAction.onRun "run-pricing")

/-- A run with one redo; the command is repeated and the scan comes late. -/
def singleRun : List HostAction :=
  [.createRun pricingRequest, .createRun pricingRequest] ++ wholePipeline ++
    [.listRuns, .scanProject pricingRequest, .requestRedo "run-pricing" ["Q1"],
      .onRun "run-pricing" (.startTask 0)]

theorem singleExecution_singleRun :
    ∃ host,
      exec (hostStep hostSettings) {} singleRun = some host ∧
        host.SingleExecution :=
  ⟨_, rfl, singleExecution_along hostSettings singleRun _ (by decide) rfl⟩

/-- A `create_run` repeated with its key after the window of the duplicates
starts the running pipeline again, and two redos accepted for one run execute
at the same time. -/
theorem singleExecution_fails_repeated :
    (∃ host,
      exec (hostStep hostSettings) {}
          [.createRun pricingRequest, .onRun "run-pricing" (.startTask 0),
            .tick 301, .createRun pricingRequest,
            .onRun "run-pricing" (.startTask 0)] = some host ∧
        ¬ host.SingleExecution) ∧
      ∃ host,
        exec (hostStep hostSettings) {}
            ([.createRun pricingRequest] ++ wholePipeline ++
              [.requestRedo "run-pricing" ["Q1"],
                .requestRedo "run-pricing" ["Q1"],
                .onRun "run-pricing" (.startTask 0),
                .onRun "run-pricing" (.startTask 0)]) = some host ∧
          ¬ host.SingleExecution := by
  refine ⟨⟨_, rfl, ?_⟩, ⟨_, rfl, ?_⟩⟩
  · intro single
    have twice := single.startedOnce "run-pricing" _ rfl
    exact absurd twice (by decide)
  · intro single
    have two := single.oneExecution "run-pricing" _ rfl
    exact absurd two (by decide)

end

end CompetiScope
