import CompetiScope.Identity.StableIds
import CompetiScope.Orchestrator.ServedRun

/-!
# Commands on the run service

The commands of `runtime/service.py` and the activities of
`workflows/activities.py` that create runs and start graph executions, on
top of the life of each single run.
-/

namespace CompetiScope

open Foundation

/-- An entry of `_runs` with what the search for duplicates looks at. -/
structure HostedRun where
  fingerprint : String
  createdAt : Nat
  served : ServedRun

/-- The runs of a `RunService` and its clock in seconds. -/
structure RunHost where
  now : Nat := 0
  runs : Dict String HostedRun := ∅

/-- A `RunCreateRequest` as the service sees it.  `fingerprint` is what
`_active_run_fingerprint` makes of the request, `detail` the drafted run; a
request without key counts as one with a key of its own. -/
structure RunCreateRequest where
  idempotencyKey : String
  fingerprint : String
  detail : RunDetail

inductive HostAction where
  /-- A step of one run: `get_run` and `resume_review` are its reads and
  reviews. -/
  | onRun (runId : String) (action : RunAction)
  | listRuns
  | tick (seconds : Nat)
  /-- The command `create_run` on its `langgraph` route. -/
  | createRun (request : RunCreateRequest)
  /-- The activity `create_run`, and `ensure_run_visible`, which skips the
  search for duplicates. -/
  | registerRun (request : RunCreateRequest) (skipActiveDuplicateCheck : Bool)
  /-- The activities `run_project_scan` and `run_cycle`. -/
  | scanProject (request : RunCreateRequest)
  /-- The activity `run_langgraph_pipeline`. -/
  | runLanggraphPipeline (runId : String)
  /-- The command `request_redo`. -/
  | requestRedo (runId : String) (issueIds : List String)

/-- `ACTIVE_RUN_DUPLICATE_STATUSES`. -/
def activeRunDuplicateStatuses : List RunStatus :=
  [.queued, .running, .interrupted]

/-- `ACTIVE_RUN_DUPLICATE_WINDOW_SECONDS`. -/
def activeRunDuplicateWindowSeconds : Nat :=
  300

/-- The first of the entries created last. -/
def newestRun : List (String × HostedRun) → Option (String × HostedRun)
  | [] => none
  | entry :: entries =>
      match newestRun entries with
      | none => some entry
      | some newest =>
          if entry.2.createdAt < newest.2.createdAt then some newest
          else some entry

namespace RunHost

/-- `_find_active_duplicate_run`. -/
def findActiveDuplicateRun (host : RunHost) (fingerprint : String) :
    Option String :=
  (newestRun (host.runs.entries.filter fun entry =>
    entry.2.fingerprint = fingerprint &&
      entry.2.served.detail.status ∈ activeRunDuplicateStatuses &&
      host.now - entry.2.createdAt ≤ activeRunDuplicateWindowSeconds)).map
        Prod.fst

/-- Replace the run of an entry. -/
def update (host : RunHost) (runId : String) (hosted : HostedRun)
    (served : ServedRun) : RunHost :=
  { host with
    runs := host.runs.set runId { hosted with served := served } }

end RunHost

namespace ServedRun

/-- `can_start_redo`. -/
def canStartRedo (run : ServedRun) (preferredIssueIds : List String) :
    Bool :=
  run.detail.qaFindings ≠ [] && !run.detail.redoLimitReached &&
    (preferredIssueIds = [] ||
      selectRedoIssues run.detail preferredIssueIds ≠ [])

def withTask (run : ServedRun) (task : RunTask) : ServedRun :=
  { run with tasks := run.tasks ++ [task] }

/-- `request_redo` from its checks on. -/
def requestRedo (run : ServedRun) (issueIds : List String) : ServedRun :=
  if run.hasPendingInterrupt then run
  else if issueIds ≠ [] ∧ !run.canStartRedo issueIds then run
  else if !run.canStartRedo [] then run
  else run.withTask (.scopedRedo issueIds)

/-- An activity goes on with `run_pipeline`, unless the run is settled. -/
def ensurePipeline (run : ServedRun) : ServedRun :=
  if run.settled then run else run.startPipeline

/-- `_load_run_record`, which reads a configured journal. -/
def load (run : ServedRun) (journal : Bool) : ServedRun :=
  if journal then run.hydratePendingInterruptFromDetail else run

end ServedRun

/-- What `create_run` of the service answers with. -/
inductive CreateAnswer where
  /-- The run of the idempotency key. -/
  | sameKey (runId : String) (hosted : HostedRun)
  | activeDuplicate (runId : String)
  | newRun (runId : String)

/-- The run `create_run` of the service finds for a request. -/
def RunHost.answer (host : RunHost) (sha256Hex : String → String)
    (request : RunCreateRequest) (skipActiveDuplicateCheck : Bool) :
    CreateAnswer :=
  let runId := computeRunIdForIdempotencyKey sha256Hex request.idempotencyKey
  match host.runs.get? runId with
  | some hosted => .sameKey runId hosted
  | none =>
      if skipActiveDuplicateCheck then .newRun runId
      else
        match host.findActiveDuplicateRun request.fingerprint with
        | some duplicate => .activeDuplicate duplicate
        | none => .newRun runId

namespace RunHost

/-- `create_run` of the service registers a drafted run. -/
def register (host : RunHost) (runId : String) (request : RunCreateRequest)
    (tasks : List RunTask) : RunHost :=
  { host with
    runs :=
      host.runs.set runId
        { fingerprint := request.fingerprint
          createdAt := host.now
          served :=
            { detail :=
                { request.detail with
                  id := runId
                  status := .queued
                  currentNode := some "planner" }
              tasks := tasks } } }

/-- The command `create_run`: an active duplicate is the answer, any other
run `create_run` of the service returns is started. -/
def createRun (host : RunHost) (sha256Hex : String → String) (journal : Bool)
    (request : RunCreateRequest) : RunHost :=
  match host.findActiveDuplicateRun request.fingerprint with
  | some _ => host
  | none =>
      match host.answer sha256Hex request false with
      | .sameKey runId hosted =>
          host.update runId hosted
            ((hosted.served.load journal).withTask .pipeline)
      | .activeDuplicate _ => host
      | .newRun runId => host.register runId request [.pipeline]

/-- `create_run` of the service for a caller that starts nothing. -/
def registerRun (host : RunHost) (sha256Hex : String → String)
    (journal : Bool) (request : RunCreateRequest)
    (skipActiveDuplicateCheck : Bool) : RunHost :=
  match host.answer sha256Hex request skipActiveDuplicateCheck with
  | .sameKey runId hosted =>
      host.update runId hosted (hosted.served.load journal)
  | .activeDuplicate _ => host
  | .newRun runId => host.register runId request []

/-- `run_project_scan` and `run_cycle`: the run `create_run` of the service
returns goes through its pipeline, unless it is settled. -/
def scanProject (host : RunHost) (sha256Hex : String → String)
    (journal : Bool) (request : RunCreateRequest) : RunHost :=
  match host.answer sha256Hex request false with
  | .sameKey runId hosted =>
      host.update runId hosted (hosted.served.load journal).ensurePipeline
  | .activeDuplicate runId =>
      match host.runs.get? runId with
      | none => host
      | some hosted => host.update runId hosted hosted.served.ensurePipeline
  | .newRun runId => host.register runId request [.activityPipeline]

end RunHost

/-- The configuration of a service: the settings of its runs, its digest and
whether it has a journal. -/
structure HostSettings where
  runSettings : RunSettings
  sha256Hex : String → String
  journal : Bool

/-- The steps of a run service. -/
def hostStep [PyRuntime] (settings : HostSettings) (host : RunHost) :
    HostAction → Option RunHost
  | .onRun runId action =>
      match host.runs.get? runId with
      | none => none
      | some hosted =>
          (runStep settings.runSettings hosted.served action).map fun served =>
            host.update runId hosted served
  | .listRuns =>
      some
        { host with
          runs := host.runs.mapValues fun _ hosted =>
            { hosted with served := hosted.served.read } }
  | .tick seconds => some { host with now := host.now + seconds }
  | .createRun request =>
      some (host.createRun settings.sha256Hex settings.journal request)
  | .registerRun request skipActiveDuplicateCheck =>
      some
        (host.registerRun settings.sha256Hex settings.journal request
          skipActiveDuplicateCheck)
  | .scanProject request =>
      some (host.scanProject settings.sha256Hex settings.journal request)
  | .runLanggraphPipeline runId =>
      match host.runs.get? runId with
      | none => none
      | some hosted =>
          some (host.update runId hosted hosted.served.read.ensurePipeline)
  | .requestRedo runId issueIds =>
      match host.runs.get? runId with
      | none => none
      | some hosted =>
          some
            (host.update runId hosted (hosted.served.read.requestRedo issueIds))

end CompetiScope
