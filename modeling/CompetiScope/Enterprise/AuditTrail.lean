import CompetiScope.Enterprise.BackendStores
import CompetiScope.Foundation.Transition
import CompetiScope.Identity.JsonIdentity

/-!
# The audit trail of the two stores

Transitions of report versions, monitor jobs and notifications are written
with an audit entry each.  The in-memory store numbers its entries; in Postgres
an entry is filed under a digest of its action, its resource and its
after-state, and an entry whose digest is taken is dropped.
-/

namespace CompetiScope

open Foundation

def ReportStatus.value : ReportStatus → String
  | .draft => "draft"
  | .inReview => "in_review"
  | .approved => "approved"
  | .rejected => "rejected"
  | .published => "published"
  | .archived => "archived"

/-- What `_append_audit` is called with. -/
structure AuditDraft where
  workspaceId : String
  actorId : String
  action : String
  resourceType : String
  resourceId : String
  before : Option Json := none
  after : Json

/-- `AuditLogRecord`. -/
structure AuditLogRecord extends AuditDraft where
  id : String
  createdAt : Nat

/-- The digest and the JSON dumps of the records. -/
structure AuditSettings extends BackendSettings where
  sha256Hex : String → String
  jobDump : MonitorJobRecord → Json
  notificationDump : NotificationRecord → Json
  versionDump : ReportVersionRecord → Json

/-- The operations that are audited. -/
inductive AuditedOperation where
  | upsertMonitorJob (job : MonitorJobRecord) (actorId : Option String)
  | updateMonitorJob (monitorId : String) (update : MonitorJobUpdateRequest)
      (actorId : Option String)
  | recordMonitorJobRun (monitorId : String) (report : MonitorRunReport)
      (actorId : Option String)
  | upsertNotification (notification : NotificationRecord)
  | upsertReportVersion (version : ReportVersionRecord)
  | auditReportVersionTransition (version : ReportVersionRecord)
      (action : String) (actorId : Option String)
      (beforeStatus : Option String) (note : String)
      (metadata : Dict String Json)

/-- An operation at a time. -/
structure AuditedAction where
  operation : AuditedOperation
  now : Nat

/-- A store with its audit log; `recorded` are the drafts of the operations so
far and nothing reads them. -/
structure AuditedStore where
  store : BackendStore := { }
  auditLogs : List AuditLogRecord := []
  recorded : List (List AuditDraft) := []

/-- `actor_id or DEFAULT_USER_ID`. -/
def auditActor (actorId : Option String) : String :=
  (actorId.filter (· ≠ "")).getD "system-user"

/-- A text, or `null`. -/
def jsonText : Option String → Json
  | none => .null
  | some text => .str text

/-- The after-state of `record_monitor_job_run`. -/
def MonitorRunReport.after (report : MonitorRunReport) : Json :=
  .obj
    [("status", .str report.status.value),
      ("workflow_id", jsonText report.workflowId),
      ("run_id", jsonText report.runId),
      ("report_version_id", jsonText report.reportVersionId),
      ("error", .str report.error)]

/-- `report_transition_audit_after` without a gate. -/
def reportTransitionAuditAfter (version : ReportVersionRecord)
    (transition : String) (actorId : Option String) (note : String) :
    Dict String Json :=
  ((((((((((∅ : Dict String Json).set "transition" (.str transition)).set
    "actor_id" (jsonText actorId)).set "note" (.str note)).set
    "report_version_id" (.str version.id)).set
    "project_id" (.str version.scope.projectId)).set
    "run_id" (jsonText version.runId)).set
    "version_number" (.int version.versionNumber)).set
    "status" (.str version.status.value)).set "release_gate" (.obj []))

section

variable (settings : AuditSettings)

/-! ## The drafts of an operation -/

def jobDraft (actorId : Option String) (action : String)
    (before : Option MonitorJobRecord) (job : MonitorJobRecord)
    (after : Json) : AuditDraft :=
  { workspaceId := job.workspaceId
    actorId := auditActor actorId
    action := action
    resourceType := "monitor_job"
    resourceId := job.id
    before := before.map settings.jobDump
    after := after }

/-- The entry of an upsert, and another one when the status changes. -/
def versionDrafts (before : Option ReportVersionRecord)
    (version : ReportVersionRecord) : List AuditDraft :=
  let upserted : AuditDraft :=
    { workspaceId := version.workspaceId
      actorId := "system-user"
      action := "report_version.upserted"
      resourceType := "report_version"
      resourceId := version.id
      before := before.map settings.versionDump
      after := settings.versionDump version }
  match before with
  | none => [upserted]
  | some record =>
      if record.status = version.status then [upserted]
      else
        [upserted,
          { upserted with
            action := "report_version.status_changed"
            before := some (.obj [("status", .str record.status.value)])
            after :=
              .obj
                [("status", .str version.status.value),
                  ("project_id", .str version.scope.projectId),
                  ("version_number", .int version.versionNumber)] }]

def transitionDraft (version : ReportVersionRecord) (action : String)
    (actorId beforeStatus : Option String) (note : String)
    (metadata : Dict String Json) : AuditDraft :=
  { workspaceId := version.workspaceId
    actorId := auditActor actorId
    action := action
    resourceType := "report_version"
    resourceId := version.id
    before := (beforeStatus.filter (· ≠ "")).map fun status =>
      .obj [("status", .str status)]
    after :=
      .obj
        ((reportTransitionAuditAfter version action actorId note).update
          metadata).entries }

/-- What an operation writes and the drafts it audits; an operation on a job
that is not there does nothing. -/
def auditedEffect (backend : StoreBackend) (store : BackendStore)
    (action : AuditedAction) : Option (BackendStore × List AuditDraft) :=
  match action.operation with
  | .upsertMonitorJob job actorId =>
      let stored := { job with updatedAt := action.now }
      some
        (store.upsertMonitorJob backend job action.now,
          [jobDraft settings actorId "monitor_job.upserted"
            (store.jobs.get? job.id) stored (settings.jobDump stored)])
  | .updateMonitorJob monitorId update actorId =>
      match store.jobs.get? monitorId,
          store.updateMonitorJob backend monitorId update action.now with
      | some current, some next =>
          let updated := current.applyUpdate update action.now
          some
            (next,
              [jobDraft settings actorId "monitor_job.updated" (some current)
                updated (settings.jobDump updated)])
      | _, _ => none
  | .recordMonitorJobRun monitorId report actorId =>
      match store.jobs.get? monitorId,
          store.recordMonitorJobRun backend monitorId report
            action.now with
      | some current, some next =>
          some
            (next,
              [jobDraft settings actorId "monitor_job.run_recorded"
                (some current) (current.recordRun backend report action.now)
                report.after])
      | _, _ => none
  | .upsertNotification notification =>
      some
        (store.writeNotification backend notification,
          [{ workspaceId := notification.workspaceId
             actorId := auditActor notification.createdBy
             action := "notification.upserted"
             resourceType := "notification"
             resourceId := notification.id
             before :=
              (store.notifications.get? notification.id).map
                settings.notificationDump
             after := settings.notificationDump notification }])
  | .upsertReportVersion version =>
      let before := store.versions.get? version.id
      some
        (store.upsertReportVersion settings.toBackendSettings backend version,
          versionDrafts settings before
            (store.canonicalVersion backend version))
  | .auditReportVersionTransition version transition actorId beforeStatus note
      metadata =>
      some
        (store,
          [transitionDraft version transition actorId beforeStatus note
            metadata])

/-! ## The audit log -/

/-- A draft as it is stored. -/
def AuditDraft.stored (backend : StoreBackend) (draft : AuditDraft) :
    AuditDraft :=
  match backend with
  | .memory => draft
  | .postgres =>
      { draft with
        action := sanitizePostgresValue draft.action
        resourceType := sanitizePostgresValue draft.resourceType
        before := sanitizePostgresValue draft.before
        after := sanitizePostgresValue draft.after }

variable [PyRuntime]

/-- The id of a draft in Postgres. -/
def AuditDraft.digestId (draft : AuditDraft) : String :=
  stableJsonId settings.sha256Hex "audit"
    [.str draft.action, .str draft.resourceId, draft.after] 16

/-- `_append_audit`. -/
def appendAudit (backend : StoreBackend) (now : Nat)
    (auditLogs : List AuditLogRecord) (draft : AuditDraft) :
    List AuditLogRecord :=
  match backend with
  | .memory =>
      auditLogs ++
        [{ draft.stored .memory with
           id := stablePrefixedId settings.sha256Hex "audit"
            [.number (auditLogs.length + 1)] 12
           createdAt := now }]
  | .postgres =>
      if auditLogs.any fun log => log.id = draft.digestId settings then
        auditLogs
      else
        auditLogs ++
          [{ draft.stored .postgres with
             id := draft.digestId settings
             createdAt := now }]

/-- An audited operation. -/
def auditStep (backend : StoreBackend) (state : AuditedStore)
    (action : AuditedAction) : Option AuditedStore :=
  (auditedEffect settings backend state.store action).map fun effect =>
    { store := effect.1
      auditLogs :=
        effect.2.foldl (appendAudit settings backend action.now)
          state.auditLogs
      recorded := state.recorded ++ [effect.2.map (·.stored backend)] }

end

/-! ## Every operation keeps its entry -/

/-- The log holds the entries of every operation, in their order. -/
structure AuditComplete (state : AuditedStore) : Prop where
  entries : state.auditLogs.map (·.toAuditDraft) = state.recorded.flatten
  everyOperation : ∀ drafts ∈ state.recorded, drafts ≠ []

theorem AuditComplete.length {state : AuditedStore}
    (complete : AuditComplete state) :
    state.auditLogs.length = state.recorded.flatten.length := by
  rw [← complete.entries, List.length_map]

/-- Every operation audits something. -/
theorem auditedEffect_audits {settings : AuditSettings}
    {backend : StoreBackend} {store next : BackendStore}
    {action : AuditedAction} {drafts : List AuditDraft}
    (effect : auditedEffect settings backend store action =
      some (next, drafts)) : drafts ≠ [] := by
  obtain ⟨operation, now⟩ := action
  cases operation with
  | upsertMonitorJob job actorId =>
      cases effect
      exact List.cons_ne_nil _ _
  | updateMonitorJob monitorId update actorId =>
      simp only [auditedEffect] at effect
      split at effect
      · cases effect
        exact List.cons_ne_nil _ _
      · cases effect
  | recordMonitorJobRun monitorId report actorId =>
      simp only [auditedEffect] at effect
      split at effect
      · cases effect
        exact List.cons_ne_nil _ _
      · cases effect
  | upsertNotification notification =>
      cases effect
      exact List.cons_ne_nil _ _
  | upsertReportVersion version =>
      cases effect
      unfold versionDrafts
      split
      · exact List.cons_ne_nil _ _
      · split
        · exact List.cons_ne_nil _ _
        · exact List.cons_ne_nil _ _
  | auditReportVersionTransition version transition actorId beforeStatus note
      metadata =>
      cases effect
      exact List.cons_ne_nil _ _

section

variable [PyRuntime] {settings : AuditSettings} {backend : StoreBackend}

/-- The drafts have digests of their own, which no entry in the log has. -/
def FreshDrafts (settings : AuditSettings) (logs : List AuditLogRecord)
    (drafts : List AuditDraft) : Prop :=
  (drafts.map (·.digestId settings)).Nodup ∧
    ∀ draft ∈ drafts, draft.digestId settings ∉ logs.map (·.id)

instance (logs : List AuditLogRecord) (drafts : List AuditDraft) :
    Decidable (FreshDrafts settings logs drafts) :=
  inferInstanceAs (Decidable (_ ∧ _))

theorem appendAudit_of_known {logs : List AuditLogRecord}
    {draft : AuditDraft}
    (known : draft.digestId settings ∈ logs.map (·.id)) (now : Nat) :
    appendAudit settings .postgres now logs draft = logs := by
  obtain ⟨log, member, sameId⟩ := List.mem_map.mp known
  rw [appendAudit, if_pos]
  apply List.any_eq_true.mpr
  exact ⟨log, member, decide_eq_true sameId⟩

theorem appendAudit_of_unknown {logs : List AuditLogRecord}
    {draft : AuditDraft}
    (unknown : draft.digestId settings ∉ logs.map (·.id)) (now : Nat) :
    appendAudit settings .postgres now logs draft =
      logs ++
        [{ draft.stored .postgres with
           id := draft.digestId settings
           createdAt := now }] := by
  rw [appendAudit, if_neg]
  intro known
  obtain ⟨log, member, sameId⟩ := List.any_eq_true.mp known
  apply unknown
  rw [← of_decide_eq_true sameId]
  exact List.mem_map_of_mem member

/-- The digest reads the action, the resource and the state after. -/
theorem digestId_congr {draft other : AuditDraft}
    (sameAction : draft.action = other.action)
    (sameResource : draft.resourceId = other.resourceId)
    (sameAfter : draft.after = other.after) :
    draft.digestId settings = other.digestId settings := by
  unfold AuditDraft.digestId
  rw [sameAction, sameResource, sameAfter]

theorem digestId_mem_appendAudit (now : Nat) (logs : List AuditLogRecord)
    (draft : AuditDraft) :
    draft.digestId settings ∈
      (appendAudit settings .postgres now logs draft).map (·.id) := by
  by_cases known : draft.digestId settings ∈ logs.map (·.id)
  · rwa [appendAudit_of_known known]
  · rw [appendAudit_of_unknown known, List.map_append]
    apply List.mem_append_right
    exact List.mem_singleton.mpr rfl

theorem mem_appendAudit {logs : List AuditLogRecord} {id : String}
    (taken : id ∈ logs.map (·.id)) (now : Nat) (draft : AuditDraft) :
    id ∈ (appendAudit settings .postgres now logs draft).map (·.id) := by
  by_cases known : draft.digestId settings ∈ logs.map (·.id)
  · rwa [appendAudit_of_known known]
  · rw [appendAudit_of_unknown known, List.map_append]
    exact List.mem_append_left _ taken

/-! ### Drafts of one operation -/

theorem foldl_appendAudit_memory (now : Nat) (drafts : List AuditDraft)
    (logs : List AuditLogRecord) :
    (drafts.foldl (appendAudit settings .memory now) logs).map
        (·.toAuditDraft) =
      logs.map (·.toAuditDraft) ++ drafts.map (·.stored .memory) := by
  induction drafts generalizing logs with
  | nil =>
      rw [List.foldl_nil, List.map_nil, List.append_nil]
  | cons draft drafts induction =>
      rw [List.foldl_cons, induction, appendAudit, List.map_append,
        List.append_assoc]
      rfl

theorem foldl_appendAudit_fresh (now : Nat) {drafts : List AuditDraft}
    {logs : List AuditLogRecord}
    (fresh : FreshDrafts settings logs drafts) :
    (drafts.foldl (appendAudit settings .postgres now) logs).map
        (·.toAuditDraft) =
      logs.map (·.toAuditDraft) ++ drafts.map (·.stored .postgres) := by
  induction drafts generalizing logs with
  | nil =>
      rw [List.foldl_nil, List.map_nil, List.append_nil]
  | cons draft drafts induction =>
      obtain ⟨distinct, unknown⟩ := fresh
      rw [List.map_cons, List.nodup_cons] at distinct
      rw [List.foldl_cons,
        appendAudit_of_unknown (unknown draft List.mem_cons_self), induction]
      · rw [List.map_append, List.append_assoc]
        rfl
      · refine ⟨distinct.2, ?_⟩
        intro other member known
        rw [List.map_append, List.mem_append] at known
        rcases known with old | justAdded
        · exact unknown other (List.mem_cons_of_mem draft member) old
        · have sameDigest : other.digestId settings =
              draft.digestId settings :=
            List.mem_singleton.mp justAdded
          apply distinct.1
          rw [← sameDigest]
          exact List.mem_map_of_mem member

theorem length_foldl_appendAudit_le (settings : AuditSettings)
    (backend : StoreBackend) (now : Nat) (drafts : List AuditDraft)
    (logs : List AuditLogRecord) :
    (drafts.foldl (appendAudit settings backend now) logs).length ≤
      logs.length + drafts.length := by
  induction drafts generalizing logs with
  | nil => exact Nat.le_refl _
  | cons draft drafts induction =>
      have one : (appendAudit settings backend now logs draft).length ≤
          logs.length + 1 := by
        unfold appendAudit
        split
        · simp
        · split
          · omega
          · simp
      have rest := induction (appendAudit settings backend now logs draft)
      rw [List.foldl_cons, List.length_cons]
      omega

/-- Drafts that are not fresh lose an entry. -/
theorem length_foldl_appendAudit_lt (now : Nat) {drafts : List AuditDraft}
    {logs : List AuditLogRecord}
    (stale : ¬ FreshDrafts settings logs drafts) :
    (drafts.foldl (appendAudit settings .postgres now) logs).length <
      logs.length + drafts.length := by
  induction drafts generalizing logs with
  | nil =>
      refine (stale ⟨List.nodup_nil, ?_⟩).elim
      intro draft member
      cases member
  | cons draft drafts induction =>
      rw [List.foldl_cons, List.length_cons]
      by_cases known : draft.digestId settings ∈ logs.map (·.id)
      · rw [appendAudit_of_known known]
        have rest :=
          length_foldl_appendAudit_le settings .postgres now drafts logs
        omega
      · rw [appendAudit_of_unknown known]
        have staleRest : ¬ FreshDrafts settings
            (logs ++
              [{ draft.stored .postgres with
                 id := draft.digestId settings
                 createdAt := now }]) drafts := by
          rintro ⟨distinct, unknown⟩
          apply stale
          constructor
          · rw [List.map_cons, List.nodup_cons]
            refine ⟨?_, distinct⟩
            intro repeated
            obtain ⟨other, member, sameDigest⟩ := List.mem_map.mp repeated
            apply unknown other member
            rw [List.map_append]
            apply List.mem_append_right
            exact List.mem_singleton.mpr sameDigest
          · intro other member
            rcases List.mem_cons.mp member with same | later
            · rwa [same]
            · intro old
              apply unknown other later
              rw [List.map_append]
              exact List.mem_append_left _ old
        have rest := induction staleRest
        rw [List.length_append, List.length_singleton] at rest
        omega

/-! ### Runs -/

/-- In Postgres the entries of an operation have digests of their own, which
no entry in the log has. -/
def FreshDigests (settings : AuditSettings) (backend : StoreBackend)
    (state : AuditedStore) (action : AuditedAction) : Prop :=
  backend = .postgres →
    ∀ effect ∈ auditedEffect settings .postgres state.store action,
      FreshDrafts settings state.auditLogs effect.2

instance (state : AuditedStore) (action : AuditedAction) :
    Decidable (FreshDigests settings backend state action) :=
  inferInstanceAs (Decidable (_ → _))

theorem auditStep_complete {state next : AuditedStore}
    {action : AuditedAction} (complete : AuditComplete state)
    (fresh : FreshDigests settings backend state action)
    (stepped : auditStep settings backend state action = some next) :
    AuditComplete next := by
  obtain ⟨⟨store, drafts⟩, effect, rfl⟩ := Option.map_eq_some_iff.mp stepped
  have appended : (drafts.foldl (appendAudit settings backend action.now)
      state.auditLogs).map (·.toAuditDraft) =
        state.auditLogs.map (·.toAuditDraft) ++
          drafts.map (·.stored backend) := by
    cases backend with
    | memory => exact foldl_appendAudit_memory action.now drafts _
    | postgres =>
        exact foldl_appendAudit_fresh action.now
          (fresh rfl (store, drafts) effect)
  constructor
  case entries =>
    rw [appended, complete.entries, List.flatten_append,
      List.flatten_singleton]
  case everyOperation =>
    intro recorded member
    rcases List.mem_append.mp member with old | justAdded
    · exact complete.everyOperation recorded old
    · rw [List.mem_singleton.mp justAdded]
      intro nothing
      exact auditedEffect_audits effect (List.map_eq_nil_iff.mp nothing)

/-- Entries are missing in the log. -/
def LosesEntries (state : AuditedStore) : Prop :=
  state.auditLogs.length < state.recorded.flatten.length

theorem auditStep_losesEntries {state next : AuditedStore}
    {action : AuditedAction} (loses : LosesEntries state)
    (stepped : auditStep settings backend state action = some next) :
    LosesEntries next := by
  obtain ⟨⟨store, drafts⟩, effect, rfl⟩ := Option.map_eq_some_iff.mp stepped
  have appended := length_foldl_appendAudit_le settings backend action.now
    drafts state.auditLogs
  unfold LosesEntries at loses ⊢
  dsimp only
  rw [List.flatten_append, List.flatten_singleton, List.length_append,
    List.length_map]
  omega

/-- An operation whose entries are not fresh loses one. -/
theorem auditStep_stale {state next : AuditedStore}
    {action : AuditedAction} (complete : AuditComplete state)
    (stale : ¬ FreshDigests settings backend state action)
    (stepped : auditStep settings backend state action = some next) :
    LosesEntries next := by
  obtain ⟨⟨store, drafts⟩, effect, rfl⟩ := Option.map_eq_some_iff.mp stepped
  cases backend with
  | memory =>
      refine (stale ?_).elim
      intro isPostgres
      cases isPostgres
  | postgres =>
      have staleDrafts : ¬ FreshDrafts settings state.auditLogs drafts := by
        intro fresh
        apply stale
        intro _ other found
        rw [effect] at found
        cases found
        exact fresh
      have appended := length_foldl_appendAudit_lt action.now staleDrafts
      have sameLength := complete.length
      unfold LosesEntries
      rw [List.flatten_append, List.flatten_singleton, List.length_append,
        List.length_map, ← sameLength]
      exact appended

/-- A run keeps the entry of every operation exactly when no operation meets
a digest that is taken. -/
theorem auditTrail_complete_iff_along {state final : AuditedStore}
    {actions : List AuditedAction} (complete : AuditComplete state)
    (run : exec (auditStep settings backend) state actions = some final) :
    AuditComplete final ↔
      Along (auditStep settings backend) (FreshDigests settings backend)
        state actions := by
  induction actions generalizing state with
  | nil =>
      cases run
      exact iff_of_true complete trivial
  | cons action actions induction =>
      obtain ⟨next, stepped, rest⟩ := exec_cons_eq_some.mp run
      rw [Along, stepped]
      by_cases fresh : FreshDigests settings backend state action
      · rw [induction (auditStep_complete complete fresh stepped) rest]
        exact (and_iff_right fresh).symm
      · have loses : LosesEntries final :=
          exec_invariant
            (fun _ _ _ loses stepped => auditStep_losesEntries loses stepped)
            (auditStep_stale complete fresh stepped) rest
        apply iff_of_false
        · intro kept
          rw [LosesEntries, kept.length] at loses
          exact Nat.lt_irrefl _ loses
        · intro along
          exact fresh along.1

/-! ### Histories that revisit a state -/

theorem mem_foldl_appendAudit {logs : List AuditLogRecord} {id : String}
    (taken : id ∈ logs.map (·.id)) (now : Nat) (drafts : List AuditDraft) :
    id ∈ (drafts.foldl (appendAudit settings .postgres now) logs).map
      (·.id) := by
  induction drafts generalizing logs with
  | nil => exact taken
  | cons draft drafts induction =>
      rw [List.foldl_cons]
      exact induction (mem_appendAudit taken now draft)

theorem digestId_mem_foldl_appendAudit {drafts : List AuditDraft}
    {draft : AuditDraft} (member : draft ∈ drafts) (now : Nat)
    (logs : List AuditLogRecord) :
    draft.digestId settings ∈
      (drafts.foldl (appendAudit settings .postgres now) logs).map
        (·.id) := by
  induction drafts generalizing logs with
  | nil => cases member
  | cons first drafts induction =>
      rw [List.foldl_cons]
      rcases List.mem_cons.mp member with isFirst | later
      · subst isFirst
        exact mem_foldl_appendAudit
          (digestId_mem_appendAudit now logs draft) now drafts
      · exact induction later _

/-- An operation that makes an entry with the action, the resource and the
state after of an entry in the history is merged into it. -/
theorem not_freshDigests_of_revisit {state next later : AuditedStore}
    {action other : AuditedAction} {actions : List AuditedAction}
    {effect laterEffect : BackendStore × List AuditDraft}
    {earlier draft : AuditDraft}
    (found : auditedEffect settings .postgres state.store action =
      some effect)
    (member : earlier ∈ effect.2)
    (stepped : auditStep settings .postgres state action = some next)
    (run : exec (auditStep settings .postgres) next actions = some later)
    (laterFound : auditedEffect settings .postgres later.store other =
      some laterEffect)
    (laterMember : draft ∈ laterEffect.2)
    (sameAction : draft.action = earlier.action)
    (sameResource : draft.resourceId = earlier.resourceId)
    (sameAfter : draft.after = earlier.after) :
    ¬ FreshDigests settings .postgres later other := by
  have taken : earlier.digestId settings ∈ next.auditLogs.map (·.id) := by
    rw [auditStep, found] at stepped
    cases stepped
    exact digestId_mem_foldl_appendAudit member _ _
  have preserved : ∀ state action next,
      earlier.digestId settings ∈ state.auditLogs.map (·.id) →
      auditStep settings .postgres state action = some next →
      earlier.digestId settings ∈ next.auditLogs.map (·.id) := by
    intro state action next taken stepped
    obtain ⟨effect, -, rfl⟩ := Option.map_eq_some_iff.mp stepped
    exact mem_foldl_appendAudit taken action.now effect.2
  have kept : earlier.digestId settings ∈ later.auditLogs.map (·.id) :=
    exec_invariant preserved taken run
  intro fresh
  apply (fresh rfl laterEffect laterFound).2 draft laterMember
  rw [digestId_congr sameAction sameResource sameAfter]
  exact kept

end

/-! ## Transitions that are merged -/

namespace AuditExample

local instance auditExampleRuntime : PyRuntime := asciiRuntime

/-- A digest that tells the texts of the examples apart. -/
def digest (text : String) : String :=
  toString text.length ++ String.ofList text.toList.reverse

def settings : AuditSettings :=
  { parsing :=
      { sha256Hex := digest
        hostname := id
        normalizeKey := id
        dedupeKeys := fun _ => []
        duplicateRows := fun _ _ => [] }
    serialised := id
    sha256Hex := digest
    jobDump := fun job =>
      .obj [("id", .str job.id), ("updated_at", .int job.updatedAt)]
    notificationDump := fun notification =>
      .obj [("id", .str notification.id)]
    versionDump := fun version =>
      .obj
        [("id", .str version.id), ("status", .str version.status.value),
          ("transitions",
            .int version.qualityMetadata.reportLifecycle.length)] }

def monitor : MonitorJobRecord :=
  { id := "monitor"
    workspaceId := "acme"
    projectId := "project"
    name := "Weekly" }

def failed : MonitorRunReport :=
  { status := .failed
    error := "timeout" }

/-- A cycle of the monitor that fails. -/
def cycle (now : Nat) : AuditedAction :=
  { operation := .recordMonitorJobRun "monitor" failed none
    now := now }

/-- A monitor whose cycles fail in the same way at the given times. -/
def failingCycles (times : List Nat) : List AuditedAction :=
  { operation := .upsertMonitorJob monitor none
    now := 1 } :: times.map cycle

/-- A version with so many entries in its history. -/
def report (status : ReportStatus) (events : Nat) : ReportVersionRecord :=
  { id := "report"
    runId := none
    scope :=
      { projectId := "project"
        topicNormalized := "plans"
        competitorLayer := "L1"
        competitorSetHash := "hash" }
    versionNumber := 1
    status := status
    reportMd := "Plans."
    createdAt := 1
    qualityMetadata :=
      { reportLifecycle := List.replicate events
          { event := "transition"
            actorId := "reviewer"
            createdAt := 1 } } }

/-- The upsert of the version; its history has an entry for every time. -/
def upserted (status : ReportStatus) (now : Nat) : AuditedAction :=
  { operation := .upsertReportVersion (report status now)
    now := now }

/-- A version that is requested, approved, requested again and approved
again. -/
def approvals : List AuditedAction :=
  [upserted .inReview 1, upserted .approved 2, upserted .inReview 3,
    upserted .approved 4]

/-- A monitor that is paused. -/
def paused : List AuditedAction :=
  [{ operation := .upsertMonitorJob monitor none
     now := 1 },
    { operation := .updateMonitorJob "monitor"
        { status := some .paused } none
      now := 20 }]

/-- The Postgres store after a history. -/
def after (actions : List AuditedAction) : AuditedStore :=
  (exec (auditStep settings .postgres) { } actions).getD { }

theorem complete_empty : AuditComplete { } := by
  constructor
  case entries => rfl
  case everyOperation =>
    intro drafts member
    cases member

/-- The entries of a monitor that is paused are kept. -/
theorem auditTrail_complete_iff_along_paused :
    ∃ final, exec (auditStep settings .postgres) { } paused = some final ∧
      AuditComplete final := by
  have run : ∃ final,
      exec (auditStep settings .postgres) { } paused = some final :=
    ⟨_, rfl⟩
  obtain ⟨final, run⟩ := run
  refine ⟨final, run, ?_⟩
  apply (auditTrail_complete_iff_along complete_empty run).mpr
  decide +kernel

/-- In Postgres two cycles that fail in the same way leave one entry, and so
do two approvals of a version that is requested again in between. -/
theorem auditTrail_merges :
    (∃ final, exec (auditStep settings .postgres) { }
        (failingCycles [2, 3]) = some final ∧ ¬ AuditComplete final) ∧
      ∃ final, exec (auditStep settings .postgres) { } approvals =
        some final ∧ ¬ AuditComplete final := by
  constructor
  case left =>
    have run : ∃ final, exec (auditStep settings .postgres) { }
        (failingCycles [2, 3]) = some final :=
      ⟨_, rfl⟩
    obtain ⟨final, run⟩ := run
    refine ⟨final, run, ?_⟩
    intro complete
    have along :=
      (auditTrail_complete_iff_along complete_empty run).mp complete
    refine @not_freshDigests_of_revisit _ settings
      (after (failingCycles [])) (after (failingCycles [2]))
      (after (failingCycles [2])) (cycle 2) (cycle 3) [] _ _ _ _
      rfl List.mem_cons_self rfl rfl rfl List.mem_cons_self ?_ ?_ ?_
      along.2.2.1
    case refine_1 => rfl
    case refine_2 => rfl
    case refine_3 => rfl
  case right =>
    have run : ∃ final, exec (auditStep settings .postgres) { }
        approvals = some final :=
      ⟨_, rfl⟩
    obtain ⟨final, run⟩ := run
    refine ⟨final, run, ?_⟩
    intro complete
    have along :=
      (auditTrail_complete_iff_along complete_empty run).mp complete
    refine @not_freshDigests_of_revisit _ settings
      (after (approvals.take 1)) (after (approvals.take 2))
      (after (approvals.take 3)) (upserted .approved 2)
      (upserted .approved 4) [upserted .inReview 3] _ _ _ _
      rfl (List.mem_cons_of_mem _ List.mem_cons_self) rfl rfl rfl
      (List.mem_cons_of_mem _ List.mem_cons_self) ?_ ?_ ?_
      along.2.2.2.1
    case refine_1 => rfl
    case refine_2 => rfl
    case refine_3 => rfl

end AuditExample

end CompetiScope
