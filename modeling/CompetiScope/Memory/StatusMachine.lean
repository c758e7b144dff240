import CompetiScope.Foundation.Transition
import CompetiScope.Memory.PreferenceStore

/-!
# The statuses of memory candidates

A status other than `candidate` is a reviewer's decision.  Every write goes
through the merge of `upsert_candidate`, which keeps a decision: extracting a
candidate again cannot undo one, and neither can the reviewer.
-/

namespace CompetiScope

open Foundation

namespace PreferenceStore

/-- The status of a stored candidate. -/
def status? (store : PreferenceStore) (candidateId : String) :
    Option MemoryCandidateStatus :=
  (store.getCandidate candidateId).map MemoryCandidate.status

def SameStatuses (before after : PreferenceStore) : Prop :=
  ∀ candidateId, after.status? candidateId = before.status? candidateId

def KeepsDecisions (before after : PreferenceStore) : Prop :=
  ∀ candidateId status, before.status? candidateId = some status →
    status ≠ .candidate → after.status? candidateId = some status

theorem SameStatuses.keepsDecisions {before after : PreferenceStore}
    (same : SameStatuses before after) : KeepsDecisions before after := by
  intro candidateId status found _
  rw [same candidateId]
  exact found

theorem KeepsDecisions.trans {first second third : PreferenceStore}
    (early : KeepsDecisions first second)
    (late : KeepsDecisions second third) : KeepsDecisions first third := by
  intro candidateId status found decided
  exact late candidateId status (early candidateId status found decided)
    decided

/-! ## What the operations do to the statuses -/

section Operations

variable [PyRuntime] {now : Nat} {store : PreferenceStore}

/-- The status an upsert leaves: a decision stays, otherwise the new one
counts. -/
def mergedStatus (current : Option MemoryCandidateStatus)
    (status : MemoryCandidateStatus) : MemoryCandidateStatus :=
  match current with
  | none => status
  | some current => if current ≠ .candidate then current else status

theorem upsertedCandidate_id (candidate : MemoryCandidate) :
    (store.upsertedCandidate now candidate).id = candidate.id := by
  unfold upsertedCandidate
  cases found : store.getCandidate candidate.id with
  | none => rfl
  | some existing =>
      have isId : existing.id = candidate.id := Table.key_of_get? found
      exact isId

theorem upsertedCandidate_status (candidate : MemoryCandidate) :
    (store.upsertedCandidate now candidate).status =
      mergedStatus (store.status? candidate.id) candidate.status := by
  unfold upsertedCandidate status?
  cases store.getCandidate candidate.id with
  | none => rfl
  | some existing => rfl

theorem status?_upsertCandidate (candidate : MemoryCandidate)
    (candidateId : String) :
    (store.upsertCandidate now candidate).2.status? candidateId =
      if candidateId = candidate.id then
        some (mergedStatus (store.status? candidate.id) candidate.status)
      else store.status? candidateId := by
  rw [← @upsertedCandidate_status _ now, status?, getCandidate,
    upsertCandidate, Table.get?_upsert, upsertedCandidate_id]
  split
  · rfl
  · rfl

/-- Writing a candidate with the status it is stored with changes no
status. -/
theorem sameStatuses_upsertCandidate {candidate : MemoryCandidate}
    (known : store.status? candidate.id = some candidate.status) :
    SameStatuses store (store.upsertCandidate now candidate).2 := by
  intro candidateId
  rw [status?_upsertCandidate, known]
  by_cases same : candidateId = candidate.id
  · rw [if_pos same, same, known, mergedStatus, ite_self]
  · rw [if_neg same]

theorem keepsDecisions_upsertCandidate (candidate : MemoryCandidate) :
    KeepsDecisions store (store.upsertCandidate now candidate).2 := by
  intro candidateId status found decided
  rw [status?_upsertCandidate]
  by_cases same : candidateId = candidate.id
  · rw [if_pos same, ← same, found, mergedStatus, if_pos decided]
  · rw [if_neg same]
    exact found

theorem keepsDecisions_upsertCandidates (candidates : List MemoryCandidate) :
    KeepsDecisions store (store.upsertCandidates now candidates) := by
  induction candidates generalizing store with
  | nil =>
      intro candidateId status found _
      exact found
  | cons candidate candidates induction =>
      exact (keepsDecisions_upsertCandidate candidate).trans induction

theorem status?_updateCandidateStatus {candidateId : String}
    {current : MemoryCandidateStatus}
    (found : store.status? candidateId = some current)
    (status : MemoryCandidateStatus) (other : String) :
    (store.updateCandidateStatus now candidateId status).2.status? other =
      if other = candidateId then some (mergedStatus (some current) status)
      else store.status? other := by
  cases stored : store.getCandidate candidateId with
  | none =>
      rw [status?, stored] at found
      cases found
  | some candidate =>
      have isId : candidate.id = candidateId := Table.key_of_get? stored
      rw [updateCandidateStatus, stored]
      dsimp only
      rw [status?_upsertCandidate, isId, found]

theorem updateCandidateStatus_of_missing {candidateId : String}
    (missing : store.status? candidateId = none)
    (status : MemoryCandidateStatus) :
    (store.updateCandidateStatus now candidateId status).2 = store := by
  have absent : store.getCandidate candidateId = none :=
    Option.map_eq_none_iff.mp missing
  rw [updateCandidateStatus, absent]

theorem keepsDecisions_updateCandidateStatus (candidateId : String)
    (status : MemoryCandidateStatus) :
    KeepsDecisions store
      (store.updateCandidateStatus now candidateId status).2 := by
  intro other kept found decided
  cases current : store.status? candidateId with
  | none =>
      rw [updateCandidateStatus_of_missing current]
      exact found
  | some before =>
      rw [status?_updateCandidateStatus current]
      by_cases same : other = candidateId
      · rw [same, current] at found
        cases found
        rw [if_pos same, mergedStatus, if_pos decided]
      · rw [if_neg same]
        exact found

/-! ## Recall -/

/-- Marking candidates as used changes no status. -/
theorem sameStatuses_markAllUsed {candidates : List MemoryCandidate}
    (known : ∀ candidate ∈ candidates,
      store.status? candidate.id = some candidate.status) :
    SameStatuses store (store.markAllUsed now candidates).2 := by
  induction candidates generalizing store with
  | nil => exact fun _ => rfl
  | cons candidate candidates induction =>
      have first : SameStatuses store (store.markUsed now candidate).2 := by
        apply sameStatuses_upsertCandidate
        exact known candidate List.mem_cons_self
      have rest := @induction (store.markUsed now candidate).2 (by
        intro other member
        rw [first other.id]
        exact known other (List.mem_cons_of_mem candidate member))
      intro candidateId
      exact (rest candidateId).trans (first candidateId)

/-- What is marked is what was recalled. -/
theorem map_id_markAllUsed (candidates : List MemoryCandidate) :
    (store.markAllUsed now candidates).1.map MemoryCandidate.id =
      candidates.map MemoryCandidate.id := by
  induction candidates generalizing store with
  | nil => rfl
  | cons candidate candidates induction =>
      rw [markAllUsed, List.map_cons, List.map_cons, induction]
      congr 1
      exact upsertedCandidate_id _

/-- A candidate that is ranked is a stored one the query selects, up to its
score. -/
theorem exists_of_mem_ranked {request : RecallRequest}
    {candidate : MemoryCandidate}
    (member : candidate ∈ store.ranked request) :
    ∃ stored ∈ store.candidates.values, request.selects stored = true ∧
      candidate.id = stored.id ∧ candidate.status = stored.status := by
  have sorted := List.mem_of_mem_take member
  rw [sortDescending, List.mem_insertionSort] at sorted
  obtain ⟨stored, listed, rfl⟩ := List.mem_map.mp sorted
  rw [listCandidates, sortDescending, List.mem_insertionSort,
    List.mem_filter] at listed
  exact ⟨stored, listed.1, listed.2, rfl, rfl⟩

omit [PyRuntime] in
theorem status?_of_mem_values {candidate : MemoryCandidate}
    (member : candidate ∈ store.candidates.values) :
    store.status? candidate.id = some candidate.status := by
  rw [status?, getCandidate, Table.mem_values.mp member, Option.map_some]

theorem status?_of_mem_ranked {request : RecallRequest}
    {candidate : MemoryCandidate}
    (member : candidate ∈ store.ranked request) :
    store.status? candidate.id = some candidate.status := by
  obtain ⟨stored, isStored, _, sameId, sameStatus⟩ :=
    exists_of_mem_ranked member
  rw [sameId, sameStatus]
  exact status?_of_mem_values isStored

theorem sameStatuses_recall (request : RecallRequest) :
    SameStatuses store (store.recallMemories now request).2 := by
  rw [recallMemories]
  dsimp only
  split
  · exact sameStatuses_markAllUsed fun _ => status?_of_mem_ranked
  · exact fun _ => rfl

/-- What is recalled is ranked. -/
theorem exists_ranked_of_mem_recall {request : RecallRequest}
    {candidate : MemoryCandidate}
    (member : candidate ∈ (store.recallMemories now request).1.candidates) :
    ∃ best ∈ store.ranked request, best.id = candidate.id := by
  rw [recallMemories] at member
  dsimp only at member
  split at member
  · have isId : candidate.id ∈
        (store.markAllUsed now (store.ranked request)).1.map
          MemoryCandidate.id := List.mem_map_of_mem member
    rw [map_id_markAllUsed] at isId
    exact List.mem_map.mp isId
  · exact ⟨candidate, member, rfl⟩

end Operations

end PreferenceStore

/-! ## Runs -/

inductive PreferenceOperation where
  | addFeedback (feedback : UserFeedbackRecord)
  | upsertCandidate (candidate : MemoryCandidate)
  | extractCandidates (feedback : UserFeedbackRecord) (autoConfirm : Bool)
  | updateCandidateStatus (candidateId : String)
      (status : MemoryCandidateStatus)
  | recallMemories (request : RecallRequest)

/-- An operation and the time it is made at. -/
structure PreferenceAction where
  now : Nat
  operation : PreferenceOperation

section Runs

variable [PyRuntime] (library : PreferenceLibrary)

def PreferenceStore.apply (store : PreferenceStore)
    (action : PreferenceAction) : PreferenceStore :=
  match action.operation with
  | .addFeedback feedback => (store.addFeedback library feedback).2
  | .upsertCandidate candidate =>
      (store.upsertCandidate action.now candidate).2
  | .extractCandidates feedback autoConfirm =>
      store.upsertCandidates action.now
        (extractCandidates library feedback autoConfirm action.now)
  | .updateCandidateStatus candidateId status =>
      (store.updateCandidateStatus action.now candidateId status).2
  | .recallMemories request => (store.recallMemories action.now request).2

def preferenceStep (store : PreferenceStore) (action : PreferenceAction) :
    Option PreferenceStore :=
  some (store.apply library action)

/-- What an operation owes to the reviewers: a status that is set is the one
asked for, what is extracted again keeps its decision, and what is archived or
rejected is not recalled. -/
def StatusSound (store : PreferenceStore) (action : PreferenceAction) : Prop :=
  match action.operation with
  | .addFeedback _ => store.SameStatuses (store.apply library action)
  | .upsertCandidate _ => store.KeepsDecisions (store.apply library action)
  | .extractCandidates _ _ =>
      store.KeepsDecisions (store.apply library action)
  | .updateCandidateStatus candidateId status =>
      (store.status? candidateId ≠ none →
        (store.apply library action).status? candidateId = some status) ∧
      ∀ other, other ≠ candidateId →
        (store.apply library action).status? other = store.status? other
  | .recallMemories request =>
      (∀ candidate ∈ (store.recallMemories action.now request).1.candidates,
        store.status? candidate.id ≠ some .rejected ∧
          store.status? candidate.id ≠ some .archived) ∧
      store.SameStatuses (store.apply library action)

/-- A status is only set where no other one has been decided on, and what is
not confirmed is only asked for where nothing has been rejected. -/
def Undecided (store : PreferenceStore) (action : PreferenceAction) : Prop :=
  match action.operation with
  | .updateCandidateStatus candidateId status =>
      ∀ current, store.status? candidateId = some current →
        current = .candidate ∨ current = status
  | .recallMemories request =>
      request.includeUnconfirmed = true →
        ∀ candidate ∈ store.candidates.values,
          candidate.workspaceId = request.workspaceId →
            candidate.projectId = request.projectId →
              candidate.status ≠ .rejected
  | _ => True

variable {library}

/-- No operation undoes a decision. -/
theorem keepsDecisions_apply (store : PreferenceStore)
    (action : PreferenceAction) :
    store.KeepsDecisions (store.apply library action) := by
  unfold PreferenceStore.apply
  cases action.operation with
  | addFeedback feedback => exact fun _ _ found _ => found
  | upsertCandidate candidate =>
      exact PreferenceStore.keepsDecisions_upsertCandidate candidate
  | extractCandidates feedback autoConfirm =>
      exact PreferenceStore.keepsDecisions_upsertCandidates _
  | updateCandidateStatus candidateId status =>
      exact PreferenceStore.keepsDecisions_updateCandidateStatus _ _
  | recallMemories request =>
      exact (PreferenceStore.sameStatuses_recall request).keepsDecisions

/-- A decision outlives every run. -/
theorem exec_keepsDecisions {store final : PreferenceStore}
    {actions : List PreferenceAction}
    (run : exec (preferenceStep library) store actions = some final) :
    store.KeepsDecisions final := by
  refine @exec_invariant _ _ _ store.KeepsDecisions ?_ _ _ _ ?_ run
  · intro state action next kept stepped
    cases stepped
    exact kept.trans (keepsDecisions_apply state action)
  · exact fun _ _ found _ => found

/-- A status is set exactly where no other one has been decided on. -/
theorem updateCandidateStatus_sets_iff {now : Nat} {store : PreferenceStore}
    {candidateId : String} {current status : MemoryCandidateStatus}
    (found : store.status? candidateId = some current) :
    (store.updateCandidateStatus now candidateId status).2.status?
        candidateId = some status ↔
      current = .candidate ∨ current = status := by
  rw [PreferenceStore.status?_updateCandidateStatus found, if_pos rfl,
    Option.some.injEq, PreferenceStore.mergedStatus]
  by_cases undecided : current = .candidate
  · simp [undecided]
  · simp [undecided]

/-- Only what is confirmed is recalled, unless the rest is asked for. -/
theorem recall_status {now : Nat} {store : PreferenceStore}
    {request : RecallRequest} {candidate : MemoryCandidate}
    (member : candidate ∈ (store.recallMemories now request).1.candidates) :
    ∃ stored ∈ store.candidates.values, candidate.id = stored.id ∧
      request.selects stored = true := by
  obtain ⟨best, isRanked, sameId⟩ :=
    PreferenceStore.exists_ranked_of_mem_recall member
  obtain ⟨stored, isStored, selected, isId, _⟩ :=
    PreferenceStore.exists_of_mem_ranked isRanked
  exact ⟨stored, isStored, sameId.symm.trans isId, selected⟩

theorem statusSound_of_undecided {store : PreferenceStore}
    {action : PreferenceAction} (undecided : Undecided store action) :
    StatusSound library store action := by
  obtain ⟨now, operation⟩ := action
  cases operation with
  | addFeedback feedback => exact fun _ => rfl
  | upsertCandidate candidate => exact keepsDecisions_apply store _
  | extractCandidates feedback autoConfirm =>
      exact keepsDecisions_apply store _
  | updateCandidateStatus candidateId status =>
      constructor
      · intro present
        obtain ⟨current, found⟩ := Option.ne_none_iff_exists'.mp present
        exact (updateCandidateStatus_sets_iff found).mpr
          (undecided current found)
      · intro other different
        cases current : store.status? candidateId with
        | none =>
            exact congrArg (PreferenceStore.status? · other)
              (PreferenceStore.updateCandidateStatus_of_missing current status)
        | some before =>
            exact (PreferenceStore.status?_updateCandidateStatus current
              status other).trans (if_neg different)
  | recallMemories request =>
      constructor
      · intro candidate member
        obtain ⟨stored, isStored, sameId, selected⟩ := recall_status member
        rw [sameId, PreferenceStore.status?_of_mem_values isStored]
        simp only [RecallRequest.selects, Bool.and_eq_true, Bool.or_eq_true,
          decide_eq_true_eq] at selected
        obtain ⟨⟨⟨workspace, project⟩, notArchived⟩, asked | confirmed⟩ :=
          selected
        · have notRejected :=
            undecided asked stored isStored workspace project
          exact ⟨fun same => notRejected (Option.some.inj same),
            fun same => notArchived (Option.some.inj same)⟩
        · rw [confirmed]
          exact ⟨nofun, nofun⟩
      · exact PreferenceStore.sameStatuses_recall request

theorem statusSound_along {store : PreferenceStore}
    {actions : List PreferenceAction}
    (undecided : Along (preferenceStep library) Undecided store actions) :
    Along (preferenceStep library) (StatusSound library) store actions := by
  refine @along_of_invariant _ _ _ _ _ (fun _ => True) ?_ ?_ _ _ trivial
    undecided
  · exact fun _ _ _ here => statusSound_of_undecided here
  · exact fun _ _ _ _ _ _ => trivial

end Runs

namespace PreferenceExample

local instance preferenceRuntime : PyRuntime := asciiRuntime

def library : PreferenceLibrary :=
  { sha256Hex := id
    redactText := fun text => (text, ∅) }

def officialSources (status : MemoryCandidateStatus) : MemoryCandidate :=
  { id := "memory-1"
    workspaceId := "w"
    projectId := "p"
    kind := .sourcePreference
    status := status
    statement := "Prefer official sources." }

def act (operation : PreferenceOperation) : PreferenceAction :=
  { now := 1
    operation := operation }

/-- A candidate is confirmed, extracted again and recalled. -/
def reviewed : List PreferenceAction :=
  [act (.upsertCandidate (officialSources .candidate)),
    act (.updateCandidateStatus "memory-1" .confirmed),
    act (.upsertCandidate (officialSources .candidate)),
    act (.recallMemories
      { workspaceId := "w"
        projectId := "p"
        markUsed := true })]

theorem statusSound_along_reviewed :
    Along (preferenceStep library) (StatusSound library) { } reviewed := by
  apply statusSound_along
  refine ⟨trivial, ?_, trivial, ?_, trivial⟩
  · intro current found
    cases found
    exact .inl rfl
  · exact nofun

/-- The recall of a run, which asks for confirmed candidates. -/
def recalledIds (store : PreferenceStore) : List String :=
  (store.recallMemories 2
    { workspaceId := "w"
      projectId := "p" }).1.candidates.map MemoryCandidate.id

/-- A confirmed candidate is archived. -/
def archivedLater : List PreferenceAction :=
  [act (.upsertCandidate (officialSources .confirmed)),
    act (.updateCandidateStatus "memory-1" .archived)]

/-- It is still recalled. -/
theorem archived_stays_confirmed :
    ¬ Along (preferenceStep library) (StatusSound library) { }
        archivedLater ∧
      (exec (preferenceStep library) { } archivedLater).map recalledIds =
        some ["memory-1"] := by
  constructor
  · rintro ⟨-, ⟨sets, -⟩, -⟩
    have isArchived := sets nofun
    cases isArchived
  · decide +kernel

end PreferenceExample

end CompetiScope
