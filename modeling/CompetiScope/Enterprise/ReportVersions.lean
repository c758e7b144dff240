import CompetiScope.Foundation.Collections
import CompetiScope.Foundation.Dict
import CompetiScope.Foundation.Transition
import CompetiScope.Identity.StableIds

/-!
# Version numbers of reports

A version belongs to a scope and carries a number in it.  Three producers
compute the next number: a projection of a run takes the number of the run's
latest version when it has one, a manual revision the scope's maximum plus one
and a gap fill the project's.  The numbers identify the versions as long as
every projection writes the run's latest version again.
-/

namespace CompetiScope

open Foundation

structure ReportScope where
  projectId : String
  topicNormalized : String
  competitorLayer : String
  competitorSetHash : String
  deriving DecidableEq

inductive ReportStatus where
  | draft
  | inReview
  | approved
  | rejected
  | published
  | archived
  deriving DecidableEq

structure ReportVersion where
  id : String
  runId : Option String
  parentVersionId : Option String := none
  scope : ReportScope
  versionNumber : Nat
  status : ReportStatus := .draft
  reportMd : String
  createdAt : Nat
  deriving DecidableEq

/-- `report_versions` of the store: every version under its own id. -/
structure ReportStore where
  versions : Dict String ReportVersion
  keyed : ∀ id version, versions.get? id = some version → version.id = id

namespace ReportStore

def empty : ReportStore :=
  { versions := ∅
    keyed := by
      intro id version found
      cases found }

/-- Write a version under its id. -/
def upsert (store : ReportStore) (version : ReportVersion) : ReportStore :=
  { versions := store.versions.set version.id version
    keyed := by
      intro id stored found
      rw [Dict.get?_set] at found
      split at found
      · next same =>
          cases found
          exact same.symm
      · exact store.keyed id stored found }

def Holds (store : ReportStore) (version : ReportVersion) : Prop :=
  store.versions.get? version.id = some version

instance (store : ReportStore) (version : ReportVersion) :
    Decidable (store.Holds version) :=
  inferInstanceAs (Decidable (store.versions.get? version.id = some version))

theorem mem_values {store : ReportStore} {version : ReportVersion} :
    version ∈ store.versions.values ↔ store.Holds version := by
  rw [Dict.mem_values]
  constructor
  · rintro ⟨key, found⟩
    rw [Holds, store.keyed key version found]
    exact found
  · intro holds
    exact ⟨version.id, holds⟩

theorem holds_upsert {store : ReportStore} {version stored : ReportVersion} :
    (store.upsert version).Holds stored ↔
      stored = version ∨ stored.id ≠ version.id ∧ store.Holds stored := by
  rw [Holds, upsert, Dict.get?_set]
  by_cases same : stored.id = version.id
  · rw [if_pos same]
    constructor
    · intro found
      exact .inl (Option.some.inj found).symm
    · rintro (rfl | ⟨different, -⟩)
      · rfl
      · exact (different same).elim
  · rw [if_neg same]
    constructor
    · intro found
      exact .inr ⟨same, found⟩
    · rintro (rfl | ⟨-, found⟩)
      · exact (same rfl).elim
      · exact found

/-! ## The next number -/

/-- One more than the greatest number, 1 when there is none. -/
def nextNumber (versions : List ReportVersion) : Nat :=
  match (versions.map (·.versionNumber)).max? with
  | some greatest => greatest + 1
  | none => 1

theorem lt_nextNumber {versions : List ReportVersion}
    {version : ReportVersion} (member : version ∈ versions) :
    version.versionNumber < nextNumber versions := by
  have listed := List.mem_map_of_mem (f := (·.versionNumber)) member
  unfold nextNumber
  split
  · next greatest found =>
      have bound := (List.max?_eq_some_iff.mp found).2 _ listed
      exact Nat.lt_succ_of_le bound
  · next none =>
      rw [List.max?_eq_none_iff] at none
      rw [none] at listed
      cases listed

/-- `next_report_version_number`. -/
def nextReportVersionNumber (store : ReportStore) (scope : ReportScope) :
    Nat :=
  nextNumber (store.versions.values.filter (·.scope = scope))

/-- `_next_version_number` of the gap fill, over the whole project. -/
def nextVersionNumber (store : ReportStore) (projectId : String) : Nat :=
  nextNumber (store.versions.values.filter (·.scope.projectId = projectId))

theorem lt_nextReportVersionNumber {store : ReportStore}
    {version : ReportVersion} (holds : store.Holds version) :
    version.versionNumber < store.nextReportVersionNumber version.scope :=
  lt_nextNumber (List.mem_filter.mpr ⟨mem_values.mpr holds, by simp⟩)

theorem lt_nextVersionNumber {store : ReportStore} {version : ReportVersion}
    (holds : store.Holds version) :
    version.versionNumber <
      store.nextVersionNumber version.scope.projectId :=
  lt_nextNumber (List.mem_filter.mpr ⟨mem_values.mpr holds, by simp⟩)

/-! ## The latest version of a run -/

/-- The later of two versions by number and creation, the first on a tie. -/
def later (first second : ReportVersion) : ReportVersion :=
  if first.versionNumber < second.versionNumber ∨
      first.versionNumber = second.versionNumber ∧
        first.createdAt < second.createdAt then second
  else first

def latest : List ReportVersion → Option ReportVersion
  | [] => none
  | version :: versions => some (versions.foldl later version)

private theorem foldl_later_mem (versions : List ReportVersion)
    (version : ReportVersion) :
    versions.foldl later version ∈ version :: versions := by
  apply foldl_mem_of_choice
  intro first second
  unfold later
  split
  · exact .inr rfl
  · exact .inl rfl

/-- `get_run_projection`, as far as its report version goes. -/
def getRunProjection (store : ReportStore) (runId : String) :
    Option ReportVersion :=
  latest (store.versions.values.filter (·.runId = some runId))

theorem holds_of_getRunProjection {store : ReportStore} {runId : String}
    {version : ReportVersion}
    (found : store.getRunProjection runId = some version) :
    store.Holds version := by
  have member : version ∈
      store.versions.values.filter (·.runId = some runId) := by
    revert found
    unfold getRunProjection
    cases store.versions.values.filter (·.runId = some runId) with
    | nil =>
        intro found
        cases found
    | cons first rest =>
        intro found
        rw [← Option.some.inj found]
        exact foldl_later_mem rest first
  exact mem_values.mp (List.mem_of_mem_filter member)

end ReportStore

/-! ## Store operations -/

/-- What a projection of a run is built from. -/
structure RunReport where
  runId : String
  scope : ReportScope
  reportMd : String
  updatedAt : Nat

inductive StoreOperation where
  | syncProjection (run : RunReport)
  | reviseManually (source : ReportVersion) (reportMd : String) (now : Nat)
  | fillGaps (source : ReportVersion) (filledGapIds candidateIds : List String)
      (reportMd : String) (now : Nat)
  | updateStatus (versionId : String) (status : ReportStatus)

section

variable (sha256Hex : String → String)

/-- The version `build_enterprise_projection` builds. -/
def projectedVersion (run : RunReport) (versionNumber : Nat) :
    ReportVersion :=
  { id := computeReportVersionId sha256Hex run.runId versionNumber
      run.scope.topicNormalized run.scope.competitorSetHash
    runId := some run.runId
    scope := run.scope
    versionNumber := versionNumber
    reportMd := run.reportMd
    createdAt := run.updatedAt }

/-- The number `_sync_enterprise_projection` gives to a run. -/
def projectionNumber (store : ReportStore) (run : RunReport) : Nat :=
  match store.getRunProjection run.runId with
  | some existing => existing.versionNumber
  | none => store.nextReportVersionNumber run.scope

/-- `_sync_enterprise_projection`. -/
def syncEnterpriseProjection (store : ReportStore) (run : RunReport) :
    ReportStore :=
  store.upsert
    (projectedVersion sha256Hex run (projectionNumber store run))

/-- The draft of `_create_manual_report_revision`. -/
def manualRevision (store : ReportStore) (source : ReportVersion)
    (reportMd : String) (now : Nat) : ReportVersion :=
  let nextVersion := store.nextReportVersionNumber source.scope
  { source with
    id := stablePrefixedId sha256Hex "report-version-manual"
      [.text source.id, .number nextVersion, .text reportMd] 16
    parentVersionId := some source.id
    versionNumber := nextVersion
    status := .draft
    reportMd := reportMd
    createdAt := now }

/-- The draft of `_write_gap_fill_report_version`. -/
def gapFillVersion (store : ReportStore) (source : ReportVersion)
    (filledGapIds candidateIds : List String) (reportMd : String)
    (now : Nat) : ReportVersion :=
  { source with
    id := computeGapFillReportVersionId sha256Hex source.id filledGapIds
      candidateIds
    parentVersionId := some source.id
    versionNumber := store.nextVersionNumber source.scope.projectId
    status := .draft
    reportMd := reportMd
    createdAt := now }

def storeStep (store : ReportStore) : StoreOperation → Option ReportStore
  | .syncProjection run =>
      some (syncEnterpriseProjection sha256Hex store run)
  | .reviseManually source reportMd now =>
      some (store.upsert (manualRevision sha256Hex store source reportMd now))
  | .fillGaps source filledGapIds candidateIds reportMd now =>
      some (store.upsert
        (gapFillVersion sha256Hex store source filledGapIds candidateIds
          reportMd now))
  | .updateStatus versionId status =>
      (store.versions.get? versionId).map fun version =>
        store.upsert { version with status := status }

end

/-! ## What numbers are for -/

/-- In one scope a number belongs to one version. -/
def NumbersIdentify (store : ReportStore) : Prop :=
  ∀ first second, store.Holds first → store.Holds second →
    first.scope = second.scope →
      first.versionNumber = second.versionNumber → first.id = second.id

/-- A version that was not stored before has a number above its scope. -/
def CreatesAbove (before after : ReportStore) : Prop :=
  ∀ created, after.Holds created →
    before.versions.get? created.id = none →
      ∀ stored, before.Holds stored → stored.scope = created.scope →
        stored.versionNumber < created.versionNumber

/-- A projection of a run writes the run's latest version again, unless the
run has none. -/
def Resyncs (sha256Hex : String → String) (store : ReportStore) :
    StoreOperation → Prop
  | .syncProjection run =>
      ∀ existing ∈ store.getRunProjection run.runId,
        existing.scope = run.scope ∧
          existing.id =
            (projectedVersion sha256Hex run existing.versionNumber).id
  | .reviseManually _ _ _ => True
  | .fillGaps _ _ _ _ _ => True
  | .updateStatus _ _ => True

instance decidableResyncs (sha256Hex : String → String)
    (store : ReportStore) :
    ∀ operation, Decidable (Resyncs sha256Hex store operation)
  | .syncProjection run =>
      inferInstanceAs (Decidable (∀ existing ∈
        store.getRunProjection run.runId,
          existing.scope = run.scope ∧
            existing.id =
              (projectedVersion sha256Hex run existing.versionNumber).id))
  | .reviseManually _ _ _ => isTrue trivial
  | .fillGaps _ _ _ _ _ => isTrue trivial
  | .updateStatus _ _ => isTrue trivial

/-- Writing a version whose number no other version of its scope has. -/
theorem numbersIdentify_upsert {store : ReportStore}
    {version : ReportVersion} (identify : NumbersIdentify store)
    (free : ∀ stored, store.Holds stored → stored.scope = version.scope →
      stored.versionNumber = version.versionNumber →
        stored.id = version.id) :
    NumbersIdentify (store.upsert version) := by
  intro first second firstHolds secondHolds sameScope sameNumber
  rcases ReportStore.holds_upsert.mp firstHolds with rfl | ⟨-, firstOld⟩
  · rcases ReportStore.holds_upsert.mp secondHolds with rfl | ⟨-, secondOld⟩
    · rfl
    · exact (free second secondOld sameScope.symm sameNumber.symm).symm
  · rcases ReportStore.holds_upsert.mp secondHolds with rfl | ⟨-, secondOld⟩
    · exact free first firstOld sameScope sameNumber
    · exact identify first second firstOld secondOld sameScope sameNumber

theorem createsAbove_upsert {store : ReportStore} {version : ReportVersion}
    (above : store.versions.get? version.id = none →
      ∀ stored, store.Holds stored → stored.scope = version.scope →
        stored.versionNumber < version.versionNumber) :
    CreatesAbove store (store.upsert version) := by
  intro created holds absent
  rcases ReportStore.holds_upsert.mp holds with rfl | ⟨-, old⟩
  · exact above absent
  · rw [ReportStore.Holds, absent] at old
    cases old

/-- One operation: what it writes is new above its scope or takes the place
of a version with the same scope and number. -/
theorem storeStep_sound {sha256Hex : String → String}
    {store next : ReportStore} {operation : StoreOperation}
    (identify : NumbersIdentify store)
    (resyncs : Resyncs sha256Hex store operation)
    (stepped : storeStep sha256Hex store operation = some next) :
    NumbersIdentify next ∧ CreatesAbove store next := by
  have ofAbove : ∀ version : ReportVersion,
      (∀ stored, store.Holds stored → stored.scope = version.scope →
        stored.versionNumber < version.versionNumber) →
      NumbersIdentify (store.upsert version) ∧
        CreatesAbove store (store.upsert version) := by
    intro version above
    refine ⟨numbersIdentify_upsert identify ?_,
      createsAbove_upsert fun _ => above⟩
    intro stored holds sameScope sameNumber
    have lower := above stored holds sameScope
    omega
  have ofReplaced : ∀ version replaced : ReportVersion,
      store.Holds replaced → replaced.id = version.id →
      replaced.scope = version.scope →
      replaced.versionNumber = version.versionNumber →
      NumbersIdentify (store.upsert version) ∧
        CreatesAbove store (store.upsert version) := by
    intro version replaced holds sameId sameScope sameNumber
    refine ⟨numbersIdentify_upsert identify ?_, createsAbove_upsert ?_⟩
    · intro stored storedHolds storedScope storedNumber
      rw [← sameId]
      exact identify stored replaced storedHolds holds
        (storedScope.trans sameScope.symm)
        (storedNumber.trans sameNumber.symm)
    · intro absent
      rw [ReportStore.Holds, sameId, absent] at holds
      cases holds
  cases operation with
  | syncProjection run =>
      cases stepped
      cases found : store.getRunProjection run.runId with
      | none =>
          apply ofAbove
          intro stored holds sameScope
          have lower := ReportStore.lt_nextReportVersionNumber holds
          rw [sameScope] at lower
          simpa [projectedVersion, projectionNumber, found] using lower
      | some existing =>
          obtain ⟨sameScope, sameId⟩ := resyncs existing found
          have number : projectionNumber store run =
              existing.versionNumber := by
            simp [projectionNumber, found]
          rw [syncEnterpriseProjection, number]
          exact ofReplaced _ existing
            (ReportStore.holds_of_getRunProjection found) sameId sameScope rfl
  | reviseManually source reportMd now =>
      cases stepped
      apply ofAbove
      intro stored holds sameScope
      have lower := ReportStore.lt_nextReportVersionNumber holds
      rw [sameScope] at lower
      exact lower
  | fillGaps source filledGapIds candidateIds reportMd now =>
      cases stepped
      apply ofAbove
      intro stored holds sameScope
      have lower := ReportStore.lt_nextVersionNumber holds
      rw [sameScope] at lower
      exact lower
  | updateStatus versionId status =>
      obtain ⟨version, found, rfl⟩ := Option.map_eq_some_iff.mp stepped
      have keyed := store.keyed versionId version found
      have holds : store.Holds version := by
        rw [ReportStore.Holds, keyed]
        exact found
      exact ofReplaced _ version holds rfl rfl rfl

/-- A projection that does not write the latest version of its run again
gives the number of that version a second time. -/
theorem not_numbersIdentify_of_otherId {sha256Hex : String → String}
    {store : ReportStore} {run : RunReport} {existing : ReportVersion}
    (found : store.getRunProjection run.runId = some existing)
    (sameScope : existing.scope = run.scope)
    (otherId : existing.id ≠
      (projectedVersion sha256Hex run existing.versionNumber).id) :
    ¬ NumbersIdentify (syncEnterpriseProjection sha256Hex store run) := by
  intro identify
  have number : projectionNumber store run = existing.versionNumber := by
    simp [projectionNumber, found]
  rw [syncEnterpriseProjection, number] at identify
  apply otherId
  apply identify
  · exact ReportStore.holds_upsert.mpr
      (.inr ⟨otherId, ReportStore.holds_of_getRunProjection found⟩)
  · exact ReportStore.holds_upsert.mpr (.inl rfl)
  · exact sameScope
  · rfl

/-- In every run whose projections all write the latest version of their run
again, the numbers identify the versions and what the next operation creates
is numbered above its scope; a projection with another id breaks this. -/
theorem versionNumbers_identify_along (sha256Hex : String → String)
    (operations : List StoreOperation) (store : ReportStore)
    (resyncs : Along (storeStep sha256Hex) (Resyncs sha256Hex) .empty
      operations)
    (reached : exec (storeStep sha256Hex) .empty operations = some store) :
    NumbersIdentify store ∧
      (∀ operation next, Resyncs sha256Hex store operation →
        storeStep sha256Hex store operation = some next →
          NumbersIdentify next ∧ CreatesAbove store next) ∧
      ∀ run existing, store.getRunProjection run.runId = some existing →
        existing.scope = run.scope →
          (NumbersIdentify (syncEnterpriseProjection sha256Hex store run) ↔
            existing.id =
              (projectedVersion sha256Hex run existing.versionNumber).id) := by
  have start : NumbersIdentify .empty := by
    intro first second absent
    cases absent
  have preserved : ∀ before operation after, NumbersIdentify before →
      Resyncs sha256Hex before operation →
      storeStep sha256Hex before operation = some after →
        NumbersIdentify after := by
    intro before operation after holds guarded stepped
    exact (storeStep_sound holds guarded stepped).1
  have identify : NumbersIdentify store :=
    exec_invariant_along preserved start resyncs reached
  refine ⟨identify, ?_, ?_⟩
  · intro operation next guarded stepped
    exact storeStep_sound identify guarded stepped
  · intro run existing found sameScope
    constructor
    · intro after
      by_contra otherId
      exact not_numbersIdentify_of_otherId found sameScope otherId after
    · intro sameId
      have guarded : Resyncs sha256Hex store (.syncProjection run) := by
        intro stored isStored
        rw [Option.mem_def, found] at isStored
        cases isStored
        exact ⟨sameScope, sameId⟩
      exact (storeStep_sound identify guarded rfl).1

/-! ## One run, revised by hand -/

def acmePricing : ReportScope :=
  { projectId := "p1"
    topicNormalized := "pricing"
    competitorLayer := "unknown"
    competitorSetHash := "acme" }

def acmeReport : RunReport :=
  { runId := "run"
    scope := acmePricing
    reportMd := "Report"
    updatedAt := 1 }

/-- The version the first projection of the run stores. -/
def acmeFirstVersion : ReportVersion :=
  projectedVersion id acmeReport 1

theorem versionNumbers_identify_resynced :
    ∃ store,
      exec (storeStep id) .empty
          [.syncProjection acmeReport, .syncProjection acmeReport,
            .reviseManually acmeFirstVersion "Edited" 2] = some store ∧
        NumbersIdentify store :=
  ⟨_, rfl,
    (versionNumbers_identify_along id
      [.syncProjection acmeReport, .syncProjection acmeReport,
        .reviseManually acmeFirstVersion "Edited" 2]
      _ (by decide) rfl).1⟩

/-- Projecting the run again after the revision gives 2 to another id. -/
theorem versionNumbers_repeat_after_manualRevision :
    ∃ store,
      exec (storeStep id) .empty
          [.syncProjection acmeReport,
            .reviseManually acmeFirstVersion "Edited" 2,
            .syncProjection acmeReport] = some store ∧
        ¬ NumbersIdentify store := by
  refine ⟨_, rfl, ?_⟩
  intro identify
  have sameId := identify
    { acmeFirstVersion with
      id := "report-version-manual-report-version-r"
      parentVersionId := some acmeFirstVersion.id
      versionNumber := 2
      reportMd := "Edited"
      createdAt := 2 }
    (projectedVersion id acmeReport 2) (by decide) (by decide) rfl rfl
  exact absurd sameId (by decide)

end CompetiScope
