import CompetiScope.Memory.StatusMachine
import Mathlib.Algebra.Order.BigOperators.Group.List

/-!
# What recalling changes

Marking a recalled candidate as used goes through the merge of
`upsert_candidate`, which raises the weight of a stored candidate and rewrites
its tags and feedback ids.  The usage fields are all that changes if the weight
cannot rise any more and the lists are in the form the merge writes.  The next
recall then finds the marked candidates in the opposite order of time, so the
ranking stays the same if no two of them tie.
-/

namespace CompetiScope

open Foundation

namespace PreferenceStore

section Marking

variable [PyRuntime] (clock : Nat → Nat)

/-- Every mark reads the clock once. -/
def markAllUsedAt (tick : Nat) (store : PreferenceStore) :
    List MemoryCandidate → List MemoryCandidate × PreferenceStore
  | [] => ([], store)
  | candidate :: candidates =>
      let marked := store.markUsed (clock tick) candidate
      let rest := markAllUsedAt (tick + 1) marked.2 candidates
      (marked.1 :: rest.1, rest.2)

/-- `recall` with `mark_used`. -/
def recallMarking (store : PreferenceStore) (request : RecallRequest) :
    List MemoryCandidate × PreferenceStore :=
  store.markAllUsedAt clock 0 (store.ranked request)

end Marking

section SameClock

variable [PyRuntime]

end SameClock

end PreferenceStore

/-! ## What may change -/

/-- Nothing but the number of uses and the time of the last one differs. -/
def OnlyUsageChanged (before after : MemoryCandidate) : Prop :=
  after =
    { before with
      usedCount := after.usedCount
      updatedAt := after.updatedAt }

/-- The clock ticks from one mark to the next, and all stored candidates are
older. -/
structure Ticks (clock : Nat → Nat) (store : PreferenceStore) : Prop where
  strict : StrictMono clock
  later : ∀ candidate ∈ store.candidates.values, candidate.updatedAt < clock 0

section Frame

variable [PyRuntime]

/-- Recalling leaves everything but usage alone, and the next recall answers
in the same order. -/
structure RecallFrame (store : PreferenceStore) (request : RecallRequest) :
    Prop where
  untouched : ∀ clock candidateId,
    candidateId ∉ (store.ranked request).map (·.id) →
      (store.recallMarking clock request).2.getCandidate candidateId =
        store.getCandidate candidateId
  marked : ∀ clock, ∀ candidateId ∈ (store.ranked request).map (·.id),
    ∃ before after, store.getCandidate candidateId = some before ∧
      (store.recallMarking clock request).2.getCandidate candidateId =
        some after ∧ OnlyUsageChanged before after
  returned : ∀ clock, List.Forall₂ OnlyUsageChanged (store.ranked request)
    (store.recallMarking clock request).1
  sameOrder : ∀ clock clock', Ticks clock store →
    ((store.recallMarking clock request).2.recallMarking clock'
        request).1.map (·.id) =
      (store.recallMarking clock request).1.map (·.id)

/-- The merge has nothing to change in the candidate. -/
def KeepsRecall (candidate : MemoryCandidate) : Prop :=
  candidate.weight = 1 ∧
    uniqueTokens (candidate.sourceFeedbackIds ++
      candidate.sourceFeedbackIds) = candidate.sourceFeedbackIds ∧
    uniqueTokens (candidate.tags ++ candidate.tags) = candidate.tags

/-- Every recalled candidate is settled, and no two have the same score. -/
structure RecallSettled (store : PreferenceStore) (request : RecallRequest) :
    Prop where
  settled : ∀ candidate ∈ store.ranked request, KeepsRecall candidate
  noTies : ((store.ranked request).map (·.matchScore)).Nodup

end Frame

/-! ## Marking one candidate -/

theorem dict_update_self (dict : Dict String MetadataValue) :
    dict.update dict = dict := by
  have sameKeys : ∀ (entries : List (String × MetadataValue))
      (other : Dict String MetadataValue),
      (∀ entry ∈ entries, entry.1 ∈ other.keys) →
        (entries.foldl (fun dict entry => dict.set entry.1 entry.2)
          other).keys = other.keys := by
    intro entries
    induction entries with
    | nil => exact fun _ _ => rfl
    | cons entry entries induction =>
        intro other present
        have here : (other.set entry.1 entry.2).keys = other.keys :=
          Dict.keys_set_of_mem (present entry List.mem_cons_self)
        rw [List.foldl_cons, induction, here]
        intro later member
        rw [here]
        exact present later (List.mem_cons_of_mem _ member)
  apply Dict.ext_get?
  · exact sameKeys dict.entries dict fun entry member =>
      List.mem_map_of_mem member
  · intro key
    rw [Dict.get?_update]
    cases dict.get? key <;> rfl

section Marks

variable [PyRuntime]

/-- A stored candidate as marking leaves it. -/
def usedVersion (now : Nat) (existing : MemoryCandidate) : MemoryCandidate :=
  { existing with
    weight := min 1 (existing.weight + 8 / 100)
    sourceFeedbackIds := uniqueTokens
      (existing.sourceFeedbackIds ++ existing.sourceFeedbackIds)
    tags := uniqueTokens (existing.tags ++ existing.tags)
    usedCount := existing.usedCount + 1
    updatedAt := now }

theorem merge_marked (now : Nat) (existing : MemoryCandidate) (score : Rat) :
    existing.merge now
        { existing with
          matchScore := score
          usedCount := existing.usedCount + 1
          updatedAt := now } =
      usedVersion now existing := by
  unfold MemoryCandidate.merge usedVersion
  dsimp only
  rw [max_self, max_self, dict_update_self, ite_self,
    Nat.max_eq_right (Nat.le_succ _)]

theorem onlyUsageChanged_usedVersion {now : Nat} {existing : MemoryCandidate} :
    OnlyUsageChanged existing (usedVersion now existing) ↔
      KeepsRecall existing := by
  have atTop : min 1 (existing.weight + 8 / 100) = existing.weight ↔
      existing.weight = 1 := by
    constructor
    · intro same
      rcases min_choice 1 (existing.weight + 8 / 100) with top | raised
      · exact same.symm.trans top
      · rw [raised] at same
        linarith
    · intro top
      rw [top]
      norm_num
  unfold OnlyUsageChanged usedVersion KeepsRecall
  rw [← atTop]
  cases existing
  simp

theorem usedVersion_of_settled {now : Nat} {existing : MemoryCandidate}
    (settled : KeepsRecall existing) :
    usedVersion now existing =
      { existing with
        usedCount := existing.usedCount + 1
        updatedAt := now } :=
  onlyUsageChanged_usedVersion.mpr settled

/-- The stored candidates as marking leaves them, one tick after the other. -/
def usedVersions (clock : Nat → Nat) (tick : Nat) :
    List MemoryCandidate → List MemoryCandidate
  | [] => []
  | existing :: candidates =>
      usedVersion (clock tick) existing ::
        usedVersions clock (tick + 1) candidates

theorem map_usedVersions {β : Type*} (clock : Nat → Nat) (tick : Nat)
    {candidates : List MemoryCandidate} {field : MemoryCandidate → β}
    (kept : ∀ candidate ∈ candidates, ∀ now,
      field (usedVersion now candidate) = field candidate) :
    (usedVersions clock tick candidates).map field =
      candidates.map field := by
  induction candidates generalizing tick with
  | nil => rfl
  | cons existing candidates induction =>
      rw [usedVersions, List.map_cons, List.map_cons,
        kept existing List.mem_cons_self,
        induction (tick + 1) fun candidate member =>
          kept candidate (List.mem_cons_of_mem _ member)]

theorem usedVersions_times (clock : Nat → Nat) (tick : Nat)
    (candidates : List MemoryCandidate) :
    (usedVersions clock tick candidates).map (·.updatedAt) =
      (List.range' tick candidates.length).map clock := by
  induction candidates generalizing tick with
  | nil => rfl
  | cons existing candidates induction =>
      rw [usedVersions, List.map_cons, induction, List.length_cons,
        List.range'_succ, List.map_cons]
      rfl

theorem exists_of_mem_usedVersions {clock : Nat → Nat} {tick : Nat}
    {candidates : List MemoryCandidate} {used : MemoryCandidate}
    (member : used ∈ usedVersions clock tick candidates) :
    ∃ candidate ∈ candidates, ∃ reading, tick ≤ reading ∧
      used = usedVersion (clock reading) candidate := by
  induction candidates generalizing tick with
  | nil => cases member
  | cons existing candidates induction =>
      rcases List.mem_cons.mp member with rfl | later
      · exact ⟨existing, List.mem_cons_self, tick, Nat.le_refl _, rfl⟩
      · obtain ⟨candidate, known, reading, after, same⟩ := induction later
        exact ⟨candidate, List.mem_cons_of_mem _ known, reading, by omega,
          same⟩

/-- What marking stored candidates does to the store. -/
theorem markAllUsedAt_spec (clock : Nat → Nat) (tick : Nat) (query : String)
    (queryTags : List String) {candidates : List MemoryCandidate}
    {store : PreferenceStore}
    (distinct : (candidates.map (·.id)).Nodup)
    (stored : ∀ candidate ∈ candidates,
      store.getCandidate candidate.id = some candidate) :
    (∀ used ∈ usedVersions clock tick candidates,
      (store.markAllUsedAt clock tick (candidates.map
        (scoreCandidate query queryTags))).2.getCandidate used.id =
          some used) ∧
    (∀ candidateId, candidateId ∉ candidates.map (·.id) →
      (store.markAllUsedAt clock tick (candidates.map
        (scoreCandidate query queryTags))).2.getCandidate candidateId =
          store.getCandidate candidateId) ∧
    (store.markAllUsedAt clock tick (candidates.map
        (scoreCandidate query queryTags))).1 =
      List.zipWith (fun used candidate =>
        { used with
          matchScore := (scoreCandidate query queryTags candidate).matchScore })
        (usedVersions clock tick candidates) candidates := by
  induction candidates generalizing store tick with
  | nil => exact ⟨nofun, fun _ _ => rfl, rfl⟩
  | cons existing candidates induction =>
      obtain ⟨apart, rest⟩ := List.nodup_cons.mp distinct
      have found := stored existing List.mem_cons_self
      have marked : store.upsertedCandidate (clock tick)
          { scoreCandidate query queryTags existing with
            usedCount := existing.usedCount + 1
            updatedAt := clock tick } = usedVersion (clock tick) existing := by
        unfold PreferenceStore.upsertedCandidate
        have sameId : (scoreCandidate query queryTags existing).id =
            existing.id := rfl
        dsimp only
        rw [sameId, found]
        exact merge_marked _ _ _
      have upserted : store.markUsed (clock tick)
          (scoreCandidate query queryTags existing) =
            ({ usedVersion (clock tick) existing with
               matchScore :=
                (scoreCandidate query queryTags existing).matchScore },
              { store with
                candidates := store.candidates.upsert
                  (usedVersion (clock tick) existing) }) := by
        unfold PreferenceStore.markUsed PreferenceStore.upsertCandidate
        dsimp only
        rw [show (scoreCandidate query queryTags existing).usedCount =
          existing.usedCount from rfl, marked]
      have get : ∀ candidateId,
          (store.markUsed (clock tick)
            (scoreCandidate query queryTags existing)).2.getCandidate
              candidateId =
            if candidateId = existing.id then
              some (usedVersion (clock tick) existing)
            else store.getCandidate candidateId := by
        intro candidateId
        rw [upserted, PreferenceStore.getCandidate, Table.get?_upsert]
        rfl
      obtain ⟨used, untouched, returned⟩ :=
        @induction (tick + 1) (store.markUsed (clock tick)
          (scoreCandidate query queryTags existing)).2 rest (by
            intro candidate member
            rw [get, if_neg]
            · exact stored candidate (List.mem_cons_of_mem _ member)
            · intro same
              exact apart (List.mem_map.mpr ⟨candidate, member, same⟩))
      rw [List.map_cons, PreferenceStore.markAllUsedAt]
      dsimp only
      refine ⟨?_, ?_, ?_⟩
      · intro candidate member
        rcases List.mem_cons.mp member with rfl | later
        · have sameId : (usedVersion (clock tick) existing).id =
              existing.id := rfl
          rw [sameId, untouched existing.id apart, get, if_pos rfl]
        · exact used candidate later
      · intro candidateId absent
        rw [List.map_cons, List.mem_cons, not_or] at absent
        rw [untouched candidateId absent.2, get, if_neg absent.1]
      · rw [usedVersions, List.zipWith_cons_cons, returned, upserted]

end Marks

/-! ## The ranking -/

namespace PreferenceStore

variable [PyRuntime]

/-- The score of a candidate for a request. -/
def scoreFor (request : RecallRequest) (candidate : MemoryCandidate) : Rat :=
  (scoreCandidate request.query (uniqueTokens (inferTags request.query))
    candidate).matchScore

/-- The stored candidates that a request recalls. -/
def best (store : PreferenceStore) (request : RecallRequest) :
    List MemoryCandidate :=
  (sortDescending (scoreFor request) (store.listCandidates request)).take
    (max 1 request.limit)

theorem ranked_eq_map_best (store : PreferenceStore)
    (request : RecallRequest) :
    store.ranked request = (store.best request).map
      (scoreCandidate request.query
        (uniqueTokens (inferTags request.query))) := by
  unfold ranked best
  dsimp only
  rw [sortDescending_map, List.map_take]
  rfl

omit [PyRuntime] in
theorem mem_listCandidates {store : PreferenceStore} {request : RecallRequest}
    {candidate : MemoryCandidate} :
    candidate ∈ store.listCandidates request ↔
      store.getCandidate candidate.id = some candidate ∧
        request.selects candidate = true := by
  unfold listCandidates getCandidate
  rw [(perm_sortDescending _ _).mem_iff, List.mem_filter, Table.mem_values]

omit [PyRuntime] in
theorem nodup_ids_listCandidates (store : PreferenceStore)
    (request : RecallRequest) :
    ((store.listCandidates request).map (·.id)).Nodup := by
  unfold listCandidates
  apply ((perm_sortDescending _ _).map _).nodup_iff.mpr
  exact (Table.nodup_map_key store.candidates).sublist
    (List.filter_sublist.map _)

theorem best_spec (store : PreferenceStore) (request : RecallRequest) :
    ((store.best request).map (·.id)).Nodup ∧
      (∀ candidate ∈ store.best request,
        store.getCandidate candidate.id = some candidate ∧
          request.selects candidate = true) ∧
      (store.best request).Pairwise fun first second =>
        scoreFor request second ≤ scoreFor request first := by
  have sorted := perm_sortDescending (scoreFor request)
    (store.listCandidates request)
  refine ⟨?_, ?_, ?_⟩
  · exact ((sorted.map _).nodup_iff.mpr
      (nodup_ids_listCandidates store request)).sublist
        ((List.take_sublist _ _).map _)
  · intro candidate member
    exact mem_listCandidates.mp
      (sorted.mem_iff.mp (List.mem_of_mem_take member))
  · exact (pairwise_sortDescending _ _).sublist (List.take_sublist _ _)

/-- A candidate that is listed but not recalled has no better score, and then
as many are recalled as the limit allows. -/
theorem not_best {store : PreferenceStore} {request : RecallRequest}
    {candidate : MemoryCandidate}
    (listed : candidate ∈ store.listCandidates request)
    (absent : candidate ∉ store.best request) :
    (∀ other ∈ store.best request,
      scoreFor request candidate ≤ scoreFor request other) ∧
      (store.best request).length = max 1 request.limit := by
  have sorted := pairwise_sortDescending (scoreFor request)
    (store.listCandidates request)
  have member := (perm_sortDescending (scoreFor request) _).mem_iff.mpr listed
  unfold best at *
  generalize sortDescending (scoreFor request)
    (store.listCandidates request) = candidates at *
  rw [← List.take_append_drop (max 1 request.limit) candidates] at member
  rw [← List.take_append_drop (max 1 request.limit) candidates] at sorted
  have dropped := (List.mem_append.mp member).resolve_left absent
  refine ⟨?_, ?_⟩
  · intro other isBest
    exact (List.pairwise_append.mp sorted).2.2 other isBest candidate dropped
  · have more := List.length_pos_of_mem dropped
    rw [List.length_drop] at more
    rw [List.length_take]
    omega

end PreferenceStore

/-! ## The next recall -/

section Again

variable [PyRuntime] {store : PreferenceStore} {request : RecallRequest}
  {clock : Nat → Nat}

theorem scoreFor_usedVersion {candidate : MemoryCandidate}
    (settled : KeepsRecall candidate) (now : Nat) :
    PreferenceStore.scoreFor request (usedVersion now candidate) =
      PreferenceStore.scoreFor request candidate := by
  rw [usedVersion_of_settled settled]
  rfl

theorem usedVersion_mem (clock : Nat → Nat) (tick : Nat)
    {candidates : List MemoryCandidate} {candidate : MemoryCandidate}
    (member : candidate ∈ candidates) :
    ∃ reading, usedVersion (clock reading) candidate ∈
      usedVersions clock tick candidates := by
  induction candidates generalizing tick with
  | nil => cases member
  | cons existing candidates induction =>
      rcases List.mem_cons.mp member with rfl | later
      · exact ⟨tick, List.mem_cons_self⟩
      · obtain ⟨reading, used⟩ := induction (tick + 1) later
        exact ⟨reading, List.mem_cons_of_mem _ used⟩

/-- The candidates returned differ from the ranked ones by their usage. -/
theorem onlyUsageChanged_returned (request : RecallRequest)
    (clock : Nat → Nat) (tick : Nat) {candidates : List MemoryCandidate}
    (settled : ∀ candidate ∈ candidates, KeepsRecall candidate) :
    List.Forall₂ OnlyUsageChanged
      (candidates.map (scoreCandidate request.query
        (uniqueTokens (inferTags request.query))))
      (List.zipWith (fun used candidate =>
        { used with
          matchScore := PreferenceStore.scoreFor request candidate })
        (usedVersions clock tick candidates) candidates) := by
  induction candidates generalizing tick with
  | nil => exact .nil
  | cons candidate candidates induction =>
      rw [List.map_cons, usedVersions, List.zipWith_cons_cons]
      refine .cons ?_ (induction (tick + 1) fun other member =>
        settled other (List.mem_cons_of_mem _ member))
      rw [usedVersion_of_settled (settled candidate List.mem_cons_self)]
      rfl

theorem recallMarking_spec (store : PreferenceStore)
    (request : RecallRequest) (clock : Nat → Nat) :
    (∀ used ∈ usedVersions clock 0 (store.best request),
      (store.recallMarking clock request).2.getCandidate used.id =
        some used) ∧
    (∀ candidateId, candidateId ∉ (store.best request).map (·.id) →
      (store.recallMarking clock request).2.getCandidate candidateId =
        store.getCandidate candidateId) ∧
    (store.recallMarking clock request).1 =
      List.zipWith (fun used candidate =>
        { used with
          matchScore := PreferenceStore.scoreFor request candidate })
        (usedVersions clock 0 (store.best request)) (store.best request) := by
  obtain ⟨distinct, stored, _⟩ := store.best_spec request
  unfold PreferenceStore.recallMarking
  rw [PreferenceStore.ranked_eq_map_best]
  exact markAllUsedAt_spec clock 0 request.query
    (uniqueTokens (inferTags request.query)) distinct
    fun candidate member => (stored candidate member).1

theorem ids_usedVersions (clock : Nat → Nat)
    (candidates : List MemoryCandidate) :
    (usedVersions clock 0 candidates).map (·.id) = candidates.map (·.id) :=
  map_usedVersions clock 0 fun _ _ _ => rfl

/-- The listed candidates after a recall: the marked ones in the opposite
order, then the others. -/
theorem listCandidates_recallMarking (request : RecallRequest)
    (ticks : Ticks clock store) :
    ∃ others, (store.recallMarking clock request).2.listCandidates request =
        (usedVersions clock 0 (store.best request)).reverse ++ others ∧
      ∀ candidate ∈ others, candidate ∈ store.listCandidates request ∧
        candidate ∉ store.best request := by
  obtain ⟨distinct, stored, _⟩ := store.best_spec request
  obtain ⟨used, untouched, _⟩ := recallMarking_spec store request clock
  have ids := ids_usedVersions clock (store.best request)
  have listed := @PreferenceStore.mem_listCandidates
    (store.recallMarking clock request).2 request
  have distinctListed := PreferenceStore.nodup_ids_listCandidates
    (store.recallMarking clock request).2 request
  have sorted : ((store.recallMarking clock request).2.listCandidates
      request).Pairwise fun first second =>
        second.updatedAt ≤ first.updatedAt :=
    pairwise_sortDescending _ _
  generalize (store.recallMarking clock request).2 = after at *
  have isMarked : ∀ candidate, candidate ∈ after.listCandidates request →
      (candidate.id ∈ (store.best request).map (·.id) ↔
        candidate ∈ usedVersions clock 0 (store.best request)) := by
    intro candidate member
    rw [← ids]
    constructor
    · intro known
      rcases List.mem_map.mp known with ⟨other, isUsed, sameId⟩
      have found := (listed.mp member).1
      rw [← sameId, used other isUsed] at found
      rw [← Option.some.inj found]
      exact isUsed
    · exact List.mem_map_of_mem
  have timesAscend : ((usedVersions clock 0 (store.best request)).map
      (·.updatedAt)).Pairwise (· < ·) := by
    rw [usedVersions_times, List.pairwise_map]
    exact (List.pairwise_lt_range' 1).imp fun early => ticks.strict early
  have unmarked : ∀ candidate ∈ after.listCandidates request,
      candidate.id ∉ (store.best request).map (·.id) →
        candidate ∈ store.listCandidates request := by
    intro candidate member absent
    obtain ⟨found, selected⟩ := listed.mp member
    rw [untouched _ absent] at found
    exact PreferenceStore.mem_listCandidates.mpr ⟨found, selected⟩
  have greater : ∀ candidate ∈ after.listCandidates request,
      ∀ other ∈ after.listCandidates request,
        decide (candidate.id ∈ (store.best request).map (·.id)) = true →
          decide (other.id ∈ (store.best request).map (·.id)) = false →
            other.updatedAt < candidate.updatedAt := by
    intro candidate member other otherMember isBest notBest
    have marked := (isMarked candidate member).mp (of_decide_eq_true isBest)
    obtain ⟨existing, _, reading, _, rfl⟩ := exists_of_mem_usedVersions marked
    have older := unmarked other otherMember (of_decide_eq_false notBest)
    have isValue := Table.mem_values.mpr
      (PreferenceStore.mem_listCandidates.mp older).1
    exact Nat.lt_of_lt_of_le (ticks.later other isValue)
      (ticks.strict.monotone (Nat.zero_le reading))
  have distinctMarked : (usedVersions clock 0 (store.best request)).Nodup := by
    rw [← ids] at distinct
    exact distinct.of_map
  have marksFirst : ((after.listCandidates request).filter fun candidate =>
      decide (candidate.id ∈ (store.best request).map (·.id))) =
        (usedVersions clock 0 (store.best request)).reverse := by
    have perm : ((after.listCandidates request).filter fun candidate =>
        decide (candidate.id ∈ (store.best request).map (·.id))).Perm
          (usedVersions clock 0 (store.best request)).reverse := by
      apply (List.perm_ext_iff_of_nodup (distinctListed.of_map.filter _)
        (List.nodup_reverse.mpr distinctMarked)).mpr
      intro candidate
      rw [List.mem_filter, List.mem_reverse, decide_eq_true_iff]
      constructor
      · rintro ⟨member, known⟩
        exact (isMarked candidate member).mp known
      · intro marked
        have member : candidate ∈ after.listCandidates request := by
          obtain ⟨existing, known, reading, _, same⟩ :=
            exists_of_mem_usedVersions marked
          refine listed.mpr ⟨used _ marked, ?_⟩
          rw [same]
          exact (stored existing known).2
        exact ⟨member, (isMarked candidate member).mpr marked⟩
    apply eq_of_perm_of_descending perm (sorted.sublist List.filter_sublist)
    · rw [List.pairwise_reverse]
      exact (List.pairwise_map.mp timesAscend).imp fun early => early.le
    · rw [List.map_reverse, List.nodup_reverse]
      exact timesAscend.imp fun early => early.ne
  refine ⟨(after.listCandidates request).filter fun candidate =>
    ! decide (candidate.id ∈ (store.best request).map (·.id)), ?_, ?_⟩
  · rw [← marksFirst]
    exact (filter_append_filter_of_sorted sorted greater).symm
  · intro candidate member
    obtain ⟨isListed, notMarked⟩ := List.mem_filter.mp member
    have absent : candidate.id ∉ (store.best request).map (·.id) := by
      simpa using notMarked
    exact ⟨unmarked candidate isListed absent,
      fun isBest => absent (List.mem_map_of_mem isBest)⟩

theorem best_recallMarking (ticks : Ticks clock store)
    (settled : ∀ candidate ∈ store.best request, KeepsRecall candidate) :
    (store.recallMarking clock request).2.best request =
      sortDescending (PreferenceStore.scoreFor request)
        (usedVersions clock 0 (store.best request)).reverse := by
  obtain ⟨others, split, ofOthers⟩ :=
    listCandidates_recallMarking request ticks
  have dominates : ∀ used ∈
      (usedVersions clock 0 (store.best request)).reverse,
      ∀ other ∈ others, PreferenceStore.scoreFor request other ≤
        PreferenceStore.scoreFor request used := by
    intro used marked other member
    obtain ⟨existing, known, reading, _, rfl⟩ :=
      exists_of_mem_usedVersions (List.mem_reverse.mp marked)
    obtain ⟨listed, notBest⟩ := ofOthers other member
    rw [scoreFor_usedVersion (settled existing known)]
    exact (PreferenceStore.not_best listed notBest).1 existing known
  have size : (sortDescending (PreferenceStore.scoreFor request)
      (usedVersions clock 0 (store.best request)).reverse).length =
        (store.best request).length := by
    rw [(perm_sortDescending _ _).length_eq, List.length_reverse,
      ← List.length_map (f := (·.id)), ids_usedVersions, List.length_map]
  rw [PreferenceStore.best, split, sortDescending_append dominates]
  cases others with
  | nil =>
      have short : (store.best request).length ≤ max 1 request.limit :=
        List.length_take_le _ _
      have whole : sortDescending (PreferenceStore.scoreFor request)
          ([] : List MemoryCandidate) = [] := rfl
      rw [whole, List.append_nil, List.take_of_length_le (by omega)]
  | cons other others =>
      obtain ⟨listed, notBest⟩ := ofOthers other List.mem_cons_self
      have full := (PreferenceStore.not_best listed notBest).2
      rw [← full, ← size, List.take_left]

theorem map_id_recallMarking (store : PreferenceStore)
    (request : RecallRequest) (clock : Nat → Nat) :
    (store.recallMarking clock request).1.map (·.id) =
      (store.best request).map (·.id) := by
  rw [(recallMarking_spec store request clock).2.2,
    ← ids_usedVersions clock (store.best request)]
  have sameLength : (usedVersions clock 0 (store.best request)).length =
      (store.best request).length := by
    rw [← List.length_map (f := (·.id)), ids_usedVersions, List.length_map]
  generalize usedVersions clock 0 (store.best request) = used at *
  generalize store.best request = candidates at *
  induction used generalizing candidates with
  | nil => rfl
  | cons first used induction =>
      cases candidates with
      | nil => cases sameLength
      | cons candidate candidates =>
          rw [List.zipWith_cons_cons, List.map_cons, List.map_cons,
            induction candidates (Nat.succ.inj sameLength)]

/-- The order stays the same if and only if no two scores are equal. -/
theorem sameOrder_iff (ticks : Ticks clock store)
    (settled : ∀ candidate ∈ store.best request, KeepsRecall candidate) :
    ((store.recallMarking clock request).2.best request).map (·.id) =
        (store.best request).map (·.id) ↔
      ((store.best request).map
        (PreferenceStore.scoreFor request)).Nodup := by
  obtain ⟨distinct, stored, sorted⟩ := store.best_spec request
  have ids := ids_usedVersions clock (store.best request)
  have scores : (usedVersions clock 0 (store.best request)).map
      (PreferenceStore.scoreFor request) =
        (store.best request).map (PreferenceStore.scoreFor request) :=
    map_usedVersions clock 0 fun candidate member now =>
      scoreFor_usedVersion (settled candidate member) now
  rw [best_recallMarking ticks settled]
  rw [← List.pairwise_map (f := PreferenceStore.scoreFor request)
    (R := fun first second => second ≤ first), ← scores,
    List.pairwise_map] at sorted
  rw [← ids] at distinct ⊢
  rw [← scores]
  have perm := (perm_sortDescending (PreferenceStore.scoreFor request)
    (usedVersions clock 0 (store.best request)).reverse).trans
      (List.reverse_perm _)
  rw [← sortDescending_reverse_eq_iff sorted distinct.of_map]
  generalize usedVersions clock 0 (store.best request) = used at *
  generalize sortDescending (PreferenceStore.scoreFor request) used.reverse =
    again at *
  constructor
  · intro same
    apply List.ext_getElem perm.length_eq
    intro place inAgain inUsed
    apply List.inj_on_of_nodup_map distinct
      (perm.mem_iff.mp (List.getElem_mem inAgain)) (List.getElem_mem inUsed)
    have atPlace := congrArg (·[place]?) same
    simpa [inAgain, inUsed] using atPlace
  · intro same
    rw [same]

omit [PyRuntime] in
/-- Some clock ticks. -/
theorem exists_ticks (store : PreferenceStore) :
    ∃ clock, Ticks clock store := by
  refine ⟨fun reading =>
    (store.candidates.values.map (·.updatedAt)).sum + 1 + reading, ?_, ?_⟩
  · intro first second early
    dsimp only
    omega
  · intro candidate member
    have bound := List.single_le_sum (fun _ _ => Nat.zero_le _)
      candidate.updatedAt (List.mem_map_of_mem
        (f := fun candidate => candidate.updatedAt) member)
    omega

end Again

namespace RecallExample

local instance recallRuntime : PyRuntime := asciiRuntime

/-- A store with one confirmed candidate. -/
def confirmed : PreferenceStore :=
  { candidates := (∅ : Table String MemoryCandidate MemoryCandidate.id).upsert
      (PreferenceExample.officialSources .confirmed) }

def request : RecallRequest :=
  { workspaceId := "w"
    projectId := "p"
    markUsed := true }

end RecallExample

end CompetiScope
