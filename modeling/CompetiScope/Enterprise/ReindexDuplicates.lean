import CompetiScope.Enterprise.EmbeddingIndex
import CompetiScope.Foundation.SnapshotLists

/-!
# The duplicate lists a reindex leaves

A canonical record lists its duplicates.  A reindex works on a snapshot of the
records: what it notes on a canonical record before it comes to that record
itself is overwritten by the snapshot, and nothing is taken off a list.
-/

namespace CompetiScope

open Foundation

/-- The ids a record lists as its duplicates. -/
def EvidenceRecord.embeddingDuplicateIds (evidence : EvidenceRecord) :
    List String :=
  match evidence.metadata.get? "embedding_duplicate_ids" with
  | some (.texts values) => values
  | _ => []

/-- The id of the canonical record `_find_embedding_duplicate_locked`
finds. -/
def EvidenceStore.duplicateOf [PyRuntime] (parsing : EvidenceParsing)
    (store : EvidenceStore) (evidence : EvidenceRecord) : Option String :=
  (store.embeddingDuplicate parsing evidence).map fun found => found.1.id

/-! ## What a reindex owes -/

/-- A record that is no duplicate or has one. -/
def IsCanonical (records : List EvidenceRecord) (record : EvidenceRecord) :
    Prop :=
  record.embeddingMark = none ∨
    ∃ other ∈ records, other.embeddingMark = some (.text record.id)

/-- Every canonical record lists the records that are marked as its
duplicates, so that none of those that were found is lost. -/
def DuplicatesListed (records : List EvidenceRecord) : Prop :=
  ∀ canonical ∈ records, IsCanonical records canonical →
    ∀ id, id ∈ canonical.embeddingDuplicateIds ↔
      ∃ record ∈ records, record.id = id ∧
        record.embeddingMark = some (.text canonical.id)

section

variable [PyRuntime] (parsing : EvidenceParsing)

/-- The mark of a record after the records of a scope have been marked. -/
def EvidenceStore.markAfter (store : EvidenceStore)
    (scope : List EvidenceRecord) (record : EvidenceRecord) :
    Option MetadataValue :=
  if record ∈ scope then
    (store.duplicateOf parsing record).map MetadataValue.text
  else record.embeddingMark

/-- The list of a record before a reindex holds nothing but its duplicates,
and of these the ones that are not reindexed and the ones that are reindexed
before the record itself. -/
structure KeptList (store : EvidenceStore) (scope : List EvidenceRecord)
    (canonical : EvidenceRecord) : Prop where
  current : ∀ id ∈ canonical.embeddingDuplicateIds,
    ∃ record ∈ store.evidence.values, record.id = id ∧
      store.markAfter parsing scope record = some (.text canonical.id)
  outside : ∀ record ∈ store.evidence.values, record ∉ scope →
    record.embeddingMark = some (.text canonical.id) →
      record.id ∈ canonical.embeddingDuplicateIds
  before : ∀ front back, scope = front ++ canonical :: back →
    ∀ record ∈ front, store.duplicateOf parsing record = some canonical.id →
      record.id ∈ canonical.embeddingDuplicateIds

/-- The lists of all records that a reindex leaves canonical are kept. -/
def KeptLists (store : EvidenceStore) (scope : List EvidenceRecord) : Prop :=
  ∀ canonical ∈ store.evidence.values,
    (store.markAfter parsing scope canonical = none ∨
      ∃ record ∈ store.evidence.values,
        store.markAfter parsing scope record = some (.text canonical.id)) →
      KeptList parsing store scope canonical

end

/-! ## The canonical record does not depend on the metadata -/

section

variable [PyRuntime] {parsing : EmbeddingParsing}

/-- What the canonical choice reads of a record. -/
def EvidenceRecord.dedupePlace (parsing : EmbeddingParsing)
    (evidence : EvidenceRecord) : Nat × List String :=
  (evidence.capturedAt, parsing.dedupeKeys evidence)

/-- The tables hold the same records, up to their metadata. -/
def SamePlaces (parsing : EmbeddingParsing)
    (first second : Table String EvidenceRecord (·.id)) : Prop :=
  ∀ id, (first.get? id).map (EvidenceRecord.dedupePlace parsing) =
    (second.get? id).map (EvidenceRecord.dedupePlace parsing)

theorem SamePlaces.exists_mem
    {first second : Table String EvidenceRecord (·.id)}
    (same : SamePlaces parsing first second) {record : EvidenceRecord}
    (member : record ∈ first.values) :
    ∃ other ∈ second.values, other.id = record.id ∧
      other.capturedAt = record.capturedAt ∧
      parsing.dedupeKeys other = parsing.dedupeKeys record := by
  have place := same record.id
  rw [Table.mem_values.mp member, Option.map_some] at place
  obtain ⟨other, found, samePlace⟩ := Option.map_eq_some_iff.mp place.symm
  have sameId : other.id = record.id := Table.key_of_get? found
  rw [EvidenceRecord.dedupePlace, EvidenceRecord.dedupePlace,
    Prod.mk.injEq] at samePlace
  refine ⟨other, ?_, sameId, samePlace⟩
  rw [Table.mem_values, sameId]
  exact found

/-- The record that a duplicate is marked with. -/
def FollowsRecord (parsing : EvidenceParsing) (records : List EvidenceRecord)
    (record canonical : EvidenceRecord) : Prop :=
  canonical.id ≠ record.id ∧ CapturedBefore canonical record ∧
    FirstSharing parsing records record canonical

theorem duplicateOf_eq_some {store : EvidenceStore}
    {record : EvidenceRecord} {id : String} :
    store.duplicateOf parsing.toEvidenceParsing record = some id ↔
      ∃ canonical ∈ store.evidence.values, canonical.id = id ∧
        FollowsRecord parsing.toEvidenceParsing store.evidence.values record
          canonical := by
  rw [EvidenceStore.duplicateOf]
  rcases embeddingDuplicate_cases parsing store record with
    ⟨noDuplicate, leads⟩ |
      ⟨canonical, stored, key, duplicate, distinct, before, first⟩
  · rw [noDuplicate]
    constructor
    · intro found
      cases found
    · rintro ⟨canonical, stored, -, distinct, before, shares, minimal⟩
      rcases leads with leads | ⟨version, isStored, sameId, isShared, least⟩
      · exact (leads canonical stored distinct shares before).elim
      · have different : canonical.id ≠ version.id :=
          fun same => distinct (same.trans sameId)
        rcases capturedBefore_or_capturedBefore different with
          earlier | later
        · exact (least canonical stored shares earlier).elim
        · exact (minimal version isStored isShared later).elim
  · rw [duplicate, Option.map_some, Option.some.injEq]
    constructor
    · intro isId
      exact ⟨canonical, stored, isId, distinct, before, first⟩
    · rintro ⟨other, isStored, rfl, -, -, shares, minimal⟩
      by_contra different
      rcases capturedBefore_or_capturedBefore different with earlier | later
      · exact minimal canonical stored first.1 earlier
      · exact first.2 other isStored shares later

theorem SamePlaces.duplicateOf_le {first second : EvidenceStore}
    (same : SamePlaces parsing first.evidence second.evidence)
    (back : SamePlaces parsing second.evidence first.evidence)
    {record : EvidenceRecord} {id : String}
    (found : first.duplicateOf parsing.toEvidenceParsing record = some id) :
    second.duplicateOf parsing.toEvidenceParsing record = some id := by
  obtain ⟨canonical, stored, isId, distinct, before, shares, minimal⟩ :=
    duplicateOf_eq_some.mp found
  obtain ⟨other, otherStored, sameId, sameTime, sameKeys⟩ :=
    same.exists_mem stored
  refine duplicateOf_eq_some.mpr ⟨other, otherStored, sameId.trans isId, ?_⟩
  refine ⟨sameId ▸ distinct, ?_, ?_, ?_⟩
  · rw [CapturedBefore, sameTime, sameId]
    exact before
  · rw [SharesKey, sameKeys]
    exact shares
  · intro candidate candidateStored candidateShares
    obtain ⟨source, sourceStored, sourceId, sourceTime, sourceKeys⟩ :=
      back.exists_mem candidateStored
    rw [SharesKey, ← sourceKeys] at candidateShares
    rw [CapturedBefore, sameTime, sameId, ← sourceTime, ← sourceId]
    exact minimal source sourceStored candidateShares

/-- The canonical choice is the same while only metadata changes. -/
theorem SamePlaces.duplicateOf_eq {first second : EvidenceStore}
    (same : SamePlaces parsing first.evidence second.evidence)
    (record : EvidenceRecord) :
    first.duplicateOf parsing.toEvidenceParsing record =
      second.duplicateOf parsing.toEvidenceParsing record := by
  have back : SamePlaces parsing second.evidence first.evidence :=
    fun id => (same id).symm
  ext id
  exact ⟨same.duplicateOf_le back, back.duplicateOf_le same⟩

theorem duplicateOf_ne_self {store : EvidenceStore}
    (record : EvidenceRecord) :
    store.duplicateOf parsing.toEvidenceParsing record ≠ some record.id := by
  intro found
  obtain ⟨canonical, -, isId, distinct, -⟩ := duplicateOf_eq_some.mp found
  exact distinct isId

end

/-! ## Writing one record back -/

section

variable [PyRuntime] {parsing : EmbeddingParsing} {store : EvidenceStore}

omit [PyRuntime] in
theorem embeddingMark_withEmbeddingDuplicate (canonical : EvidenceRecord)
    (duplicateId : String) :
    (EvidenceStore.withEmbeddingDuplicate canonical
      duplicateId).embeddingMark = canonical.embeddingMark := by
  unfold EvidenceRecord.embeddingMark EvidenceStore.withEmbeddingDuplicate
  rw [Dict.get?_set_ne, Dict.get?_set_ne]
  all_goals decide

omit [PyRuntime] in
theorem mem_embeddingDuplicateIds_withEmbeddingDuplicate
    {canonical : EvidenceRecord} {duplicateId id : String} :
    id ∈ (EvidenceStore.withEmbeddingDuplicate canonical
        duplicateId).embeddingDuplicateIds ↔
      id = duplicateId ∨ id ∈ canonical.embeddingDuplicateIds := by
  have listed : (EvidenceStore.withEmbeddingDuplicate canonical
      duplicateId).embeddingDuplicateIds =
        (canonical.embeddingDuplicateIds.filter (· ≠ duplicateId) ++
          [duplicateId]).insertionSort (· ≤ ·) := by
    unfold EvidenceRecord.embeddingDuplicateIds
      EvidenceStore.withEmbeddingDuplicate
    rw [Dict.get?_set_ne _ _ (by decide), Dict.get?_set_self]
    cases canonical.metadata.get? "embedding_duplicate_ids" with
    | none => rfl
    | some value =>
        cases value with
        | texts values => rfl
        | _ => rfl
  rw [listed, List.mem_insertionSort, List.mem_append, List.mem_filter,
    List.mem_singleton, decide_eq_true_iff]
  by_cases same : id = duplicateId
  · simp [same]
  · simp [same]

theorem embeddingDuplicateIds_dedupedEvidence (record : EvidenceRecord) :
    (store.dedupedEvidence parsing.toEvidenceParsing
      record).embeddingDuplicateIds = record.embeddingDuplicateIds := by
  unfold EvidenceRecord.embeddingDuplicateIds EvidenceStore.dedupedEvidence
    EvidenceStore.dedupedMetadata
  cases store.embeddingDuplicate parsing.toEvidenceParsing record with
  | none =>
      dsimp only
      rw [Dict.get?_set_ne _ _ (by decide), Dict.get?_erase,
        if_neg (by decide), Dict.get?_erase, if_neg (by decide),
        Dict.get?_erase, if_neg (by decide)]
  | some found =>
      obtain ⟨canonical, key⟩ := found
      dsimp only
      rw [Dict.get?_set_ne _ _ (by decide), Dict.get?_set_ne _ _ (by decide),
        Dict.get?_set_ne _ _ (by decide), Dict.get?_set_ne _ _ (by decide)]

theorem embeddingMark_dedupedEvidence_eq (record : EvidenceRecord) :
    (store.dedupedEvidence parsing.toEvidenceParsing record).embeddingMark =
      (store.duplicateOf parsing.toEvidenceParsing record).map
        MetadataValue.text := by
  unfold EvidenceStore.dedupedEvidence EvidenceStore.duplicateOf
  cases store.embeddingDuplicate parsing.toEvidenceParsing record with
  | none => exact embeddingMark_dedupedMetadata_none record record.metadata
  | some found =>
      obtain ⟨canonical, key⟩ := found
      exact embeddingMark_dedupedMetadata_some record record.metadata
        canonical key

omit [PyRuntime] in
theorem get?_markCanonical (found : EvidenceRecord × String)
    (duplicateId id : String) :
    (store.markCanonical (some found) duplicateId).get? id =
      if found.1.id = id then
        (store.evidence.get? id).map fun canonical =>
          EvidenceStore.withEmbeddingDuplicate canonical duplicateId
      else store.evidence.get? id := by
  rw [EvidenceStore.markCanonical, Option.bind_some]
  cases stored : store.evidence.get? found.1.id with
  | none =>
      by_cases isCanonical : found.1.id = id
      · rw [if_pos isCanonical, ← isCanonical, stored]
        rfl
      · rw [if_neg isCanonical]
  | some canonical =>
      have sameId : canonical.id = found.1.id := Table.key_of_get? stored
      have notedId : (EvidenceStore.withEmbeddingDuplicate canonical
          duplicateId).id = found.1.id := sameId
      dsimp only
      rw [Table.get?_upsert, notedId]
      by_cases isCanonical : found.1.id = id
      · rw [if_pos isCanonical.symm, if_pos isCanonical, ← isCanonical,
          stored]
        rfl
      · rw [if_neg fun same => isCanonical same.symm, if_neg isCanonical]

/-- A record is written, its canonical record notes it, and every other
record stays. -/
theorem get?_writeDeduped (record : EvidenceRecord) (id : String) :
    (store.writeDeduped parsing.toEvidenceParsing record).get? id =
      if id = record.id then
        some (store.dedupedEvidence parsing.toEvidenceParsing record)
      else if store.duplicateOf parsing.toEvidenceParsing record = some id
      then
        (store.evidence.get? id).map fun canonical =>
          EvidenceStore.withEmbeddingDuplicate canonical record.id
      else store.evidence.get? id := by
  rw [EvidenceStore.writeDeduped, Table.get?_upsert]
  have sameId : (store.dedupedEvidence parsing.toEvidenceParsing record).id =
      record.id := rfl
  rw [sameId]
  by_cases isRecord : id = record.id
  · rw [if_pos isRecord, if_pos isRecord]
  · rw [if_neg isRecord, if_neg isRecord, EvidenceStore.duplicateOf]
    cases store.embeddingDuplicate parsing.toEvidenceParsing record with
    | none => rfl
    | some found =>
        rw [get?_markCanonical]
        by_cases isCanonical : found.1.id = id
        · rw [if_pos isCanonical]
          exact (if_pos (congrArg some isCanonical)).symm
        · rw [if_neg isCanonical]
          exact (if_neg fun same => isCanonical (Option.some.inj same)).symm

end

/-! ## The loop -/

section

variable [PyRuntime] {parsing : EmbeddingParsing}

/-- The ids each record of a table lists. -/
def duplicateLists (evidence : Table String EvidenceRecord (·.id)) :
    String → Set String :=
  fun owner => { id | ∃ record, evidence.get? owner = some record ∧
    id ∈ record.embeddingDuplicateIds }

omit [PyRuntime] in
theorem duplicateLists_of_get? {evidence : Table String EvidenceRecord (·.id)}
    {owner : String} {record : EvidenceRecord}
    (found : evidence.get? owner = some record) :
    duplicateLists evidence owner =
      { id | id ∈ record.embeddingDuplicateIds } := by
  ext id
  simp [duplicateLists, found]

/-- What the loop has done after some records of its snapshot. -/
structure WrittenBack (parsing : EmbeddingParsing) (start : EvidenceStore)
    (processed : List EvidenceRecord)
    (evidence : Table String EvidenceRecord (·.id)) : Prop where
  places : SamePlaces parsing start.evidence evidence
  marks : ∀ id, (evidence.get? id).map EvidenceRecord.embeddingMark =
    (start.evidence.get? id).map
      (start.markAfter parsing.toEvidenceParsing processed)
  lists : duplicateLists evidence =
    processed.foldl
      (writeBack EvidenceRecord.id
        (start.duplicateOf parsing.toEvidenceParsing)
        (duplicateLists start.evidence))
      (duplicateLists start.evidence)

theorem writtenBack_nil (start : EvidenceStore) :
    WrittenBack parsing start [] start.evidence := by
  constructor
  case places => exact fun _ => rfl
  case marks =>
    intro id
    congr 1
  case lists => rfl

theorem dedupePlace_metadata (record : EvidenceRecord)
    (metadata : Dict String MetadataValue) :
    EvidenceRecord.dedupePlace parsing { record with metadata := metadata } =
      record.dedupePlace parsing := by
  unfold EvidenceRecord.dedupePlace
  rw [dedupeKeys_metadata]

theorem dedupePlace_withEmbeddingDuplicate (canonical : EvidenceRecord)
    (duplicateId : String) :
    (EvidenceStore.withEmbeddingDuplicate canonical
      duplicateId).dedupePlace parsing = canonical.dedupePlace parsing :=
  dedupePlace_metadata canonical _

theorem writtenBack_concat {start current : EvidenceStore}
    {processed : List EvidenceRecord}
    (progress : WrittenBack parsing start processed current.evidence)
    {item : EvidenceRecord} (stored : item ∈ start.evidence.values) :
    WrittenBack parsing start (processed ++ [item])
      (current.writeDeduped parsing.toEvidenceParsing item) := by
  have found : start.evidence.get? item.id = some item :=
    Table.mem_values.mp stored
  have sameDuplicate := progress.places.duplicateOf_eq item
  constructor
  case places =>
    intro id
    rw [get?_writeDeduped]
    by_cases isItem : id = item.id
    · rw [if_pos isItem, isItem, found, Option.map_some, Option.map_some]
      exact congrArg some (dedupePlace_metadata item _).symm
    · rw [if_neg isItem, progress.places id]
      split
      · rw [Option.map_map]
        congr 1
        funext canonical
        exact (dedupePlace_withEmbeddingDuplicate canonical item.id).symm
      · rfl
  case marks =>
    intro id
    rw [get?_writeDeduped]
    by_cases isItem : id = item.id
    · rw [if_pos isItem, isItem, found, Option.map_some, Option.map_some,
        embeddingMark_dedupedEvidence_eq, ← sameDuplicate,
        EvidenceStore.markAfter,
        if_pos (List.mem_append_right processed List.mem_cons_self)]
    · have unchanged : (start.evidence.get? id).map
          (start.markAfter parsing.toEvidenceParsing (processed ++ [item])) =
            (start.evidence.get? id).map
              (start.markAfter parsing.toEvidenceParsing processed) := by
        cases isStored : start.evidence.get? id with
        | none => rfl
        | some record =>
            have sameId : record.id = id := Table.key_of_get? isStored
            have different : record ≠ item := by
              intro same
              apply isItem
              rw [← sameId, same]
            simp [EvidenceStore.markAfter, different]
      rw [if_neg isItem, unchanged, ← progress.marks id]
      split
      · rw [Option.map_map]
        congr 1
        funext canonical
        exact embeddingMark_withEmbeddingDuplicate canonical item.id
      · rfl
  case lists =>
    rw [List.foldl_append, List.foldl_cons, List.foldl_nil,
      ← progress.lists]
    funext owner
    rw [writeBack, sameDuplicate]
    by_cases isItem : owner = item.id
    · have written : (current.writeDeduped parsing.toEvidenceParsing
          item).get? owner =
            some (current.dedupedEvidence parsing.toEvidenceParsing item) := by
        rw [get?_writeDeduped, if_pos isItem]
      rw [if_pos isItem, duplicateLists_of_get? written,
        embeddingDuplicateIds_dedupedEvidence, isItem,
        duplicateLists_of_get? found]
    · rw [if_neg isItem]
      have written := @get?_writeDeduped _ parsing current item owner
      rw [if_neg isItem] at written
      by_cases isCanonical : current.duplicateOf parsing.toEvidenceParsing
          item = some owner
      · obtain ⟨canonical, isStored, sameId, -⟩ :=
          duplicateOf_eq_some.mp isCanonical
        rw [Table.mem_values, sameId] at isStored
        rw [if_pos isCanonical, isStored, Option.map_some] at written
        rw [if_pos isCanonical, duplicateLists_of_get? written,
          duplicateLists_of_get? isStored]
        ext id
        exact mem_embeddingDuplicateIds_withEmbeddingDuplicate
      · rw [if_neg isCanonical] at written
        rw [if_neg isCanonical, duplicateLists, duplicateLists, written]

theorem writtenBack_foldl {now : Nat} {start : EvidenceStore}
    {current : EnterpriseMemoryStore}
    {processed remaining : List EvidenceRecord}
    (progress : WrittenBack parsing start processed current.sources.evidence)
    (stored : ∀ item ∈ remaining, item ∈ start.evidence.values) :
    WrittenBack parsing start (processed ++ remaining)
      (remaining.foldl
        (EnterpriseMemoryStore.reindexEvidence parsing.toEvidenceParsing now)
        current).sources.evidence := by
  induction remaining generalizing processed current with
  | nil =>
      rw [List.append_nil]
      exact progress
  | cons item remaining induction =>
      rw [List.foldl_cons, List.append_cons]
      apply induction
      case progress =>
        exact writtenBack_concat progress (stored item List.mem_cons_self)
      case stored =>
        exact fun other member =>
          stored other (List.mem_cons_of_mem item member)

theorem writtenBack_reindex (parsing : EmbeddingParsing)
    (store : EnterpriseMemoryStore) (now : Nat) (workspaceId projectId : Option String) :
    WrittenBack parsing store.sources
      (store.reindexScope workspaceId projectId)
      (store.reindexEvidenceEmbeddings parsing.toEvidenceParsing now
        workspaceId projectId).1.sources.evidence := by
  rw [EnterpriseMemoryStore.reindexEvidenceEmbeddings, foldl_reindexCounted]
  have nothing : WrittenBack parsing store.sources []
      (store.dropEmbeddings
        (store.reindexScope workspaceId projectId)).sources.evidence :=
    writtenBack_nil store.sources
  exact writtenBack_foldl nothing fun _ member =>
    mem_records_of_mem_reindexScope member

end

/-! ## The lists afterwards -/

section

variable [PyRuntime] {parsing : EmbeddingParsing} {start : EvidenceStore}
  {scope : List EvidenceRecord}
  {evidence : Table String EvidenceRecord (·.id)}

theorem WrittenBack.exists_after
    (progress : WrittenBack parsing start scope evidence)
    {record : EvidenceRecord} (stored : record ∈ start.evidence.values) :
    ∃ after ∈ evidence.values, after.id = record.id ∧
      after.embeddingMark =
        start.markAfter parsing.toEvidenceParsing scope record := by
  have mark := progress.marks record.id
  rw [Table.mem_values.mp stored, Option.map_some] at mark
  obtain ⟨after, found, sameMark⟩ := Option.map_eq_some_iff.mp mark
  have sameId : after.id = record.id := Table.key_of_get? found
  refine ⟨after, ?_, sameId, sameMark⟩
  rw [Table.mem_values, sameId]
  exact found

theorem WrittenBack.exists_before
    (progress : WrittenBack parsing start scope evidence)
    {after : EvidenceRecord} (stored : after ∈ evidence.values) :
    ∃ record ∈ start.evidence.values, after.id = record.id ∧
      after.embeddingMark =
        start.markAfter parsing.toEvidenceParsing scope record := by
  have mark := progress.marks after.id
  rw [Table.mem_values.mp stored, Option.map_some] at mark
  obtain ⟨record, found, sameMark⟩ := Option.map_eq_some_iff.mp mark.symm
  have sameId : record.id = after.id := Table.key_of_get? found
  refine ⟨record, ?_, sameId.symm, sameMark.symm⟩
  rw [Table.mem_values, sameId]
  exact found

/-- Marks and ids may be read off the records before the reindex. -/
theorem WrittenBack.exists_iff
    (progress : WrittenBack parsing start scope evidence)
    (holds : String → Option MetadataValue → Prop) :
    (∃ record ∈ evidence.values, holds record.id record.embeddingMark) ↔
      ∃ record ∈ start.evidence.values, holds record.id
        (start.markAfter parsing.toEvidenceParsing scope record) := by
  constructor
  · rintro ⟨after, stored, met⟩
    obtain ⟨record, before, sameId, sameMark⟩ :=
      progress.exists_before stored
    rw [sameId, sameMark] at met
    exact ⟨record, before, met⟩
  · rintro ⟨record, stored, met⟩
    obtain ⟨after, isAfter, sameId, sameMark⟩ := progress.exists_after stored
    rw [← sameId, ← sameMark] at met
    exact ⟨after, isAfter, met⟩

omit [PyRuntime] in
theorem mem_duplicateLists {record : EvidenceRecord} {id : String}
    (stored : record ∈ evidence.values) :
    id ∈ duplicateLists evidence record.id ↔
      id ∈ record.embeddingDuplicateIds := by
  rw [duplicateLists_of_get? (Table.mem_values.mp stored)]
  exact Iff.rfl

/-- The list of a canonical record is exact when it was kept. -/
theorem WrittenBack.listed_iff
    (progress : WrittenBack parsing start scope evidence)
    (within : ∀ item ∈ scope, item ∈ start.evidence.values)
    (distinct : (scope.map EvidenceRecord.id).Nodup)
    {canonical : EvidenceRecord}
    (stored : canonical ∈ start.evidence.values) :
    (∀ id, id ∈ duplicateLists evidence canonical.id ↔
      ∃ record ∈ start.evidence.values, record.id = id ∧
        start.markAfter parsing.toEvidenceParsing scope record =
          some (.text canonical.id)) ↔
      KeptList parsing.toEvidenceParsing start scope canonical := by
  have agrees : ∀ item ∈ scope,
      start.markAfter parsing.toEvidenceParsing scope item =
          some (.text canonical.id) ↔
        start.duplicateOf parsing.toEvidenceParsing item =
          some canonical.id := by
    intro item inScope
    rw [EvidenceStore.markAfter, if_pos inScope, Option.map_eq_some_iff]
    simp
  have unvisited : ∀ item, item ∉ scope →
      start.markAfter parsing.toEvidenceParsing scope item =
        item.embeddingMark := fun item outside => if_neg outside
  have same : ∀ first ∈ start.evidence.values,
      ∀ second ∈ start.evidence.values, first.id = second.id →
        first = second :=
    fun _ isFirst _ isSecond => Table.eq_of_key_eq isFirst isSecond
  rw [progress.lists, lists_exact_iff
    (fun item owner =>
      start.markAfter parsing.toEvidenceParsing scope item =
        some (.text owner))
    same distinct within agrees (fun item _ => duplicateOf_ne_self item)]
  simp only [mem_duplicateLists stored]
  constructor
  · rintro ⟨current, outside, before⟩
    constructor
    case current => exact current
    case outside =>
      intro record isStored notInScope marked
      apply outside record isStored notInScope
      rw [unvisited record notInScope]
      exact marked
    case before =>
      intro front back split
      exact before front canonical back split rfl
  · intro kept
    refine ⟨kept.current, ?_, ?_⟩
    · intro record isStored notInScope marked
      rw [unvisited record notInScope] at marked
      exact kept.outside record isStored notInScope marked
    · intro front keeper back split sameId
      have inScope : keeper ∈ scope := by
        rw [split]
        exact List.mem_append_right front List.mem_cons_self
      have isCanonical := same keeper (within keeper inScope) canonical stored
        sameId
      rw [isCanonical] at split
      exact kept.before front back split

end

namespace ReindexExample

local instance reindexExampleRuntime : PyRuntime := asciiRuntime

open IndexExample (parsing capture)

/-- The later capture of a page is stored first. -/
def laterFirst : EnterpriseMemoryStore :=
  { sources :=
      { evidence :=
          ((∅ : Table String EvidenceRecord (·.id)).upsert
            (capture "b" "h" "" 2)).upsert (capture "a" "h" "" 1) } }

def reindexed : List EvidenceRecord :=
  (laterFirst.reindexEvidenceEmbeddings parsing.toEvidenceParsing 9 none
    none).1.records

end ReindexExample

end CompetiScope
