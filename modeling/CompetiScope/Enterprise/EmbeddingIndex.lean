import CompetiScope.Enterprise.MemoryStore
import Mathlib.Data.Prod.Lex
import CompetiScope.Foundation.Transition

/-!
# The embedding index of the in-memory store

A collected record that shares a dedupe key with an earlier capture is marked
as its duplicate and not indexed.  A projection is indexed without looking for
duplicates, and a reindex decides anew for the records of a workspace or a
project.
-/

namespace CompetiScope

open Foundation

/-! ## Dedupe keys -/

section

variable [PyRuntime] (normalizeUrl : String → String)

/-- `_embedding_dedupe_key`. -/
def embeddingDedupeKey (evidence : EvidenceRecord) : String :=
  if evidence.contentHash = "" then ""
  else
    String.intercalate "|"
      [evidence.workspaceId, evidence.projectId,
        strip (casefold evidence.competitorId),
        strip (casefold evidence.dimension),
        strip (casefold evidence.contentHash)]

/-- `_evidence_dedupe_url`. -/
def evidenceDedupeUrl (evidence : EvidenceRecord) : String :=
  normalizeUrl
    (if evidence.canonicalUrl ≠ "" then evidence.canonicalUrl
    else evidence.url.getD "")

/-- `_embedding_dedupe_keys`. -/
def embeddingDedupeKeys (evidence : EvidenceRecord) : List String :=
  let contentKey := embeddingDedupeKey evidence
  let url := evidenceDedupeUrl normalizeUrl evidence
  (if contentKey ≠ "" then ["content_hash|" ++ contentKey] else []) ++
    if url ≠ "" then
      [String.intercalate "|"
        ["canonical_url", evidence.workspaceId, evidence.projectId,
          strip (casefold evidence.competitorId),
          strip (casefold evidence.dimension), url]]
    else []

/-- The parts of the store that are not modelled, with its dedupe keys. -/
structure EmbeddingParsing extends EvidenceParsing where
  normalizeUrl : String → String
  dedupeKeys_eq : dedupeKeys = embeddingDedupeKeys normalizeUrl

end

/-! ## Writing evidence and its embedding -/

/-- The metadata entry of a duplicate. -/
def EvidenceRecord.embeddingMark (evidence : EvidenceRecord) :
    Option MetadataValue :=
  evidence.metadata.get? "embedding_duplicate_of"

/-- `_find_embedding_duplicate_locked`. -/
def EvidenceStore.embeddingDuplicate (store : EvidenceStore)
    (parsing : EvidenceParsing) (evidence : EvidenceRecord) :
    Option (EvidenceRecord × String) :=
  EvidenceStore.findEmbeddingDuplicate parsing
    (store.duplicateCandidates parsing .memory evidence) evidence

/-- The record `_apply_embedding_dedupe_locked` returns. -/
def EvidenceStore.dedupedEvidence (store : EvidenceStore)
    (parsing : EvidenceParsing) (evidence : EvidenceRecord) :
    EvidenceRecord :=
  { evidence with
    metadata := EvidenceStore.dedupedMetadata evidence.metadata
      (store.embeddingDuplicate parsing evidence) }

/-- The evidence after `_apply_embedding_dedupe_locked`, with its record. -/
def EvidenceStore.writeDeduped (store : EvidenceStore)
    (parsing : EvidenceParsing) (evidence : EvidenceRecord) :
    Table String EvidenceRecord (·.id) :=
  (store.markCanonical (store.embeddingDuplicate parsing evidence)
    evidence.id).upsert (store.dedupedEvidence parsing evidence)

/-- `EvidenceReindexResult`. -/
structure EvidenceReindexResult where
  indexedCount : Nat
  duplicateCount : Nat := 0

/-- `if value:` before the records are compared with it. -/
def selects (value : Option String) (field : String) : Bool :=
  match value.filter (· ≠ "") with
  | none => true
  | some selected => field = selected

namespace EnterpriseMemoryStore

section

variable [PyRuntime] (parsing : EvidenceParsing) (now : Nat)
  (store : EnterpriseMemoryStore)

/-- `_upsert_evidence_locked`. -/
def upsertEvidence (incoming : EvidenceRecord) : EnterpriseMemoryStore :=
  let merged :=
    mergeEvidenceLifecycle (store.sources.evidence.get? incoming.id) incoming
  let write := store.sources.upsertEvidence parsing .memory incoming
  { store with
    sources :=
      { store.sources with
        evidence := write.evidence }.registerSource
          (sourceRegistryFromEvidence parsing write.observed)
    embeddings :=
      match store.sources.embeddingDuplicate parsing merged with
      | none =>
          upsertEvidenceEmbedding parsing now store.embeddings write.observed
      | some _ =>
          deleteEvidenceEmbedding store.embeddings write.observed.id }

/-- One record of `reindex_evidence_embeddings`. -/
def reindexEvidence (item : EvidenceRecord) : EnterpriseMemoryStore :=
  let evidence := store.sources.dedupedEvidence parsing item
  { store with
    sources :=
      { store.sources with
        evidence := store.sources.writeDeduped parsing item }
    embeddings :=
      match store.sources.embeddingDuplicate parsing item with
      | none => upsertEvidenceEmbedding parsing now store.embeddings evidence
      | some _ => store.embeddings }

/-- One record of `reindex_evidence_embeddings`, counted. -/
def reindexCounted (progress : EnterpriseMemoryStore × EvidenceReindexResult)
    (item : EvidenceRecord) : EnterpriseMemoryStore × EvidenceReindexResult :=
  let (current, result) := progress
  (reindexEvidence parsing now current item,
    match current.sources.embeddingDuplicate parsing item with
    | none => { result with indexedCount := result.indexedCount + 1 }
    | some _ => { result with duplicateCount := result.duplicateCount + 1 })

/-- The records a reindex selects. -/
def reindexScope (workspaceId projectId : Option String) :
    List EvidenceRecord :=
  (store.sources.evidence.values.filter fun item =>
    selects workspaceId item.workspaceId).filter fun item =>
      selects projectId item.projectId

/-- The store without the embeddings of some records. -/
def dropEmbeddings (evidence : List EvidenceRecord) : EnterpriseMemoryStore :=
  { store with
    embeddings := store.embeddings.filter fun row =>
      row.evidenceId ∉ evidence.map (·.id) }

/-- `reindex_evidence_embeddings`. -/
def reindexEvidenceEmbeddings (workspaceId projectId : Option String) :
    EnterpriseMemoryStore × EvidenceReindexResult :=
  let evidence := store.reindexScope workspaceId projectId
  evidence.foldl (reindexCounted parsing now)
    (store.dropEmbeddings evidence, { indexedCount := 0 })

end

/-- The evidence records. -/
def records (store : EnterpriseMemoryStore) : List EvidenceRecord :=
  store.sources.evidence.values

end EnterpriseMemoryStore

/-! ## What the index promises -/

section

variable (parsing : EvidenceParsing)

/-- The records have a dedupe key in common. -/
def SharesKey (first second : EvidenceRecord) : Prop :=
  ∃ key ∈ parsing.dedupeKeys first, key ∈ parsing.dedupeKeys second

/-- The order of the canonical choice. -/
def CapturedBefore (first second : EvidenceRecord) : Prop :=
  first.capturedAt < second.capturedAt ∨
    first.capturedAt = second.capturedAt ∧ first.id < second.id

instance (first second : EvidenceRecord) :
    Decidable (CapturedBefore first second) :=
  inferInstanceAs (Decidable (_ ∨ _))

/-- No other record that shares a key was captured before this one. -/
def LeadsRecords (records : List EvidenceRecord) (record : EvidenceRecord) :
    Prop :=
  ∀ other ∈ records, other.id ≠ record.id → SharesKey parsing other record →
    ¬ CapturedBefore other record

/-- The first captured of the records that share a key with this one. -/
def FirstSharing (records : List EvidenceRecord) (record first :
    EvidenceRecord) : Prop :=
  SharesKey parsing first record ∧
    ∀ other ∈ records, SharesKey parsing other record →
      ¬ CapturedBefore other first

/-! ## Which operations keep the promise -/

variable (store : EnterpriseMemoryStore)

end

/-! ## The records as a catalogue -/

/-! ### The canonical choice -/

section

variable {parsing : EvidenceParsing}

theorem earlier_eq (first second : EvidenceRecord) :
    EvidenceStore.earlier first second =
      if CapturedBefore second first then second else first := rfl

theorem capturedBefore_iff {first second : EvidenceRecord} :
    CapturedBefore first second ↔
      toLex (first.capturedAt, first.id) <
        toLex (second.capturedAt, second.id) := by
  rw [Prod.Lex.toLex_lt_toLex]
  rfl

theorem capturedBefore_or_capturedBefore {first second : EvidenceRecord}
    (distinct : first.id ≠ second.id) :
    CapturedBefore first second ∨ CapturedBefore second first := by
  rw [capturedBefore_iff, capturedBefore_iff]
  apply lt_or_gt_of_ne
  intro same
  exact distinct (congrArg (fun place => (ofLex place).2) same)

/-- No record was captured before the canonical one. -/
theorem foldl_earlier_minimal (records : List EvidenceRecord)
    (start : EvidenceRecord) :
    ∀ record ∈ start :: records,
      ¬ CapturedBefore record
        (records.foldl EvidenceStore.earlier start) := by
  induction records generalizing start with
  | nil =>
      intro record member
      rw [List.mem_singleton.mp member, List.foldl_nil, capturedBefore_iff]
      exact lt_irrefl _
  | cons next records induction =>
      intro record member
      rw [List.foldl_cons]
      have minimal := induction (EvidenceStore.earlier start next)
      have kept := minimal _ List.mem_cons_self
      rcases List.mem_cons.mp member with isStart | member
      · subst isStart
        rw [earlier_eq] at kept ⊢
        split at kept
        · next before =>
            rw [if_pos before]
            rw [capturedBefore_iff] at before kept ⊢
            exact fun contrary => kept (before.trans contrary)
        · next notBefore =>
            rw [if_neg notBefore]
            exact kept
      · rcases List.mem_cons.mp member with isNext | later
        · subst isNext
          rw [earlier_eq] at kept ⊢
          split at kept
          · next before =>
              rw [if_pos before]
              exact kept
          · next notBefore =>
              rw [if_neg notBefore]
              rw [capturedBefore_iff] at notBefore kept ⊢
              exact fun contrary =>
                kept ((not_lt.mp notBefore).trans_lt contrary)
        · exact minimal record (List.mem_cons_of_mem _ later)

theorem foldl_earlier_mem (records : List EvidenceRecord)
    (start : EvidenceRecord) :
    records.foldl EvidenceStore.earlier start ∈ start :: records := by
  apply foldl_mem_of_choice
  intro first second
  unfold EvidenceStore.earlier
  split
  · exact .inr rfl
  · exact .inl rfl

/-- The canonical record of `_find_embedding_duplicate_locked`. -/
def canonicalOf (first : EvidenceRecord) (others : List EvidenceRecord)
    (record : EvidenceRecord) : EvidenceRecord :=
  (others ++ [record]).foldl EvidenceStore.earlier first

theorem canonicalOf_mem (first : EvidenceRecord)
    (others : List EvidenceRecord) (record : EvidenceRecord) :
    canonicalOf first others record ∈ first :: others ∨
      canonicalOf first others record = record := by
  have member := foldl_earlier_mem (others ++ [record]) first
  rw [← List.cons_append, List.mem_append, List.mem_singleton] at member
  exact member

theorem canonicalOf_minimal {first record other : EvidenceRecord}
    {others : List EvidenceRecord}
    (member : other ∈ first :: others ∨ other = record) :
    ¬ CapturedBefore other (canonicalOf first others record) := by
  apply foldl_earlier_minimal (others ++ [record]) first
  rw [← List.cons_append, List.mem_append, List.mem_singleton]
  exact member

theorem embeddingMark_dedupedMetadata_none (record : EvidenceRecord)
    (metadata : Dict String MetadataValue) :
    EvidenceRecord.embeddingMark
      { record with
        metadata := EvidenceStore.dedupedMetadata metadata none } = none := by
  simp [EvidenceRecord.embeddingMark, EvidenceStore.dedupedMetadata,
    Dict.get?_set, Dict.get?_erase]

theorem embeddingMark_dedupedMetadata_some (record : EvidenceRecord)
    (metadata : Dict String MetadataValue) (canonical : EvidenceRecord)
    (key : String) :
    EvidenceRecord.embeddingMark
      { record with
        metadata := EvidenceStore.dedupedMetadata metadata
          (some (canonical, key)) } = some (.text canonical.id) := by
  unfold EvidenceRecord.embeddingMark EvidenceStore.dedupedMetadata
  rw [Dict.get?_set_ne, Dict.get?_set_ne, Dict.get?_set_ne,
    Dict.get?_set_self]
  all_goals decide

end

/-! ### The mark of a written record -/

section

variable [PyRuntime] {parsing : EmbeddingParsing} {store : EvidenceStore}
  {record : EvidenceRecord}

/-- The keys of a record do not depend on its metadata. -/
theorem dedupeKeys_metadata (record : EvidenceRecord)
    (metadata : Dict String MetadataValue) :
    parsing.dedupeKeys { record with metadata := metadata } =
      parsing.dedupeKeys record := by
  rw [parsing.dedupeKeys_eq]
  rfl

theorem mem_duplicateCandidates {other : EvidenceRecord} :
    other ∈ store.duplicateCandidates parsing.toEvidenceParsing .memory
        record ↔
      other ∈ store.evidence.values ∧
        SharesKey parsing.toEvidenceParsing other record := by
  unfold EvidenceStore.duplicateCandidates SharesKey
  split
  · next noKeys =>
      simp [noKeys]
  · simp [List.mem_filter]

/-- A record that is no duplicate leads, or a stored version of it is the
first that shares a key; a duplicate has the first that shares a key for its
canonical record. -/
theorem embeddingDuplicate_cases (parsing : EmbeddingParsing)
    (store : EvidenceStore) (record : EvidenceRecord) :
    (store.embeddingDuplicate parsing.toEvidenceParsing record = none ∧
        (LeadsRecords parsing.toEvidenceParsing store.evidence.values record ∨
          ∃ stored ∈ store.evidence.values, stored.id = record.id ∧
            FirstSharing parsing.toEvidenceParsing store.evidence.values
              record stored)) ∨
      ∃ canonical ∈ store.evidence.values, ∃ key,
        store.embeddingDuplicate parsing.toEvidenceParsing record =
            some (canonical, key) ∧
          canonical.id ≠ record.id ∧ CapturedBefore canonical record ∧
          FirstSharing parsing.toEvidenceParsing store.evidence.values record
            canonical := by
  unfold EvidenceStore.embeddingDuplicate
  cases candidates : store.duplicateCandidates parsing.toEvidenceParsing
    .memory record with
  | nil =>
      left
      refine ⟨rfl, .inl ?_⟩
      intro other member _ shares
      have candidate := mem_duplicateCandidates.mpr ⟨member, shares⟩
      rw [candidates] at candidate
      cases candidate
  | cons first others =>
      have minimal : ∀ other ∈ store.evidence.values,
          SharesKey parsing.toEvidenceParsing other record →
            ¬ CapturedBefore other (canonicalOf first others record) := by
        intro other member shares
        apply canonicalOf_minimal
        left
        rw [← candidates]
        exact mem_duplicateCandidates.mpr ⟨member, shares⟩
      have chosen : EvidenceStore.findEmbeddingDuplicate
          parsing.toEvidenceParsing (first :: others) record =
            if (canonicalOf first others record).id = record.id then none
            else
              (sortedSet ((parsing.dedupeKeys
                (canonicalOf first others record)).filter
                  (· ∈ parsing.dedupeKeys record))).head?.map fun key =>
                    (canonicalOf first others record, key) := rfl
      rw [chosen]
      rcases canonicalOf_mem first others record with candidate | isRecord
      · rw [← candidates, mem_duplicateCandidates] at candidate
        obtain ⟨stored, shares⟩ := candidate
        by_cases sameId : (canonicalOf first others record).id = record.id
        · left
          exact ⟨if_pos sameId, .inr ⟨_, stored, sameId, shares, minimal⟩⟩
        · right
          obtain ⟨shared, inCanonical, inRecord⟩ := shares
          have member : shared ∈ sortedSet ((parsing.dedupeKeys
              (canonicalOf first others record)).filter
                (· ∈ parsing.dedupeKeys record)) := by
            rw [mem_sortedSet, List.mem_filter, decide_eq_true_iff]
            exact ⟨inCanonical, inRecord⟩
          obtain ⟨key, rest, keys⟩ :=
            List.exists_cons_of_ne_nil (List.ne_nil_of_mem member)
          have notBefore : ¬ CapturedBefore record
              (canonicalOf first others record) :=
            canonicalOf_minimal (.inr rfl)
          have before : CapturedBefore (canonicalOf first others record)
              record := by
            rcases capturedBefore_or_capturedBefore sameId with
              before | contrary
            · exact before
            · exact (notBefore contrary).elim
          refine ⟨_, stored, key, ?_, sameId, before,
            ⟨shared, inCanonical, inRecord⟩, minimal⟩
          rw [if_neg sameId, keys]
          rfl
      · left
        refine ⟨if_pos (congrArg _ isRecord), .inl ?_⟩
        intro other member _ shares
        rw [isRecord] at minimal
        exact minimal other member shares

end

/-! ## What every operation keeps -/

section

variable [PyRuntime] {parsing : EmbeddingParsing}
  {store : EnterpriseMemoryStore}

/-! ### Reindexing -/

section Reindex

variable {start current : EnterpriseMemoryStore}
  {selected processed : List EvidenceRecord} {now : Nat}

theorem foldl_reindexCounted (records : List EvidenceRecord)
    (progress : EnterpriseMemoryStore × EvidenceReindexResult) :
    (records.foldl (EnterpriseMemoryStore.reindexCounted
        parsing.toEvidenceParsing now) progress).1 =
      records.foldl (EnterpriseMemoryStore.reindexEvidence
        parsing.toEvidenceParsing now) progress.1 := by
  induction records generalizing progress with
  | nil => rfl
  | cons record records induction =>
      rw [List.foldl_cons, List.foldl_cons]
      exact induction _

end Reindex

omit [PyRuntime] in
theorem mem_records_of_mem_reindexScope
    {workspaceId projectId : Option String} {record : EvidenceRecord}
    (member : record ∈ store.reindexScope workspaceId projectId) :
    record ∈ store.records :=
  List.mem_of_mem_filter (List.mem_of_mem_filter member)

end

/-! ## Late captures, chains and projections -/

namespace IndexExample

local instance indexExampleRuntime : PyRuntime := asciiRuntime

def parsing : EmbeddingParsing :=
  { sha256Hex := id
    hostname := id
    normalizeKey := id
    dedupeKeys := embeddingDedupeKeys id
    duplicateRows := fun _ _ => []
    normalizeUrl := id
    dedupeKeys_eq := rfl }

def capture (id contentHash canonicalUrl : String) (capturedAt : Nat) :
    EvidenceRecord :=
  { id := id
    projectId := "p"
    rawSourceId := id
    contentHash := contentHash
    canonicalUrl := canonicalUrl
    capturedAt := capturedAt }

end IndexExample

end CompetiScope
