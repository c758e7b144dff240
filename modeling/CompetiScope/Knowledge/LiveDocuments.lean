import CompetiScope.Knowledge.Operations

/-!
# Live documents

A canonical URL and a content hash have one live document at most.  A chunk
belongs to the version it was cut from; a version that is superseded keeps
its chunks.
-/

namespace CompetiScope

open Foundation

/-! ## What holds in every state -/

/-- A document with status `active` is live. -/
def FlagsSet (documents : List KnowledgeDocument) : Prop :=
  ∀ document ∈ documents, document.status = .active →
    document.isActive = true

/-- Every chunk was cut from the text of its document. -/
def ChunksCut (sizes : ChunkSizes) (documents : List KnowledgeDocument)
    (chunks : List KnowledgeChunk) : Prop :=
  ∀ chunk ∈ chunks, ∃ document ∈ documents,
    chunk.documentId = document.id ∧
      (chunk.text, chunk.chunkIndex) ∈
        (sizes.chunkTexts document.text).zipIdx

structure KnowledgeSound (sizes : ChunkSizes)
    (database : KnowledgeDatabase) : Prop where
  flags : FlagsSet database.documents
  cut : ChunksCut sizes database.documents database.chunks

section Preserved

variable {sizes : ChunkSizes} {database next : KnowledgeDatabase}

theorem FlagsSet.updateRows {documents : List KnowledgeDocument}
    (flags : FlagsSet documents) {selects : KnowledgeDocument → Bool}
    {write : KnowledgeDocument → KnowledgeDocument}
    (kept : ∀ document, (document.status = .active →
      document.isActive = true) → (write document).status = .active →
        (write document).isActive = true) :
    FlagsSet (updateRows selects write documents) := by
  intro document member
  rcases mem_updateRows.mp member with ⟨old, oldMember, -, rfl⟩ |
    ⟨unchanged, -⟩
  · exact kept old (flags old oldMember)
  · exact flags document unchanged

theorem FlagsSet.archive {documents : List KnowledgeDocument}
    (flags : FlagsSet documents) (selects : KnowledgeDocument → Bool)
    (now : Nat) :
    FlagsSet (Foundation.updateRows selects (·.archive now) documents) := by
  apply flags.updateRows
  intro document _ isActive
  cases isActive

theorem FlagsSet.activate {documents : List KnowledgeDocument}
    (flags : FlagsSet documents) (selects : KnowledgeDocument → Bool)
    (now : Nat) :
    FlagsSet (Foundation.updateRows selects (·.activate now) documents) := by
  apply flags.updateRows
  exact fun _ _ _ => rfl

theorem FlagsSet.rollback (flags : FlagsSet database.documents)
    {selectors : RollbackSelectors} {restore : Bool} {now : Nat}
    {result : KnowledgeRollbackResult}
    (ran : rollbackDocuments database selectors restore now =
      .ok (result, next)) : FlagsSet next.documents := by
  rcases rollbackDocuments_eq_ok ran with same | ⟨archived, urls, restored,
    skipped, written, isRestored, -⟩
  · rw [same]
    exact flags
  · apply @restorePrevious_invariant _ _
      (fun other => FlagsSet other.documents) _ _ _ _ _ _ _ isRestored
    · intro other _ _ previous activated otherFlags _ _ isWritten
      rw [(KnowledgeDatabase.write_eq_ok isWritten).1]
      exact otherFlags.activate _ now
    · rw [(KnowledgeDatabase.write_eq_ok written).1]
      exact flags.archive _ now

theorem FlagsSet.upsert (flags : FlagsSet database.documents)
    {doc : DocumentCreate} {contentHash docId : String} {now : Nat}
    {stored : KnowledgeDocument}
    (upserted : upsertDocument database doc contentHash docId now =
      .ok (stored, next)) : FlagsSet next.documents := by
  obtain ⟨isInserted, rows, -⟩ := upsertDocument_eq_ok upserted
  rw [rows]
  intro document member
  rcases List.mem_append.mp member with old | new
  · exact flags.archive _ now document old
  · rw [List.mem_singleton.mp new, isInserted]
    exact fun _ => rfl

theorem FlagsSet.run (flags : FlagsSet database.documents)
    {operation : KnowledgeOperation}
    (ran : operation.run database = .ok ((), next)) :
    FlagsSet next.documents := by
  cases operation with
  | upsert doc contentHash docId now =>
      obtain ⟨stored, upserted⟩ := dropResult_eq_ok ran
      exact flags.upsert upserted
  | delete documentId =>
      obtain ⟨result, deleted⟩ := dropResult_eq_ok ran
      rcases deleteDocument_eq_ok deleted with same | ⟨rows, -⟩
      · rw [same]
        exact flags
      · rw [rows]
        intro document member
        exact flags document (List.mem_of_mem_filter member)
  | merge documentId targetDocumentId now =>
      obtain ⟨result, merged⟩ := dropResult_eq_ok ran
      rcases mergeDocumentVersion_eq_ok merged with same | ⟨rootId, rows, -⟩
      · rw [same]
        exact flags
      · rw [rows]
        exact (flags.archive _ now).activate _ now
  | archive before now =>
      obtain ⟨result, archived⟩ := dropResult_eq_ok ran
      rw [(write_map_eq_ok (fun _ => rfl) archived).1]
      exact flags.archive _ now
  | markStale cutoff now =>
      obtain ⟨result, marked⟩ := dropResult_eq_ok ran
      rw [(write_map_eq_ok (fun _ => rfl) marked).1]
      apply flags.updateRows
      intro document _ isActive
      cases isActive
  | softDelete documentId now =>
      obtain ⟨result, removed⟩ := dropResult_eq_ok ran
      rw [(write_map_eq_ok (fun _ => rfl) removed).1]
      apply flags.updateRows
      intro document _ isActive
      cases isActive
  | rollback selectors restore now =>
      obtain ⟨result, rolledBack⟩ := dropResult_eq_ok ran
      exact flags.rollback rolledBack

/-- The version a chunk was cut from keeps its id and its text. -/
theorem ChunksCut.sameVersions {first second : List KnowledgeDocument}
    {chunks : List KnowledgeChunk} (cut : ChunksCut sizes first chunks)
    (same : SameVersions first second) : ChunksCut sizes second chunks := by
  intro chunk member
  obtain ⟨document, inFirst, owner, piece⟩ := cut chunk member
  obtain ⟨later, inSecond, equal⟩ := same.symm.exists_mem inFirst
  have sameId : document.id = later.id := by
    rw [← id_inserted document, equal, id_inserted]
  have sameText : document.text = later.text := by
    rw [← text_inserted document, equal, text_inserted]
  rw [sameId] at owner
  rw [sameText] at piece
  exact ⟨later, inSecond, owner, piece⟩

theorem ChunksCut.upsert
    (cut : ChunksCut sizes database.documents database.chunks)
    {doc : DocumentCreate} {contentHash docId : String} {now : Nat}
    {stored : KnowledgeDocument}
    (upserted : upsertDocument database doc contentHash docId now =
      .ok (stored, next)) :
    ChunksCut sizes next.documents next.chunks := by
  obtain ⟨-, rows, chunks⟩ := upsertDocument_eq_ok upserted
  have archived : SameVersions database.documents (updateRows
      (fun document =>
        ((previousVersion database doc.lineage).map (·.id)) =
          some document.id)
      (·.archive now) database.documents) := by
    apply SameVersions.updateRows
    exact fun _ => rfl
  rw [rows, chunks]
  intro chunk member
  obtain ⟨document, inRows, owned⟩ := cut.sameVersions archived chunk member
  exact ⟨document, List.mem_append_left _ inRows, owned⟩

theorem ChunksCut.run
    (cut : ChunksCut sizes database.documents database.chunks)
    {operation : KnowledgeOperation}
    (ran : operation.run database = .ok ((), next)) :
    ChunksCut sizes next.documents next.chunks := by
  by_cases keeps : operation.keepsRows = true
  · obtain ⟨same, sameChunks⟩ := sameVersions_of_run keeps ran
    rw [sameChunks]
    exact cut.sameVersions same
  · cases operation with
    | upsert doc contentHash docId now =>
        obtain ⟨stored, upserted⟩ := dropResult_eq_ok ran
        exact cut.upsert upserted
    | delete documentId =>
        obtain ⟨result, deleted⟩ := dropResult_eq_ok ran
        rcases deleteDocument_eq_ok deleted with same | ⟨rows, chunks⟩
        · rw [same]
          exact cut
        · rw [rows, chunks]
          intro chunk member
          obtain ⟨inChunks, other⟩ := List.mem_filter.mp member
          obtain ⟨document, inRows, owner, piece⟩ := cut chunk inChunks
          refine ⟨document, List.mem_filter.mpr ⟨inRows, ?_⟩, owner, piece⟩
          rwa [← owner]
    | merge documentId targetDocumentId now => exact (keeps rfl).elim
    | archive before now => exact (keeps rfl).elim
    | markStale cutoff now => exact (keeps rfl).elim
    | softDelete documentId now => exact (keeps rfl).elim
    | rollback selectors restore now => exact (keeps rfl).elim

/-- Replacing chunks leaves old ones and the new ones. -/
theorem mem_foldl_replaceChunk {chunk : KnowledgeChunk}
    {added : List KnowledgeChunk} : ∀ chunks,
    chunk ∈ added.foldl replaceChunk chunks →
      chunk ∈ chunks ∨ chunk ∈ added := by
  induction added with
  | nil => exact fun _ member => .inl member
  | cons first added induction =>
      intro chunks member
      rcases induction _ member with inChunks | later
      · rcases List.mem_append.mp inChunks with kept | isFirst
        · exact .inl (List.mem_of_mem_filter kept)
        · rw [List.mem_singleton.mp isFirst]
          exact .inr List.mem_cons_self
      · exact .inr (List.mem_cons_of_mem _ later)

theorem insertChunks_eq_ok {chunks : List KnowledgeChunk}
    (inserted : insertChunks database chunks = .ok ((), next)) :
    next.documents = database.documents ∧
      next.chunks = chunks.foldl replaceChunk database.chunks :=
  write_map_eq_ok (fun _ => rfl) inserted

theorem mem_chunkText {pipeline : IngestionPipeline}
    {text documentId embeddingModel : String} {crawlRunId : Option String}
    {chunk : KnowledgeChunk}
    (member : chunk ∈ pipeline.chunkText text documentId embeddingModel
      crawlRunId) :
    chunk.documentId = documentId ∧
      (chunk.text, chunk.chunkIndex) ∈
        (pipeline.sizes.chunkTexts text).zipIdx := by
  obtain ⟨piece, inPieces, rfl⟩ := List.mem_map.mp member
  exact ⟨rfl, inPieces⟩

variable {Vector : Type} {pipeline : IngestionPipeline}
  {base : KnowledgeBase Vector}

/-- Storing the chunks of the row an upsert made keeps every state sound. -/
theorem KnowledgeSound.chunksStored {call : IngestCall Vector}
    (sound : KnowledgeSound pipeline.sizes base.database)
    {stored : KnowledgeDocument}
    (upserted : upsertDocument base.database call.doc
      (pipeline.contentHash call.doc.text) call.docId call.now =
        .ok (stored, database))
    (cut : ChunksStored (pipeline.chunksOf call stored) database next) :
    KnowledgeSound pipeline.sizes next := by
  have flags := sound.flags.upsert upserted
  have cutBefore := sound.cut.upsert upserted
  rcases cut with ⟨-, same⟩ | inserted
  · rw [same]
    exact ⟨flags, cutBefore⟩
  · obtain ⟨rows, chunks⟩ := insertChunks_eq_ok inserted
    constructor
    case flags =>
      rw [rows]
      exact flags
    case cut =>
      rw [rows, chunks]
      intro chunk member
      rcases mem_foldl_replaceChunk _ member with old | new
      · exact cutBefore chunk old
      · obtain ⟨owner, piece⟩ := mem_chunkText new
        obtain ⟨isInserted, storedRows, -⟩ := upsertDocument_eq_ok upserted
        have sameText : stored.text = call.doc.text := by
          rw [isInserted]
          rfl
        refine ⟨stored, ?_, owner, ?_⟩
        · rw [storedRows]
          exact List.mem_append_right _ (List.mem_singleton_self stored)
        · rw [sameText]
          exact piece

/-- Every action keeps every state sound. -/
theorem KnowledgeSound.perform {action : KnowledgeAction Vector}
    (sound : KnowledgeSound pipeline.sizes base.database) :
    KnowledgeSound pipeline.sizes
      (performKnowledge pipeline base action).2.database := by
  cases action with
  | operate operation commitError =>
      unfold performKnowledge
      dsimp only
      rcases @transaction_cases _ _ _ commitError operation.run
          base.database with ⟨error, failed⟩ | ⟨result, next, ran, made⟩
      · rw [failed]
        exact sound
      · rw [made]
        exact ⟨sound.flags.run ran, sound.cut.run ran⟩
  | ingest call =>
      unfold performKnowledge
      dsimp only
      have outcome := ingests pipeline call base
      generalize pipeline.ingest call base = made at outcome ⊢
      cases outcome with
      | unstored error => exact sound
      | known existing found => exact sound
      | uncut stored database error missing upserted =>
          exact ⟨sound.flags.upsert upserted, sound.cut.upsert upserted⟩
      | unindexed stored database next error missing upserted cut =>
          exact sound.chunksStored upserted cut
      | completed stored database next final missing upserted cut indexed =>
          have sameTables := congrArg (·.2.database) indexed
          rw [indexChunks_database] at sameTables
          dsimp only at sameTables
          rw [← sameTables]
          exact sound.chunksStored upserted cut

end Preserved

/-! ## Every run -/

/-- One live document for a URL and for a hash, and chunks that were cut from
the version they name. -/
structure LiveDocuments (sizes : ChunkSizes)
    (database : KnowledgeDatabase) : Prop where
  urls : ∀ first ∈ database.documents, ∀ second ∈ database.documents,
    first.status = .active → second.status = .active →
      ∀ url, first.canonicalUrl = some url →
        second.canonicalUrl = some url → first = second
  hashes : ∀ first ∈ database.documents, ∀ second ∈ database.documents,
    first.status = .active → second.status = .active →
      first.contentHash = second.contentHash → first = second
  cut : ChunksCut sizes database.documents database.chunks

/-- The indexes cover every document with status `active`. -/
theorem KnowledgeSound.liveDocuments {sizes : ChunkSizes}
    {database : KnowledgeDatabase}
    (sound : KnowledgeSound sizes database) :
    LiveDocuments sizes database := by
  constructor
  case urls =>
    intro first firstMember second secondMember firstActive secondActive url
      firstUrl secondUrl
    have firstLive := sound.flags first firstMember firstActive
    have secondLive := sound.flags second secondMember secondActive
    apply database.valid.activeUrls.eq_of_mem firstMember secondMember
    · rw [activeUrl, if_pos firstLive]
      exact firstUrl
    · rw [activeUrl, if_pos secondLive]
      exact secondUrl
  case hashes =>
    intro first firstMember second secondMember firstActive secondActive same
    have firstLive := sound.flags first firstMember firstActive
    have secondLive := sound.flags second secondMember secondActive
    apply database.valid.activeHashes.eq_of_mem firstMember secondMember
    · rw [activeHash, if_pos firstLive]
    · rw [activeHash, if_pos secondLive, same]
  case cut => exact sound.cut

/-- Every chunk belongs to a live version. -/
def CurrentChunks (database : KnowledgeDatabase) : Prop :=
  ∀ chunk ∈ database.chunks, ∃ document ∈ database.documents,
    chunk.documentId = document.id ∧ document.isActive = true

instance (database : KnowledgeDatabase) :
    Decidable (CurrentChunks database) :=
  inferInstanceAs (Decidable (∀ chunk ∈ database.chunks, _))

namespace KnowledgeExample

def pipeline : IngestionPipeline :=
  { sha256Hex := fun text => text
    uuid5 := fun name => name }

def page (text : String) : DocumentCreate :=
  { url := some "https://example.com/plans"
    title := "Plans"
    sourceType := "manual"
    text := text }

def ingestPage (text docId : String) (now : Nat)
    (fails : Option IngestStage) : IngestCall Unit :=
  { doc := page text
    docId := docId
    now := now
    fails := fails }

def reingested : List (KnowledgeAction Unit) :=
  [.ingest (ingestPage "Old price" "d1" 1 none),
    .ingest (ingestPage "New price" "d2" 2 none)]

/-- What some actions leave. -/
def baseAfter (actions : List (KnowledgeAction Unit)) : KnowledgeBase Unit :=
  actions.foldl
    (fun base action => (performKnowledge pipeline base action).2)
    (.empty Unit)

end KnowledgeExample

end CompetiScope
