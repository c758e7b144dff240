import CompetiScope.Foundation.Numerals
import CompetiScope.Knowledge.LiveDocuments

/-!
# Retries of an ingest

A row is committed before its chunks and the chunks before their vectors, and
the next ingest of the text returns at the row.  What the lookup finds is
therefore as complete as the call that wrote it.
-/

namespace CompetiScope

open Foundation

/-! ## Runs of ingests -/

/-- The knowledge base and, for each row, the call that wrote it. -/
structure IngestTrace (Vector : Type) where
  base : KnowledgeBase Vector
  storedBy : Dict String (IngestCall Vector) := ∅

/-- The ids of the rows. -/
def KnowledgeDatabase.ids (database : KnowledgeDatabase) : List String :=
  database.documents.map (·.id)

section Runs

variable {Vector : Type} (pipeline : IngestionPipeline)
  (trace : IngestTrace Vector) (call : IngestCall Vector)

def IngestTrace.after (next : KnowledgeBase Vector) : IngestTrace Vector :=
  { base := next
    storedBy :=
      if call.docId ∈ next.database.ids ∧
          call.docId ∉ trace.base.database.ids then
        trace.storedBy.set call.docId call
      else trace.storedBy }

def ingestStep : Option (IngestTrace Vector) :=
  some (trace.after call (pipeline.ingest call trace.base).2)

/-- The vector store has a point for the text of a chunk. -/
def HasPoint (points : Dict String (VectorPoint Vector))
    (chunk : KnowledgeChunk) : Prop :=
  ∃ point ∈ points.get? chunk.id,
    point.documentId = chunk.documentId ∧ point.text = chunk.text

instance (points : Dict String (VectorPoint Vector))
    (chunk : KnowledgeChunk) : Decidable (HasPoint points chunk) :=
  inferInstanceAs (Decidable (∃ point ∈ points.get? chunk.id, _))

/-- The chunks of a document are the pieces of the text, with their points
where an embedder was given. -/
structure Ingested (sizes : ChunkSizes) (call : IngestCall Vector)
    (base : KnowledgeBase Vector) (id : String) : Prop where
  pieces : (getChunksForDocument base.database id).map
      (fun chunk => (chunk.text, chunk.chunkIndex)) =
    (sizes.chunkTexts call.doc.text).zipIdx
  vectors : call.embedder.isSome = true →
    ∀ chunk ∈ getChunksForDocument base.database id,
      HasPoint base.points chunk

/-- A call that returns an id has ingested its document. -/
def RetrySafe : Prop :=
  ∀ id, (pipeline.ingest call trace.base).1 = .ok id →
    Ingested pipeline.sizes call (pipeline.ingest call trace.base).2 id

/-! ## What a call leaves of its document -/

/-- The pieces a call that wrote a row stored with it. -/
def IngestCall.storedTexts (sizes : ChunkSizes) : List String :=
  if call.fails = some .chunks then []
  else sizes.chunkTexts call.doc.text

/-- The call got its vectors and the vector store took them. -/
def IngestCall.storedVectors (sizes : ChunkSizes) : Prop :=
  call.fails ≠ some .chunks ∧ call.fails ≠ some .vectors ∧
    ∃ embedder ∈ call.embedder,
      (embedder.embedDocuments
        (sizes.chunkTexts call.doc.text)).isSome = true

instance (sizes : ChunkSizes) : Decidable (call.storedVectors sizes) :=
  inferInstanceAs (Decidable (_ ∧ _ ∧ _))

/-- The call that wrote the row the lookup finds stored the same pieces, and
their vectors where an embedder is given now. -/
def StoredBefore : Prop :=
  call.fails ≠ some .lookup →
    ∀ existing ∈ getDocumentByContentHash trace.base.database
        (pipeline.contentHash call.doc.text),
      ∀ first ∈ trace.storedBy.get? existing.id,
        first.storedTexts pipeline.sizes =
            pipeline.sizes.chunkTexts call.doc.text ∧
          (call.embedder.isSome = true →
            pipeline.sizes.chunkTexts call.doc.text ≠ [] →
              first.storedVectors pipeline.sizes)

instance : Decidable (StoredBefore pipeline trace call) :=
  inferInstanceAs (Decidable (_ → _))

end Runs

/-! ## Names of chunks -/

/-- The name the id of a chunk is made of. -/
def chunkName (documentId : String) (index : Nat) : String :=
  documentId ++ ":" ++ toString index

/-- The names of the chunks some calls may store. -/
def chunkNames {Vector : Type} (sizes : ChunkSizes)
    (calls : List (IngestCall Vector)) : Set String :=
  { name | ∃ call ∈ calls,
    ∃ index < (sizes.chunkTexts call.doc.text).length,
      name = chunkName call.docId index }

/-- The last mark splits a list in one way. -/
theorem split_at_last {mark : Char} {first second left right : List Char}
    (noneLeft : mark ∉ left) (noneRight : mark ∉ right)
    (same : first ++ mark :: left = second ++ mark :: right) :
    first = second ∧ left = right := by
  rcases List.append_eq_append_iff.mp same with
    ⟨more, isSecond, rest⟩ | ⟨more, isFirst, rest⟩
  · cases more with
    | nil =>
        simp only [List.append_nil] at isSecond
        exact ⟨isSecond.symm, (List.cons.inj rest).2⟩
    | cons char more =>
        have isLeft : left = more ++ mark :: right := (List.cons.inj rest).2
        simp [isLeft] at noneLeft
  · cases more with
    | nil =>
        simp only [List.append_nil] at isFirst
        exact ⟨isFirst, (List.cons.inj rest).2.symm⟩
    | cons char more =>
        have isRight : right = more ++ mark :: left := (List.cons.inj rest).2
        simp [isRight] at noneRight

theorem chunkName_eq_iff {firstId secondId : String} {first second : Nat} :
    chunkName firstId first = chunkName secondId second ↔
      firstId = secondId ∧ first = second := by
  constructor
  · intro same
    have characters : firstId.toList ++ ':' :: (toString first).toList =
        secondId.toList ++ ':' :: (toString second).toList := by
      have := congrArg String.toList same
      simpa only [chunkName, String.toList_append, List.append_assoc]
    have isMark : (':' : Char).isDigit = false := rfl
    obtain ⟨ids, digits⟩ := split_at_last (notMem_numeral isMark first)
      (notMem_numeral isMark second) characters
    exact ⟨String.toList_inj.mp ids,
      toString_injective (String.toList_inj.mp digits)⟩
  · rintro ⟨rfl, rfl⟩
    rfl

/-! ## The chunks of a document -/

section Chunks

variable {Vector : Type} {pipeline : IngestionPipeline}

/-- The chunks a call that wrote a row stored with it. -/
def storedChunks (pipeline : IngestionPipeline) (call : IngestCall Vector)
    (documentId : String) : List KnowledgeChunk :=
  if call.fails = some .chunks then []
  else
    pipeline.chunkText call.doc.text documentId
      (IngestionPipeline.embeddingModel call) call.crawlRunId

theorem pieces_chunkText (text documentId embeddingModel : String)
    (crawlRunId : Option String) :
    (pipeline.chunkText text documentId embeddingModel crawlRunId).map
        (fun chunk => (chunk.text, chunk.chunkIndex)) =
      (pipeline.sizes.chunkTexts text).zipIdx := by
  rw [IngestionPipeline.chunkText, List.map_map]
  exact List.map_id _

theorem pieces_storedChunks (call : IngestCall Vector)
    (documentId : String) :
    (storedChunks pipeline call documentId).map
        (fun chunk => (chunk.text, chunk.chunkIndex)) =
      (call.storedTexts pipeline.sizes).zipIdx := by
  unfold storedChunks IngestCall.storedTexts
  split
  · rfl
  · exact pieces_chunkText _ _ _ _

/-- The chunks of a text are in the order of their indexes. -/
theorem sorted_chunkText (text documentId embeddingModel : String)
    (crawlRunId : Option String) :
    (pipeline.chunkText text documentId embeddingModel crawlRunId).Pairwise
      fun first second => first.chunkIndex < second.chunkIndex := by
  have indexes : (pipeline.chunkText text documentId embeddingModel
      crawlRunId).map (·.chunkIndex) =
        List.range (pipeline.sizes.chunkTexts text).length := by
    have pieces := congrArg (List.map Prod.snd)
      (@pieces_chunkText pipeline text documentId embeddingModel crawlRunId)
    rw [List.map_map, List.zipIdx_map_snd, ← List.range_eq_range'] at pieces
    exact pieces
  have sorted := List.pairwise_lt_range
    (n := (pipeline.sizes.chunkTexts text).length)
  rw [← indexes, List.pairwise_map] at sorted
  exact sorted

theorem sorted_storedChunks (call : IngestCall Vector)
    (documentId : String) :
    (storedChunks pipeline call documentId).Pairwise fun first second =>
      first.chunkIndex ≤ second.chunkIndex := by
  unfold storedChunks
  split
  · exact List.Pairwise.nil
  · exact (sorted_chunkText _ _ _ _).imp Nat.le_of_lt

end Chunks

/-! ## Writing new chunks -/

/-- Two chunks have neither their id nor their place in common. -/
def ChunksApart (first second : KnowledgeChunk) : Prop :=
  first.id ≠ second.id ∧
    (first.documentId, first.chunkIndex) ≠
      (second.documentId, second.chunkIndex)

theorem KnowledgeDatabase.chunksApart (database : KnowledgeDatabase) :
    database.chunks.Pairwise ChunksApart := by
  have ids := database.valid.chunkIds
  have places := database.valid.chunkIndexes
  rw [List.Nodup, List.pairwise_map] at ids places
  exact ids.and places

theorem foldl_replaceChunk_apart {added : List KnowledgeChunk} :
    ∀ {chunks : List KnowledgeChunk},
      (chunks ++ added).Pairwise ChunksApart →
        added.foldl replaceChunk chunks = chunks ++ added := by
  induction added with
  | nil =>
      intro chunks _
      exact (List.append_nil chunks).symm
  | cons first added induction =>
      intro chunks apart
      have replaced : replaceChunk chunks first = chunks ++ [first] := by
        rw [replaceChunk, List.filter_eq_self.mpr]
        intro other member
        have here := (List.pairwise_append.mp apart).2.2 other member first
          List.mem_cons_self
        rw [Bool.and_eq_true]
        exact ⟨decide_eq_true here.1, decide_eq_true here.2⟩
      rw [List.append_cons] at apart
      rw [List.foldl_cons, replaced, induction apart,
        ← List.append_cons]

/-- Chunks that are apart from those stored are added. -/
theorem insertChunks_apart {database : KnowledgeDatabase}
    {added : List KnowledgeChunk}
    (apart : (database.chunks ++ added).Pairwise ChunksApart)
    (owned : ∀ chunk ∈ added, chunk.documentId ∈ database.ids) :
    ∃ next, insertChunks database added = .ok ((), next) ∧
      next.documents = database.documents ∧
      next.chunks = database.chunks ++ added := by
  have valid : KnowledgeConstraints database.documents
      (database.chunks ++ added) :=
    { database.valid with
      chunkIds := List.pairwise_map.mpr (apart.imp And.left)
      chunkIndexes := List.pairwise_map.mpr (apart.imp And.right)
      owners := by
        intro chunk member
        rcases List.mem_append.mp member with old | new
        · exact database.valid.owners chunk old
        · exact owned chunk new }
  refine ⟨{ valid := valid, .. }, ?_, rfl, rfl⟩
  rw [insertChunks, foldl_replaceChunk_apart apart,
    KnowledgeDatabase.write, dif_pos valid]
  rfl

/-! ## Storing a document -/

section Stores

variable {Vector : Type} {pipeline : IngestionPipeline}
  {call : IngestCall Vector} {base : KnowledgeBase Vector}

/-- An upsert adds a row with the id of the call. -/
theorem ids_of_upserted {database next : KnowledgeDatabase}
    {doc : DocumentCreate} {contentHash docId : String} {now : Nat}
    {stored : KnowledgeDocument}
    (upserted : upsertDocument database doc contentHash docId now =
      .ok (stored, next)) :
    stored.id = docId ∧ docId ∉ database.ids ∧
      next.ids = database.ids ++ [docId] ∧ next.chunks = database.chunks := by
  obtain ⟨isInserted, rows, chunks⟩ := upsertDocument_eq_ok upserted
  have isDocId : stored.id = docId := by
    rw [isInserted]
    rfl
  have ids : next.ids = database.ids ++ [docId] := by
    rw [KnowledgeDatabase.ids, rows, List.map_append, List.map_singleton,
      isDocId]
    congr 1
    apply map_updateRows
    exact fun _ => rfl
  refine ⟨isDocId, ?_, ids, chunks⟩
  have nodup := next.valid.ids
  change next.ids.Nodup at nodup
  rw [ids, List.nodup_append] at nodup
  intro member
  exact nodup.2.2 docId member docId (List.mem_singleton_self docId) rfl

/-- What an ingest that wrote a row leaves and returns. -/
structure StoresDocument (pipeline : IngestionPipeline)
    (call : IngestCall Vector) (base : KnowledgeBase Vector)
    (made : Except KnowledgeError String × KnowledgeBase Vector) : Prop where
  fresh : call.docId ∉ base.database.ids
  ids : made.2.database.ids = base.database.ids ++ [call.docId]
  chunks : made.2.database.chunks =
    base.database.chunks ++ storedChunks pipeline call call.docId
  kept : ∀ key,
    (∀ chunk ∈ storedChunks pipeline call call.docId, chunk.id ≠ key) →
      made.2.points.get? key = base.points.get? key
  unindexed : ¬ call.storedVectors pipeline.sizes →
    made.2.points = base.points
  indexed : call.storedVectors pipeline.sizes →
    ∀ chunk ∈ storedChunks pipeline call call.docId,
      HasPoint made.2.points chunk
  returned : ∀ id, made.1 = .ok id →
    id = call.docId ∧
      call.storedTexts pipeline.sizes =
        pipeline.sizes.chunkTexts call.doc.text ∧
      (call.embedder.isSome = true →
        pipeline.sizes.chunkTexts call.doc.text ≠ [] →
          call.storedVectors pipeline.sizes)

/-- The chunks a call would store are apart from those there are. -/
def PlacesFree (pipeline : IngestionPipeline) (call : IngestCall Vector)
    (base : KnowledgeBase Vector) : Prop :=
  (base.database.chunks ++ pipeline.chunkText call.doc.text call.docId
      (IngestionPipeline.embeddingModel call) call.crawlRunId).Pairwise
    ChunksApart

/-- Storing the chunks of a new row fails at the store or adds them all. -/
theorem storeChunks_apart {database : KnowledgeDatabase}
    {added : List KnowledgeChunk}
    (apart : (database.chunks ++ added).Pairwise ChunksApart)
    (owned : ∀ chunk ∈ added, chunk.documentId ∈ database.ids) :
    call.fails = some .chunks ∧
        IngestionPipeline.storeChunks call added database =
          (.error .operational, database) ∨
      (call.fails = some .chunks → added = []) ∧
        ∃ next, IngestionPipeline.storeChunks call added database =
            (.ok (), next) ∧
          next.documents = database.documents ∧
          next.chunks = database.chunks ++ added := by
  obtain ⟨next, inserted, rows, chunks⟩ := insertChunks_apart apart owned
  unfold IngestionPipeline.storeChunks
  split
  · next noChunks =>
    rw [noChunks, List.append_nil]
    exact .inr ⟨fun _ => rfl, database, rfl, rfl, rfl⟩
  · unfold transaction IngestionPipeline.failure
    dsimp only
    rw [inserted]
    by_cases fails : call.fails = some .chunks
    · rw [if_pos fails]
      exact .inl ⟨fails, rfl⟩
    · rw [if_neg fails]
      exact .inr ⟨fun failed => (fails failed).elim, next, rfl, rows, chunks⟩

theorem texts_chunkText (text documentId embeddingModel : String)
    (crawlRunId : Option String) :
    (pipeline.chunkText text documentId embeddingModel crawlRunId).map
        (·.text) = pipeline.sizes.chunkTexts text := by
  have pieces := congrArg (List.map Prod.fst)
    (@pieces_chunkText pipeline text documentId embeddingModel crawlRunId)
  rw [List.map_map, List.zipIdx_map_fst] at pieces
  exact pieces

/-- The points of some chunks are theirs. -/
theorem keys_pointsOf {doc : DocumentCreate} {chunks : List KnowledgeChunk}
    {vectors : List Vector} (oneEach : vectors.length = chunks.length) :
    (IngestionPipeline.pointsOf doc chunks vectors).map Prod.fst =
      chunks.map (·.id) := by
  rw [IngestionPipeline.pointsOf, List.map_map]
  have first := congrArg (List.map (·.id))
    (@List.map_fst_zip _ _ chunks vectors oneEach.ge)
  rw [List.map_map] at first
  exact first

theorem hasPoint_of_pointsOf {doc : DocumentCreate}
    {chunks : List KnowledgeChunk} {vectors : List Vector}
    (oneEach : vectors.length = chunks.length)
    (distinct : (chunks.map (·.id)).Nodup)
    (points : Dict String (VectorPoint Vector)) {chunk : KnowledgeChunk}
    (member : chunk ∈ chunks) :
    HasPoint ((IngestionPipeline.pointsOf doc chunks vectors).foldl
      (fun points point => points.set point.1 point.2) points) chunk := by
  have inFirst : chunk ∈ (chunks.zip vectors).map Prod.fst := by
    rwa [List.map_fst_zip oneEach.ge]
  obtain ⟨⟨zipped, vector⟩, inZip, same⟩ := List.mem_map.mp inFirst
  obtain rfl : chunk = zipped := same.symm
  have keys := @keys_pointsOf _ doc _ _ oneEach
  rw [← keys] at distinct
  have entry : ∃ point, (chunk.id, point) ∈
        IngestionPipeline.pointsOf doc chunks vectors ∧
      point.documentId = chunk.documentId ∧ point.text = chunk.text :=
    ⟨_, List.mem_map_of_mem inZip, rfl, rfl⟩
  obtain ⟨point, isEntry, sameDocument, sameText⟩ := entry
  refine ⟨point, ?_, sameDocument, sameText⟩
  rw [Dict.get?_foldl_set _ distinct, Dict.lookup_of_mem distinct isEntry]
  rfl

/-- An ingest that upserts goes on to the chunks and to the vectors. -/
theorem ingest_of_upserted {stored : KnowledgeDocument}
    {database : KnowledgeDatabase}
    (missing : getDocumentByContentHash base.database
      (pipeline.contentHash call.doc.text) = none)
    (notLookup : call.fails ≠ some .lookup)
    (notDocument : call.fails ≠ some .document)
    (upserted : upsertDocument base.database call.doc
      (pipeline.contentHash call.doc.text) call.docId call.now =
        .ok (stored, database)) :
    pipeline.ingest call base =
      match IngestionPipeline.storeChunks call
          (pipeline.chunksOf call stored) database with
      | (.error error, database) =>
          (.error error, { base with database := database })
      | (.ok _, database) =>
          match IngestionPipeline.indexChunks call
              (pipeline.chunksOf call stored)
              { base with database := database } with
          | (.error error, next) => (.error error, next)
          | (.ok _, next) => (.ok stored.id, next) := by
  unfold IngestionPipeline.ingest
  dsimp only
  rw [if_neg notLookup, missing]
  unfold transaction
  dsimp only
  rw [upserted, IngestionPipeline.failure, if_neg notDocument]
  all_goals rfl

/-- What an index leaves and returns, by whether the vectors were stored. -/
theorem indexChunks_cases {chunks : List KnowledgeChunk}
    (nothing : call.fails = some .chunks → chunks = [])
    (texts : chunks.map (·.text) = pipeline.sizes.chunkTexts call.doc.text)
    (start : KnowledgeBase Vector) :
    ((¬ call.storedVectors pipeline.sizes ∨ chunks = []) ∧
      (IngestionPipeline.indexChunks call chunks start).2 = start ∧
      ((IngestionPipeline.indexChunks call chunks start).1 = .ok () →
        call.embedder.isSome = true → chunks = [])) ∨
    call.storedVectors pipeline.sizes ∧ ∃ vectors : List Vector,
      vectors.length = chunks.length ∧
      IngestionPipeline.indexChunks call chunks start =
        (.ok (),
          { start with
            points := (IngestionPipeline.pointsOf call.doc chunks
                vectors).foldl
              (fun points point => points.set point.1 point.2)
              start.points }) := by
  unfold IngestionPipeline.indexChunks
  cases given : call.embedder with
  | none =>
      refine .inl ⟨.inl ?_, rfl, fun _ isSome => nomatch isSome⟩
      rintro ⟨-, -, embedder, isGiven, -⟩
      rw [given] at isGiven
      cases isGiven
  | some embedder =>
      dsimp only
      split
      · next noChunks => exact .inl ⟨.inr noChunks, rfl, fun _ _ => noChunks⟩
      · next someChunks =>
        rw [texts]
        cases answered : embedder.embedDocuments
            (pipeline.sizes.chunkTexts call.doc.text) with
        | none =>
            refine .inl ⟨.inl ?_, rfl, fun isOk => nomatch isOk⟩
            rintro ⟨-, -, other, isGiven, answers⟩
            cases given.symm.trans isGiven
            rw [answered] at answers
            cases answers
        | some vectors =>
            dsimp only
            split
            · next fails =>
              refine .inl ⟨.inl ?_, rfl, fun isOk => nomatch isOk⟩
              rintro ⟨-, notVectors, -⟩
              exact notVectors fails
            · next notVectors =>
              refine .inr ⟨⟨fun fails => someChunks (nothing fails),
                notVectors, embedder, given, ?_⟩, vectors, ?_, rfl⟩
              · rw [answered]
                rfl
              · rw [embedder.oneEach _ _ answered, ← texts, List.length_map]

/-- An ingest that upserts stores the document as far as its call goes. -/
theorem storesDocument {stored : KnowledgeDocument}
    {database : KnowledgeDatabase}
    (free : PlacesFree pipeline call base)
    (missing : getDocumentByContentHash base.database
      (pipeline.contentHash call.doc.text) = none)
    (notLookup : call.fails ≠ some .lookup)
    (notDocument : call.fails ≠ some .document)
    (upserted : upsertDocument base.database call.doc
      (pipeline.contentHash call.doc.text) call.docId call.now =
        .ok (stored, database)) :
    StoresDocument pipeline call base (pipeline.ingest call base) := by
  obtain ⟨isDocId, fresh, ids, sameChunks⟩ := ids_of_upserted upserted
  have whole : pipeline.chunksOf call stored =
      pipeline.chunkText call.doc.text call.docId
        (IngestionPipeline.embeddingModel call) call.crawlRunId := by
    rw [IngestionPipeline.chunksOf, isDocId]
  have apart : (database.chunks ++ pipeline.chunksOf call stored).Pairwise
      ChunksApart := by
    rw [whole, sameChunks]
    exact free
  have owned : ∀ chunk ∈ pipeline.chunksOf call stored,
      chunk.documentId ∈ database.ids := by
    intro chunk member
    rw [(mem_chunkText member).1, ids, isDocId]
    exact List.mem_append_right _ (List.mem_singleton_self _)
  rw [ingest_of_upserted missing notLookup notDocument upserted]
  rcases @storeChunks_apart _ call _ _ apart owned with
    ⟨fails, failed⟩ | ⟨nothing, next, made, rows, chunks⟩
  · have noChunks : storedChunks pipeline call call.docId = [] := if_pos fails
    rw [failed]
    constructor
    case fresh => exact fresh
    case ids => exact ids
    case chunks =>
      rw [noChunks, List.append_nil]
      exact sameChunks
    case kept => exact fun _ _ => rfl
    case unindexed => exact fun _ => rfl
    case indexed =>
      rw [noChunks]
      exact fun _ _ member => nomatch member
    case returned => exact fun _ isOk => nomatch isOk
  · have stores : storedChunks pipeline call call.docId =
        pipeline.chunksOf call stored := by
      unfold storedChunks
      split
      · next fails => exact (nothing fails).symm
      · exact whole.symm
    have nextIds : next.ids = base.database.ids ++ [call.docId] := by
      rw [← ids, KnowledgeDatabase.ids, rows]
      rfl
    have nextChunks : next.chunks = base.database.chunks ++
        storedChunks pipeline call call.docId := by
      rw [chunks, sameChunks, stores]
    have texts : (pipeline.chunksOf call stored).map (·.text) =
        pipeline.sizes.chunkTexts call.doc.text := texts_chunkText _ _ _ _
    have allTexts : call.storedTexts pipeline.sizes =
        pipeline.sizes.chunkTexts call.doc.text := by
      unfold IngestCall.storedTexts
      split
      · next fails =>
        rw [← texts, nothing fails]
        rfl
      · rfl
    rw [made]
    dsimp only
    rcases indexChunks_cases nothing texts { base with database := next } with
      ⟨without, same, noVectors⟩ | ⟨withVectors, vectors, oneEach, indexed⟩
    · cases indexed : IngestionPipeline.indexChunks call
          (pipeline.chunksOf call stored) { base with database := next } with
      | mk outcome final =>
        rw [indexed] at same noVectors
        obtain rfl : final = { base with database := next } := same
        have indexes : call.storedVectors pipeline.sizes →
            ∀ chunk ∈ storedChunks pipeline call call.docId,
              HasPoint base.points chunk := by
          intro withVectors
          rw [stores, without.resolve_left (not_not_intro withVectors)]
          exact fun _ member => nomatch member
        cases outcome with
        | error error =>
            exact ⟨fresh, nextIds, nextChunks, fun _ _ => rfl, fun _ => rfl,
              indexes, fun _ isOk => nomatch isOk⟩
        | ok _ =>
            refine ⟨fresh, nextIds, nextChunks, fun _ _ => rfl, fun _ => rfl,
              indexes, ?_⟩
            intro id isOk
            cases isOk
            refine ⟨isDocId, allTexts, fun given someTexts => ?_⟩
            rw [← texts, noVectors rfl given] at someTexts
            exact (someTexts rfl).elim
    · rw [indexed]
      have distinct : ((pipeline.chunksOf call stored).map (·.id)).Nodup := by
        have here := (List.pairwise_append.mp apart).2.1
        exact List.pairwise_map.mpr (here.imp And.left)
      refine ⟨fresh, nextIds, nextChunks, ?_, ?_, ?_, ?_⟩
      · intro key absent
        dsimp only
        rw [stores] at absent
        rw [Dict.get?_foldl_set, Dict.lookup_eq_none_of_not_mem]
        · rfl
        · rw [keys_pointsOf oneEach]
          intro member
          obtain ⟨chunk, isChunk, isKey⟩ := List.mem_map.mp member
          exact absent chunk isChunk isKey
        · rwa [keys_pointsOf oneEach]
      · exact fun without => (without withVectors).elim
      · intro _ chunk member
        rw [stores] at member
        exact hasPoint_of_pointsOf oneEach distinct _ member
      · intro id isOk
        cases isOk
        exact ⟨isDocId, allTexts, fun _ _ => withVectors⟩

/-- An ingest raises before it writes, finds the text or stores it. -/
theorem ingest_cases
    (free : call.docId ∉ base.database.ids → PlacesFree pipeline call base) :
    (call.fails = some .lookup ∨
        getDocumentByContentHash base.database
          (pipeline.contentHash call.doc.text) = none) ∧
        (∃ error, pipeline.ingest call base = (.error error, base)) ∨
      (∃ existing, call.fails ≠ some .lookup ∧
        getDocumentByContentHash base.database
          (pipeline.contentHash call.doc.text) = some existing ∧
        pipeline.ingest call base = (.ok existing.id, base)) ∨
      getDocumentByContentHash base.database
          (pipeline.contentHash call.doc.text) = none ∧
        StoresDocument pipeline call base (pipeline.ingest call base) := by
  by_cases fails : call.fails = some .lookup
  · left
    unfold IngestionPipeline.ingest
    dsimp only
    rw [if_pos fails]
    exact ⟨.inl fails, _, rfl⟩
  · cases found : getDocumentByContentHash base.database
        (pipeline.contentHash call.doc.text) with
    | some existing =>
        right
        left
        refine ⟨existing, fails, rfl, ?_⟩
        unfold IngestionPipeline.ingest
        dsimp only
        rw [if_neg fails, found]
    | none =>
        rcases @transaction_cases _ _ _
            (IngestionPipeline.failure call .document)
            (fun database => upsertDocument database call.doc
              (pipeline.contentHash call.doc.text) call.docId call.now)
            base.database with ⟨error, failed⟩ | ⟨stored, database, upserted,
              made⟩
        · left
          unfold IngestionPipeline.ingest
          dsimp only
          rw [if_neg fails, found]
          dsimp only
          rw [failed]
          exact ⟨.inr rfl, error, rfl⟩
        · right
          right
          have notDocument : call.fails ≠ some .document := by
            intro isDocument
            unfold transaction IngestionPipeline.failure at made
            dsimp only at made
            rw [upserted, if_pos isDocument] at made
            cases made
          have fresh := (ids_of_upserted upserted).2.1
          exact ⟨rfl, storesDocument (free fresh) found fails notDocument
            upserted⟩

end Stores

/-! ## What holds in every state -/

/-- Rows have the chunks and the points their calls stored, and names of the
run. -/
structure IngestInvariant {Vector : Type} (pipeline : IngestionPipeline)
    (names : Set String) (trace : IngestTrace Vector) : Prop where
  recorded : ∀ id ∈ trace.base.database.ids, ∃ first,
    trace.storedBy.get? id = some first
  named : ∀ id first, trace.storedBy.get? id = some first →
    ∀ index < (pipeline.sizes.chunkTexts first.doc.text).length,
      chunkName id index ∈ names
  chunks : ∀ id first, trace.storedBy.get? id = some first →
    trace.base.database.chunks.filter (·.documentId = id) =
      storedChunks pipeline first id
  indexed : ∀ id first, trace.storedBy.get? id = some first →
    first.storedVectors pipeline.sizes →
      ∀ chunk ∈ storedChunks pipeline first id,
        HasPoint trace.base.points chunk
  pointed : ∀ key point, trace.base.points.get? key = some point →
    ∃ id first, trace.storedBy.get? id = some first ∧
      first.storedVectors pipeline.sizes ∧
      ∃ chunk ∈ storedChunks pipeline first id, chunk.id = key

section Invariant

variable {Vector : Type} {pipeline : IngestionPipeline}
  {names : Set String} {trace : IngestTrace Vector}
  {call : IngestCall Vector}

/-- The chunk has the id of its place, under a name of the run. -/
def PlacedIn (pipeline : IngestionPipeline) (names : Set String)
    (documentId : String) (chunk : KnowledgeChunk) : Prop :=
  chunkName documentId chunk.chunkIndex ∈ names ∧
    chunk.id = pipeline.uuid5 (chunkName documentId chunk.chunkIndex)

/-- Chunks with one id have one place. -/
theorem PlacedIn.unique (distinct : Set.InjOn pipeline.uuid5 names)
    {firstId secondId : String} {first second : KnowledgeChunk}
    (firstPlaced : PlacedIn pipeline names firstId first)
    (secondPlaced : PlacedIn pipeline names secondId second)
    (same : first.id = second.id) :
    firstId = secondId ∧ first.chunkIndex = second.chunkIndex := by
  rw [firstPlaced.2, secondPlaced.2] at same
  exact chunkName_eq_iff.mp (distinct firstPlaced.1 secondPlaced.1 same)

theorem placedIn_of_chunkText {text documentId embeddingModel : String}
    {crawlRunId : Option String}
    (named : ∀ index < (pipeline.sizes.chunkTexts text).length,
      chunkName documentId index ∈ names)
    {chunk : KnowledgeChunk}
    (member : chunk ∈ pipeline.chunkText text documentId embeddingModel
      crawlRunId) : PlacedIn pipeline names documentId chunk := by
  obtain ⟨⟨piece, index⟩, inPieces, rfl⟩ := List.mem_map.mp member
  exact ⟨named index (List.snd_lt_of_mem_zipIdx inPieces), rfl⟩

theorem mem_chunkText_of_stored {documentId : String}
    {chunk : KnowledgeChunk}
    (member : chunk ∈ storedChunks pipeline call documentId) :
    chunk ∈ pipeline.chunkText call.doc.text documentId
      (IngestionPipeline.embeddingModel call) call.crawlRunId := by
  unfold storedChunks at member
  split at member
  · cases member
  · exact member

theorem documentId_of_stored {documentId : String} {chunk : KnowledgeChunk}
    (member : chunk ∈ storedChunks pipeline call documentId) :
    chunk.documentId = documentId :=
  (mem_chunkText (mem_chunkText_of_stored member)).1

theorem IngestInvariant.placedIn
    (invariant : IngestInvariant pipeline names trace)
    {id : String} {first : IngestCall Vector}
    (recorded : trace.storedBy.get? id = some first)
    {chunk : KnowledgeChunk}
    (member : chunk ∈ storedChunks pipeline first id) :
    PlacedIn pipeline names id chunk :=
  placedIn_of_chunkText (invariant.named id first recorded)
    (mem_chunkText_of_stored member)

/-- A chunk that is stored is one its document was stored with. -/
theorem IngestInvariant.mem_chunks
    (invariant : IngestInvariant pipeline names trace)
    {chunk : KnowledgeChunk}
    (member : chunk ∈ trace.base.database.chunks) :
    ∃ first, trace.storedBy.get? chunk.documentId = some first ∧
      chunk ∈ storedChunks pipeline first chunk.documentId := by
  obtain ⟨first, recorded⟩ := invariant.recorded chunk.documentId
    (trace.base.database.valid.owners chunk member)
  refine ⟨first, recorded, ?_⟩
  rw [← invariant.chunks _ _ recorded, List.mem_filter]
  exact ⟨member, decide_eq_true rfl⟩

/-- The chunks of a call with a new id are apart from all others. -/
theorem IngestInvariant.placesFree
    (invariant : IngestInvariant pipeline names trace)
    (distinct : Set.InjOn pipeline.uuid5 names)
    (named : ∀ index < (pipeline.sizes.chunkTexts call.doc.text).length,
      chunkName call.docId index ∈ names)
    (fresh : call.docId ∉ trace.base.database.ids) :
    PlacesFree pipeline call trace.base := by
  have placed : ∀ chunk ∈ pipeline.chunkText call.doc.text call.docId
      (IngestionPipeline.embeddingModel call) call.crawlRunId,
      PlacedIn pipeline names call.docId chunk :=
    fun chunk member => placedIn_of_chunkText named member
  refine List.pairwise_append.mpr
    ⟨trace.base.database.chunksApart, ?_, ?_⟩
  · refine List.Pairwise.imp_of_mem ?_ (sorted_chunkText _ _ _ _)
    intro first second firstMember secondMember less
    constructor
    · intro same
      have := ((placed first firstMember).unique distinct
        (placed second secondMember) same).2
      omega
    · intro same
      have := (Prod.mk.inj same).2
      omega
  · intro chunk member other otherMember
    obtain ⟨first, recorded, inStored⟩ := invariant.mem_chunks member
    have apart : chunk.documentId ≠ call.docId := by
      intro same
      exact fresh (same ▸ trace.base.database.valid.owners chunk member)
    constructor
    · intro same
      exact apart ((invariant.placedIn recorded inStored).unique distinct
        (placed other otherMember) same).1
    · intro same
      rw [(mem_chunkText otherMember).1] at same
      exact apart (Prod.mk.inj same).1

theorem IngestTrace.after_unchanged :
    trace.after call trace.base = trace := by
  unfold IngestTrace.after
  rw [if_neg fun both => both.2 both.1]

/-- A call that stores its document keeps the invariant. -/
theorem IngestInvariant.stored
    (invariant : IngestInvariant pipeline names trace)
    (distinct : Set.InjOn pipeline.uuid5 names)
    (named : ∀ index < (pipeline.sizes.chunkTexts call.doc.text).length,
      chunkName call.docId index ∈ names)
    {made : Except KnowledgeError String × KnowledgeBase Vector}
    (stores : StoresDocument pipeline call trace.base made) :
    IngestInvariant pipeline names (trace.after call made.2) := by
  have isNew : call.docId ∈ made.2.database.ids := by
    rw [stores.ids]
    exact List.mem_append_right _ (List.mem_singleton_self _)
  have after : trace.after call made.2 =
      { base := made.2
        storedBy := trace.storedBy.set call.docId call } := by
    unfold IngestTrace.after
    rw [if_pos ⟨isNew, stores.fresh⟩]
  have place : ∀ chunk ∈ storedChunks pipeline call call.docId,
      PlacedIn pipeline names call.docId chunk := fun chunk member =>
    placedIn_of_chunkText named (mem_chunkText_of_stored member)
  -- A row is either the new one or recorded as it was before.
  have cases : ∀ id first,
      (trace.storedBy.set call.docId call).get? id = some first →
        id = call.docId ∧ first = call ∨
          id ≠ call.docId ∧ trace.storedBy.get? id = some first := by
    intro id first found
    rw [Dict.get?_set] at found
    split at found
    · next same => exact .inl ⟨same, (Option.some.inj found).symm⟩
    · next other => exact .inr ⟨other, found⟩
  have keeps : ∀ id first, trace.storedBy.get? id = some first →
      id ≠ call.docId → ∀ chunk ∈ storedChunks pipeline first id,
        made.2.points.get? chunk.id = trace.base.points.get? chunk.id := by
    intro id first recorded other chunk member
    apply stores.kept
    intro added addedMember same
    exact other ((invariant.placedIn recorded member).unique distinct
      (place added addedMember) same.symm).1
  rw [after]
  constructor
  case recorded =>
    intro id member
    dsimp only
    rw [Dict.get?_set]
    split
    · exact ⟨call, rfl⟩
    · next other =>
      rw [stores.ids] at member
      rcases List.mem_append.mp member with old | new
      · exact invariant.recorded id old
      · exact (other (List.mem_singleton.mp new)).elim
  case named =>
    intro id first found
    rcases cases id first found with ⟨rfl, rfl⟩ | ⟨-, recorded⟩
    · exact named
    · exact invariant.named id first recorded
  case chunks =>
    intro id first found
    dsimp only
    rw [stores.chunks, List.filter_append]
    rcases cases id first found with ⟨rfl, rfl⟩ | ⟨other, recorded⟩
    · rw [List.filter_eq_nil_iff.mpr, List.nil_append,
        List.filter_eq_self.mpr]
      · intro chunk member
        exact decide_eq_true (documentId_of_stored member)
      · intro chunk member isDocId
        have owner := trace.base.database.valid.owners chunk member
        rw [of_decide_eq_true isDocId] at owner
        exact stores.fresh owner
    · rw [invariant.chunks id first recorded, List.filter_eq_nil_iff.mpr,
        List.append_nil]
      intro chunk member isId
      rw [decide_eq_true_eq, documentId_of_stored member] at isId
      exact other isId.symm
  case indexed =>
    intro id first found withVectors chunk member
    rcases cases id first found with ⟨rfl, rfl⟩ | ⟨other, recorded⟩
    · exact stores.indexed withVectors chunk member
    · obtain ⟨point, isPoint, same⟩ := invariant.indexed id first recorded
        withVectors chunk member
      refine ⟨point, ?_, same⟩
      rw [keeps id first recorded other chunk member]
      exact isPoint
  case pointed =>
    intro key point found
    dsimp only at found ⊢
    by_cases isNew : ∃ chunk ∈ storedChunks pipeline call call.docId,
        chunk.id = key ∧ call.storedVectors pipeline.sizes
    · obtain ⟨chunk, member, isKey, withVectors⟩ := isNew
      exact ⟨call.docId, call, Dict.get?_set_self _ _ _, withVectors, chunk,
        member, isKey⟩
    · have old : trace.base.points.get? key = some point := by
        by_cases withVectors : call.storedVectors pipeline.sizes
        · rw [← found]
          apply (stores.kept key _).symm
          intro chunk member isKey
          exact isNew ⟨chunk, member, isKey, withVectors⟩
        · rw [← stores.unindexed withVectors]
          exact found
      obtain ⟨id, first, recorded, withVectors, chunk, member, isKey⟩ :=
        invariant.pointed key point old
      refine ⟨id, first, ?_, withVectors, chunk, member, isKey⟩
      have other : id ≠ call.docId := by
        rintro rfl
        have inRows : chunk ∈ trace.base.database.chunks := by
          rw [← invariant.chunks _ _ recorded] at member
          exact List.mem_of_mem_filter member
        have owner := trace.base.database.valid.owners chunk inRows
        rw [documentId_of_stored member] at owner
        exact stores.fresh owner
      rw [Dict.get?_set_ne _ _ other]
      exact recorded

theorem IngestInvariant.step
    (invariant : IngestInvariant pipeline names trace)
    (distinct : Set.InjOn pipeline.uuid5 names)
    (named : ∀ index < (pipeline.sizes.chunkTexts call.doc.text).length,
      chunkName call.docId index ∈ names) :
    IngestInvariant pipeline names
      (trace.after call (pipeline.ingest call trace.base).2) := by
  rcases ingest_cases (invariant.placesFree distinct named) with
    ⟨-, error, failed⟩ | ⟨existing, -, -, known⟩ | ⟨-, stores⟩
  · rw [failed, IngestTrace.after_unchanged]
    exact invariant
  · rw [known, IngestTrace.after_unchanged]
    exact invariant
  · exact invariant.stored distinct named stores

/-- The chunks of a recorded document are read as they were stored. -/
theorem IngestInvariant.getChunksForDocument_eq
    (invariant : IngestInvariant pipeline names trace)
    {id : String} {first : IngestCall Vector}
    (recorded : trace.storedBy.get? id = some first) :
    getChunksForDocument trace.base.database id =
      storedChunks pipeline first id := by
  rw [getChunksForDocument, invariant.chunks id first recorded]
  exact (sorted_storedChunks first id).insertionSort_eq

theorem storedChunks_eq_nil {documentId : String}
    (noTexts : call.storedTexts pipeline.sizes = []) :
    storedChunks pipeline call documentId = [] := by
  have pieces := @pieces_storedChunks _ pipeline call documentId
  rw [noTexts] at pieces
  exact List.map_eq_nil_iff.mp pieces

/-- A document that is found is ingested as far as its call got. -/
theorem IngestInvariant.ingested_iff
    (invariant : IngestInvariant pipeline names trace)
    (distinct : Set.InjOn pipeline.uuid5 names)
    {id : String} {first : IngestCall Vector}
    (recorded : trace.storedBy.get? id = some first) :
    Ingested pipeline.sizes call trace.base id ↔
      first.storedTexts pipeline.sizes =
          pipeline.sizes.chunkTexts call.doc.text ∧
        (call.embedder.isSome = true →
          pipeline.sizes.chunkTexts call.doc.text ≠ [] →
            first.storedVectors pipeline.sizes) := by
  have read := invariant.getChunksForDocument_eq recorded
  constructor
  · rintro ⟨pieces, vectors⟩
    rw [read] at pieces vectors
    rw [pieces_storedChunks] at pieces
    have texts := congrArg (List.map Prod.fst) pieces
    rw [List.zipIdx_map_fst, List.zipIdx_map_fst] at texts
    refine ⟨texts, fun given someTexts => ?_⟩
    have someChunk : storedChunks pipeline first id ≠ [] := by
      intro noChunks
      apply someTexts
      have mapped := @pieces_storedChunks _ pipeline first id
      rw [noChunks] at mapped
      rw [← texts]
      exact List.zipIdx_eq_nil_iff.mp mapped.symm
    obtain ⟨chunk, member⟩ := List.exists_mem_of_ne_nil _ someChunk
    obtain ⟨point, isPoint, -⟩ := vectors given chunk member
    obtain ⟨other, otherCall, otherRecorded, withVectors, otherChunk,
      otherMember, sameKey⟩ := invariant.pointed _ _ isPoint
    have sameId := ((invariant.placedIn otherRecorded otherMember).unique
      distinct (invariant.placedIn recorded member) sameKey).1
    rw [sameId, recorded] at otherRecorded
    cases otherRecorded
    exact withVectors
  · rintro ⟨texts, vectors⟩
    constructor
    case pieces =>
      rw [read, pieces_storedChunks, texts]
    case vectors =>
      intro given chunk member
      rw [read] at member
      have someTexts : pipeline.sizes.chunkTexts call.doc.text ≠ [] := by
        intro noTexts
        rw [noTexts] at texts
        rw [storedChunks_eq_nil texts] at member
        cases member
      exact invariant.indexed id first recorded (vectors given someTexts)
        chunk member

/-- A call ingests its document just when what it finds was stored whole. -/
theorem IngestInvariant.retrySafe_iff
    (invariant : IngestInvariant pipeline names trace)
    (distinct : Set.InjOn pipeline.uuid5 names)
    (named : ∀ index < (pipeline.sizes.chunkTexts call.doc.text).length,
      chunkName call.docId index ∈ names) :
    StoredBefore pipeline trace call ↔ RetrySafe pipeline trace call := by
  rcases ingest_cases (invariant.placesFree distinct named) with
    ⟨unfound, error, failed⟩ | ⟨existing, notLookup, found, known⟩ |
      ⟨missing, stores⟩
  · have before : StoredBefore pipeline trace call := by
      intro notLookup existing isFound
      rw [unfound.resolve_left notLookup] at isFound
      cases isFound
    have safe : RetrySafe pipeline trace call := by
      intro id isOk
      rw [failed] at isOk
      cases isOk
    exact ⟨fun _ => safe, fun _ => before⟩
  · obtain ⟨first, recorded⟩ := invariant.recorded existing.id
      (List.mem_map_of_mem (List.mem_of_find?_eq_some found))
    have ingested : Ingested pipeline.sizes call trace.base existing.id ↔ _ :=
      invariant.ingested_iff distinct recorded
    constructor
    · intro before id isOk
      rw [known] at isOk ⊢
      cases isOk
      exact ingested.mpr (before notLookup existing found first recorded)
    · intro safe _ other isOther otherFirst otherRecorded
      cases found.symm.trans isOther
      cases recorded.symm.trans otherRecorded
      apply ingested.mp
      have here := safe existing.id
      rw [known] at here
      exact here rfl
  · have before : StoredBefore pipeline trace call := by
      intro _ existing isFound
      rw [missing] at isFound
      cases isFound
    have safe : RetrySafe pipeline trace call := by
      intro id isOk
      obtain ⟨rfl, texts, vectors⟩ := stores.returned id isOk
      have after := invariant.stored distinct named stores
      have isNew : call.docId ∈
          (pipeline.ingest call trace.base).2.database.ids := by
        rw [stores.ids]
        exact List.mem_append_right _ (List.mem_singleton_self _)
      have recorded : (trace.after call
          (pipeline.ingest call trace.base).2).storedBy.get? call.docId =
            some call := by
        unfold IngestTrace.after
        rw [if_pos ⟨isNew, stores.fresh⟩]
        exact Dict.get?_set_self _ _ _
      exact (after.ingested_iff distinct recorded).mpr ⟨texts, vectors⟩
    exact ⟨fun _ => safe, fun _ => before⟩

end Invariant

/-! ## Every run -/

/-- Where the ids of chunks do not collide, every call of a run that returns
has ingested its document just when every text that is found was stored
whole. -/
theorem ingests_retrySafe_along {Vector : Type} {pipeline : IngestionPipeline}
    {calls : List (IngestCall Vector)}
    (distinct : Set.InjOn pipeline.uuid5 (chunkNames pipeline.sizes calls)) :
    Along (ingestStep pipeline) (StoredBefore pipeline)
        { base := .empty Vector } calls ↔
      Along (ingestStep pipeline) (RetrySafe pipeline)
        { base := .empty Vector } calls := by
  apply @along_congr _ _ _ _ _
    (IngestInvariant pipeline (chunkNames pipeline.sizes calls))
  · intro trace call member invariant
    apply invariant.retrySafe_iff distinct
    exact fun index bound => ⟨call, member, index, bound, rfl⟩
  · intro trace call member next invariant stepped
    cases stepped
    apply invariant.step distinct
    exact fun index bound => ⟨call, member, index, bound, rfl⟩
  · constructor
    case recorded => exact fun _ member => nomatch member
    case named => exact fun _ _ found => nomatch found
    case chunks => exact fun _ _ found => nomatch found
    case indexed => exact fun _ _ found => nomatch found
    case pointed => exact fun _ _ found => nomatch found

namespace RetryExample

open KnowledgeExample (pipeline page)

/-- An embedder whose vectors are the lengths of the texts. -/
def lengths : EmbeddingProvider Nat :=
  { modelVersion := "lengths"
    embedDocuments := fun texts => some (texts.map (·.length))
    oneEach := by
      intro texts vectors answered
      cases answered
      exact List.length_map _ }

def ingestPlans (docId : String) (embedder : Option (EmbeddingProvider Nat))
    (fails : Option IngestStage) : IngestCall Nat :=
  { doc := page "Two plans"
    embedder := embedder
    docId := docId
    now := 1
    fails := fails }

/-- The document is not written, then it is, and then it is found. -/
def retried : List (IngestCall Nat) :=
  [ingestPlans "d1" (some lengths) (some .document),
    ingestPlans "d2" (some lengths) none,
    ingestPlans "d3" (some lengths) none]

theorem ingests_retrySafe_along_retried :
    Along (ingestStep pipeline) (StoredBefore pipeline)
        { base := .empty Nat } retried ∧
      Along (ingestStep pipeline) (RetrySafe pipeline)
        { base := .empty Nat } retried := by
  have before : Along (ingestStep pipeline) (StoredBefore pipeline)
      { base := .empty Nat } retried := by
    decide +kernel
  refine ⟨before, (ingests_retrySafe_along ?_).mp before⟩
  exact fun _ _ _ _ same => same

/-- Runs whose last call finds a document without its chunks or without its
vectors. -/
def lost : List (List (IngestCall Nat)) :=
  [[ingestPlans "d1" none (some .chunks), ingestPlans "d2" none none],
    [ingestPlans "d1" (some lengths) (some .vectors),
      ingestPlans "d2" (some lengths) none],
    [ingestPlans "d1" none none, ingestPlans "d2" (some lengths) none]]

theorem ingests_lost : lost.Forall fun calls =>
    ¬ Along (ingestStep pipeline) (RetrySafe pipeline)
        { base := .empty Nat } calls := by
  refine ⟨?_, ?_, ?_⟩
  · rintro ⟨-, safe, -⟩
    have pieces := (safe "d1" (by decide +kernel)).pieces
    revert pieces
    decide +kernel
  · rintro ⟨-, safe, -⟩
    have vectors := (safe "d1" (by decide +kernel)).vectors rfl
    revert vectors
    decide +kernel
  · rintro ⟨-, safe, -⟩
    have vectors := (safe "d1" (by decide +kernel)).vectors rfl
    revert vectors
    decide +kernel

end RetryExample

end CompetiScope
