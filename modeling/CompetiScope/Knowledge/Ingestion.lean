import CompetiScope.Foundation.Text
import CompetiScope.Knowledge.Documents

/-!
# Ingesting a document

A text is cut into chunks by paragraphs, long paragraphs by sentences and long
sentences by windows.  The document, its chunks and their vectors are written
one after the other.
-/

namespace CompetiScope

open Foundation

/-! ## Cutting a text -/

/-- The sizes of an `IngestionPipeline`, in characters. -/
structure ChunkSizes where
  chunkSize : Nat := 1000
  chunkOverlap : Nat := 200

/-- The length of the separator that starts with a line feed: up to the last
line feed of the white space behind it. -/
def paragraphBreak (rest : List Char) : Option Nat :=
  let blank := rest.takeWhile isSpace
  if '\n' ∈ blank then
    some (1 + (blank.length - (blank.reverse.takeWhile (· ≠ '\n')).length))
  else none

/-- `re.split(r"\n\s*\n", text)`; `skip` characters belong to the separator
already found and `current` is the piece so far, reversed. -/
def splitParagraphsFrom (skip : Nat) (current : List Char) :
    List Char → List (List Char)
  | [] => [current.reverse]
  | char :: text =>
      match skip with
      | skip + 1 => splitParagraphsFrom skip current text
      | 0 =>
          match if char = '\n' then paragraphBreak text else none with
          | some length =>
              current.reverse :: splitParagraphsFrom (length - 1) [] text
          | none => splitParagraphsFrom 0 (char :: current) text

/-- The stripped pieces that are not empty. -/
def strippedPieces (pieces : List (List Char)) : List (List Char) :=
  (pieces.map stripChars).filter (· ≠ [])

def paragraphs (text : List Char) : List (List Char) :=
  strippedPieces (splitParagraphsFrom 0 [] text)

def sentenceEnds : List Char :=
  ['.', '!', '?', Char.ofNat 0x3002, Char.ofNat 0xFF01, Char.ofNat 0xFF1F]

/-- `re.split` at the white space that follows the end of a sentence. -/
def splitSentencesFrom (skip : Nat) (current : List Char) :
    List Char → List (List Char)
  | [] => [current.reverse]
  | char :: text =>
      match skip with
      | skip + 1 => splitSentencesFrom skip current text
      | 0 =>
          if isSpace char ∧ ∃ last ∈ current.head?, last ∈ sentenceEnds then
            current.reverse ::
              splitSentencesFrom (text.takeWhile isSpace).length [] text
          else splitSentencesFrom 0 (char :: current) text

def sentences (paragraph : List Char) : List (List Char) :=
  strippedPieces (splitSentencesFrom 0 [] paragraph)

namespace ChunkSizes

variable (sizes : ChunkSizes)

/-- The windows of `_split_by_character_window`; `skip` characters come
before the next one. -/
def windowsFrom (skip : Nat) : List Char → List (List Char)
  | [] => []
  | char :: text =>
      match skip with
      | skip + 1 => windowsFrom skip text
      | 0 =>
          (char :: text).take sizes.chunkSize ::
            windowsFrom
              (max 1 (sizes.chunkSize - sizes.chunkOverlap) - 1) text

/-- `_split_by_character_window`. -/
def splitByCharacterWindow (text : List Char) : List (List Char) :=
  strippedPieces (sizes.windowsFrom 0 text)

/-- Pieces that are packed together, and their size with separators. -/
structure Packed where
  parts : List (List Char) := []
  size : Nat := 0

/-- Add a piece behind a separator of the given width. -/
def Packed.add (packed : Packed) (width : Nat) (part : List Char) :
    Packed :=
  { parts := packed.parts ++ [part]
    size := packed.size + part.length +
      if packed.parts = [] then 0 else width }

/-- What is packed so far, if anything. -/
def Packed.flush (packed : Packed) (separator : List Char) :
    List (List Char) :=
  if packed.parts = [] then []
  else [List.intercalate separator packed.parts]

/-- A piece does not fit behind those packed already. -/
def overflows (packed : Packed) (width : Nat) (part : List Char) : Prop :=
  packed.parts ≠ [] ∧
    sizes.chunkSize < packed.size + part.length +
      if packed.parts = [] then 0 else width

instance (packed : Packed) (width : Nat) (part : List Char) :
    Decidable (sizes.overflows packed width part) :=
  inferInstanceAs (Decidable (_ ∧ _))

/-- Pack pieces up to the chunk size; a longer piece is split further. -/
def pack (separator : List Char) (split : List Char → List (List Char)) :
    Packed → List (List Char) → List (List Char)
  | packed, [] => packed.flush separator
  | packed, part :: parts =>
      if sizes.chunkSize < part.length then
        packed.flush separator ++ split part ++
          pack separator split { } parts
      else if sizes.overflows packed separator.length part then
        packed.flush separator ++
          pack separator split (({ } : Packed).add separator.length part)
            parts
      else
        pack separator split (packed.add separator.length part) parts

/-- `_split_long_paragraph`. -/
def splitLongParagraph (paragraph : List Char) : List (List Char) :=
  if (sentences paragraph).length ≤ 1 then
    sizes.splitByCharacterWindow paragraph
  else
    sizes.pack [' '] sizes.splitByCharacterWindow { } (sentences paragraph)

/-- The texts `_chunk_text` makes chunks of. -/
def chunkTexts (text : String) : List String :=
  ((sizes.pack ['\n', '\n'] sizes.splitLongParagraph { }
    (paragraphs text.toList)).filter (stripChars · ≠ [])).map String.ofList

end ChunkSizes

example : ({ chunkSize := 9, chunkOverlap := 2 } : ChunkSizes).chunkTexts
    "One.\n \nTwo\n\nA longer one. End" =
      ["One.\n\nTwo", "A longer", "r one.", "End"] := by
  decide +kernel

/-! ## The pipeline -/

/-- The sizes of a pipeline, the digest of a text and the name-based id of a
chunk. -/
structure IngestionPipeline where
  sizes : ChunkSizes := { }
  sha256Hex : String → String
  uuid5 : String → String

/-- `embed_documents`: the model's name and what it answers to some texts,
one vector for each. -/
structure EmbeddingProvider (Vector : Type) where
  modelVersion : String
  embedDocuments : List String → Option (List Vector)
  oneEach : ∀ texts vectors, embedDocuments texts = some vectors →
    vectors.length = texts.length

/-- A point of the vector store; the payload repeats the document. -/
structure VectorPoint (Vector : Type) where
  vector : Vector
  documentId : String
  text : String
  contentHash : String
  url : String
  title : String
  competitor : String
  dimension : String
  sourceType : String
  crawlRunId : String

/-- The tables and the points of the vector store by their chunk ids. -/
structure KnowledgeBase (Vector : Type) where
  database : KnowledgeDatabase
  points : Dict String (VectorPoint Vector)

/-- The steps of an ingest at which a store may fail. -/
inductive IngestStage where
  | lookup
  | document
  | chunks
  | vectors
  deriving DecidableEq

/-- A call of `ingest` and what it meets outside. -/
structure IngestCall (Vector : Type) where
  doc : DocumentCreate
  embedder : Option (EmbeddingProvider Vector) := none
  crawlRunId : Option String := none
  docId : String
  now : Nat
  fails : Option IngestStage := none

namespace IngestionPipeline

variable {Vector : Type} (pipeline : IngestionPipeline)

def contentHash (text : String) : String :=
  String.ofList ((pipeline.sha256Hex text).toList.take 16)

/-- The model the chunks of a call are stored with. -/
def embeddingModel (call : IngestCall Vector) : String :=
  (call.embedder.map (·.modelVersion)).getD "bge-m3"

/-- `_chunk_text`. -/
def chunkText (text documentId embeddingModel : String)
    (crawlRunId : Option String) : List KnowledgeChunk :=
  (pipeline.sizes.chunkTexts text).zipIdx.map fun (chunkText, index) =>
    { id := pipeline.uuid5 (documentId ++ ":" ++ toString index)
      documentId := documentId
      chunkIndex := index
      text := chunkText
      embeddingModel := embeddingModel
      contentHash := pipeline.contentHash chunkText
      crawlRunId := crawlRunId }

/-- The chunks of the row an ingest stored. -/
def chunksOf (call : IngestCall Vector) (stored : KnowledgeDocument) :
    List KnowledgeChunk :=
  pipeline.chunkText call.doc.text stored.id (embeddingModel call)
    call.crawlRunId

/-- The points of some chunks and their vectors. -/
def pointsOf (doc : DocumentCreate) (chunks : List KnowledgeChunk)
    (vectors : List Vector) : List (String × VectorPoint Vector) :=
  (chunks.zip vectors).map fun (chunk, vector) =>
    (chunk.id,
      { vector := vector
        documentId := chunk.documentId
        text := chunk.text
        contentHash := chunk.contentHash
        url := doc.url.getD ""
        title := doc.title
        competitor := doc.competitor.getD ""
        dimension := doc.dimension.getD ""
        sourceType := doc.sourceType
        crawlRunId := chunk.crawlRunId.getD "" })

/-- The last step of `ingest`: embed the chunks and store their vectors. -/
def indexChunks (call : IngestCall Vector) (chunks : List KnowledgeChunk)
    (base : KnowledgeBase Vector) :
    Except KnowledgeError Unit × KnowledgeBase Vector :=
  match call.embedder with
  | none => (.ok (), base)
  | some embedder =>
      if chunks = [] then (.ok (), base)
      else
        match embedder.embedDocuments (chunks.map (·.text)) with
        | none => (.error .operational, base)
        | some vectors =>
            if call.fails = some .vectors then (.error .operational, base)
            else
              (.ok (),
                { base with
                  points := (pointsOf call.doc chunks vectors).foldl
                    (fun points point => points.set point.1 point.2)
                    base.points })

/-- A store that fails at a stage raises there. -/
def failure (call : IngestCall Vector) (stage : IngestStage) :
    Option KnowledgeError :=
  if call.fails = some stage then some .operational else none

/-- `insert_chunks`; without chunks there is nothing to fail. -/
def storeChunks (call : IngestCall Vector) (chunks : List KnowledgeChunk)
    (database : KnowledgeDatabase) :
    Except KnowledgeError Unit × KnowledgeDatabase :=
  if chunks = [] then (.ok (), database)
  else
    transaction (failure call .chunks)
      (fun database => insertChunks database chunks) database

/-- `IngestionPipeline.ingest`. -/
def ingest (call : IngestCall Vector) (base : KnowledgeBase Vector) :
    Except KnowledgeError String × KnowledgeBase Vector :=
  let contentHash := pipeline.contentHash call.doc.text
  if call.fails = some .lookup then (.error .operational, base)
  else
    match getDocumentByContentHash base.database contentHash with
    | some existing => (.ok existing.id, base)
    | none =>
        match transaction (failure call .document)
            (fun database => upsertDocument database call.doc contentHash
              call.docId call.now) base.database with
        | (.error error, _) => (.error error, base)
        | (.ok stored, database) =>
            let chunks := pipeline.chunksOf call stored
            match storeChunks call chunks database with
            | (.error error, database) =>
                (.error error, { base with database := database })
            | (.ok _, database) =>
                match indexChunks call chunks
                    { base with database := database } with
                | (.error error, next) => (.error error, next)
                | (.ok _, next) => (.ok stored.id, next)

end IngestionPipeline

end CompetiScope
