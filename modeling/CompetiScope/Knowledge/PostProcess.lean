import CompetiScope.Foundation.Selection
import CompetiScope.Knowledge.RankFusion

/-!
# Post-processing of retrieved hits

The first hits are scored again by a model, the hits are reordered by maximal
marginal relevance, and the final ones are selected so that every document
comes once before any comes twice.  The embedding and the model are not part
of the repository; the similarity of two vectors is any function.
-/

namespace CompetiScope

open Foundation

structure RetrievalRequest where
  rerankTopK : Nat := 8
  finalTopK : Nat := 8
  mmrLambda : Rat := 0
  deriving DecidableEq

/-- What the service calls. -/
structure RetrievalModels (Embedding : Type) where
  embedTexts : List String → List Embedding
  rerankFn : Option (String → List String → List Rat)
  rerankModel : Option String
  cosine : Embedding → Embedding → Rat

variable {Embedding : Type}

/-! ## The functions -/

/-- Scores are handed out as far as they go. -/
def withRerankScores (model : Option String) :
    List RetrievalHit → List Rat → List RetrievalHit
  | hit :: hits, score :: scores =>
      { hit with
        rerankScore := some score
        rerankModel := model } :: withRerankScores model hits scores
  | hits, _ => hits

/-- The first part of `_post_process`. -/
def rerankHits (models : RetrievalModels Embedding) (query : String)
    (hits : List RetrievalHit) (request : RetrievalRequest) :
    List RetrievalHit :=
  match models.rerankFn with
  | none => hits
  | some rerank =>
      if hits ≠ [] ∧ 0 < request.rerankTopK then
        let rerankCount := min request.rerankTopK hits.length
        let front := hits.take rerankCount
        let scored := withRerankScores models.rerankModel front
          (rerank query (front.map (·.text)))
        sortDescending (fun hit => hit.rerankScore.getD 0) scored ++
          hits.drop rerankCount
      else hits

/-- `_mmr_score`. -/
def mmrScore (cosine : Embedding → Embedding → Rat)
    (queryVector candidateVector : Embedding)
    (selectedVectors : List Embedding) (relevance lambdaValue : Rat) : Rat :=
  let similarityToQuery := cosine queryVector candidateVector
  let relevanceScore := max relevance similarityToQuery
  let diversityPenalty :=
    (selectedVectors.map (cosine candidateVector)).max?.getD 0
  lambdaValue * relevanceScore - (1 - lambdaValue) * diversityPenalty

/-- The key of an index among the remaining ones. -/
def mmrKey (cosine : Embedding → Embedding → Rat) (queryVector : Embedding)
    (vectors : List Embedding) (candidates : List RetrievalHit)
    (lambdaValue : Rat) (selected : List Nat) (index : Nat) : Rat :=
  match vectors[index]?, candidates[index]? with
  | some vector, some hit =>
      mmrScore cosine queryVector vector
        (selected.filterMap fun other => vectors[other]?)
        (hit.rerankScore.getD hit.score) lambdaValue
  | _, _ => 0

/-- `_mmr_rerank`; a missing vector is an `IndexError`. -/
def mmrRerank (models : RetrievalModels Embedding) (query : String)
    (hits : List RetrievalHit) (request : RetrievalRequest) :
    Option (List RetrievalHit) :=
  if hits = [] then some hits
  else
    let lambdaValue := max 0 (min 1 request.mmrLambda)
    let candidateCount :=
      min (max request.rerankTopK request.finalTopK) hits.length
    let candidates := hits.take candidateCount
    match models.embedTexts [query] with
    | [] => none
    | queryVector :: _ =>
        let vectors := models.embedTexts (candidates.map (·.text))
        -- the first round reads the vectors of all candidates
        if candidates ≠ [] ∧ 0 < request.finalTopK ∧
            vectors.length < candidates.length then none
        else
          let order := selectBest
            (mmrKey models.cosine queryVector vectors candidates lambdaValue)
            request.finalTopK [] (List.range candidates.length)
          some ((order.1 ++ order.2).filterMap (candidates[·]?) ++
            hits.drop candidateCount)

/-- `hit.document_id or hit.chunk_id`. -/
def documentKey (hit : RetrievalHit) : String :=
  if hit.documentId ≠ "" then hit.documentId else hit.chunkId

/-- `_prefer_document_diversity`. -/
def preferDocumentDiversity (hits : List RetrievalHit) (finalTopK : Nat) :
    List RetrievalHit :=
  if finalTopK = 0 then [] else spread documentKey finalTopK [] [] [] hits

/-- `_post_process`. -/
def postProcess (models : RetrievalModels Embedding) (query : String)
    (hits : List RetrievalHit) (request : RetrievalRequest) :
    Option (List RetrievalHit) :=
  let hits := rerankHits models query hits request
  let reordered :=
    if 0 < request.mmrLambda then mmrRerank models query hits request
    else some hits
  reordered.map fun hits => preferDocumentDiversity hits request.finalTopK

/-! ## Hits without what the model said about them -/

/-- The hit as it was retrieved. -/
def RetrievalHit.retrieved (hit : RetrievalHit) : RetrievalHit :=
  { hit with
    rerankScore := none
    rerankModel := none }

theorem map_retrieved_withRerankScores (model : Option String)
    (hits : List RetrievalHit) (scores : List Rat) :
    (withRerankScores model hits scores).map (·.retrieved) =
      hits.map (·.retrieved) := by
  fun_induction withRerankScores model hits scores with
  | case1 hit hits score scores induction =>
      rw [List.map_cons, List.map_cons, induction]
      rfl
  | case2 => rfl

theorem rerankHits_perm (models : RetrievalModels Embedding)
    (query : String) (hits : List RetrievalHit)
    (request : RetrievalRequest) :
    ((rerankHits models query hits request).map (·.retrieved)).Perm
      (hits.map (·.retrieved)) := by
  unfold rerankHits
  split
  case h_1 => exact List.Perm.refl _
  case h_2 =>
    split
    case isFalse => exact List.Perm.refl _
    case isTrue =>
      dsimp only
      generalize min request.rerankTopK hits.length = count
      have sorted : ∀ scores, ((sortDescending
          (fun hit : RetrievalHit => hit.rerankScore.getD 0)
          (withRerankScores models.rerankModel (hits.take count) scores)).map
            (·.retrieved)).Perm ((hits.take count).map (·.retrieved)) := by
        intro scores
        rw [← map_retrieved_withRerankScores models.rerankModel
          (hits.take count) scores]
        exact (perm_sortDescending _ _).map _
      rw [List.map_append]
      apply ((sorted _).append_right _).trans
      rw [← List.map_append, List.take_append_drop]

/-! ## Reordering -/

/-- Reordering permutes the first hits and leaves the rest behind them. -/
theorem mmrRerank_spec (models : RetrievalModels Embedding)
    (embeds : ∀ texts, (models.embedTexts texts).length = texts.length)
    (query : String) (hits : List RetrievalHit)
    (request : RetrievalRequest) :
    let count := min (max request.rerankTopK request.finalTopK) hits.length
    ∃ front, mmrRerank models query hits request =
        some (front ++ hits.drop count) ∧ front.Perm (hits.take count) := by
  dsimp only
  unfold mmrRerank
  by_cases none : hits = []
  · rw [if_pos none, none]
    refine ⟨[], ?_, ?_⟩
    · rw [List.drop_nil]
      rfl
    · rw [List.take_nil]
  · rw [if_neg none]
    dsimp only
    generalize min (max request.rerankTopK request.finalTopK)
      hits.length = count
    have one := embeds [query]
    cases embedded : models.embedTexts [query] with
    | nil =>
        rw [embedded] at one
        contradiction
    | cons queryVector others =>
        dsimp only
        have enough := embeds ((hits.take count).map (·.text))
        rw [List.length_map] at enough
        rw [if_neg (by omega)]
        have perm := selectBest_perm
          (mmrKey models.cosine queryVector
            (models.embedTexts ((hits.take count).map (·.text)))
            (hits.take count) (max 0 (min 1 request.mmrLambda)))
          request.finalTopK [] (List.range (hits.take count).length)
        refine ⟨_, rfl, ?_⟩
        have picked := perm.filterMap ((hits.take count)[·]?)
        rw [List.nil_append, filterMap_range] at picked
        exact picked

theorem mmrRerank_perm (models : RetrievalModels Embedding)
    (embeds : ∀ texts, (models.embedTexts texts).length = texts.length)
    (query : String) (hits : List RetrievalHit)
    (request : RetrievalRequest) :
    ∃ ordered, mmrRerank models query hits request = some ordered ∧
      ordered.Perm hits := by
  obtain ⟨front, reranked, perm⟩ :=
    mmrRerank_spec models embeds query hits request
  refine ⟨_, reranked, ?_⟩
  have whole := perm.append_right (hits.drop
    (min (max request.rerankTopK request.finalTopK) hits.length))
  rw [List.take_append_drop] at whole
  exact whole

/-! ## The final selection -/

/-- What the final hits are among the candidates. -/
structure SelectsTop (hits : List RetrievalHit) (finalTopK : Nat)
    (top : List RetrievalHit) : Prop where
  selects : (top.map (·.retrieved)).Subperm (hits.map (·.retrieved))
  distinct : (chunkIds hits).Nodup → (chunkIds top).Nodup
  length_eq : top.length = min finalTopK hits.length
  fair : ¬ (top.map documentKey).Nodup →
    ∀ hit ∈ hits, documentKey hit ∈ top.map documentKey

theorem preferDocumentDiversity_spreads (hits : List RetrievalHit)
    (finalTopK : Nat) :
    Spreads documentKey finalTopK hits
      (preferDocumentDiversity hits finalTopK) := by
  unfold preferDocumentDiversity
  split
  case isTrue none =>
    constructor
    case selects => exact List.nil_subperm
    case length_eq =>
      rw [none, Nat.zero_min]
      rfl
    case fair =>
      intro twice
      exact absurd List.nodup_nil twice
  case isFalse some =>
    have room : ([] : List RetrievalHit).length < finalTopK :=
      Nat.pos_of_ne_zero some
    exact @spread_spreads _ _ _ _ _ [] [] [] hits room List.nodup_nil
      (fun _ => Iff.rfl) (fun _ member => absurd member List.not_mem_nil)

/-- A selection from the hits in another order, as far as they were
retrieved. -/
theorem SelectsTop.of_perm {hits ordered top : List RetrievalHit}
    {finalTopK : Nat}
    (perm : (ordered.map (·.retrieved)).Perm (hits.map (·.retrieved)))
    (spreads : Spreads documentKey finalTopK ordered top) :
    SelectsTop hits finalTopK top := by
  have selects : (top.map (·.retrieved)).Subperm (hits.map (·.retrieved)) :=
    (map_subperm _ spreads.selects).trans perm.subperm
  have keys : ∀ hits : List RetrievalHit,
      hits.map documentKey = (hits.map (·.retrieved)).map documentKey := by
    intro hits
    rw [List.map_map]
    rfl
  constructor
  case selects => exact selects
  case distinct =>
    intro once
    have ids : (chunkIds top).Subperm (chunkIds hits) := by
      have mapped := map_subperm (·.chunkId) selects
      rw [List.map_map, List.map_map] at mapped
      exact mapped
    obtain ⟨part, isPerm, isPart⟩ := ids
    exact isPerm.nodup_iff.mp (once.sublist isPart)
  case length_eq =>
    have same := perm.length_eq
    rw [List.length_map, List.length_map] at same
    rw [spreads.length_eq, same]
  case fair =>
    intro twice hit member
    have present : documentKey hit ∈ ordered.map documentKey := by
      rw [keys ordered]
      apply (perm.map documentKey).mem_iff.mpr
      rw [← keys hits]
      exact List.mem_map_of_mem member
    obtain ⟨other, otherMember, same⟩ := List.mem_map.mp present
    rw [← same]
    exact spreads.fair twice other otherMember

/-- Reordering permutes, and what comes out are distinct candidates, as many
as were asked for or as there are, every document once before any twice. -/
theorem postProcess_selects (models : RetrievalModels Embedding)
    (embeds : ∀ texts, (models.embedTexts texts).length = texts.length)
    (query : String) (hits : List RetrievalHit)
    (request : RetrievalRequest) :
    (let count := min (max request.rerankTopK request.finalTopK) hits.length
      ∃ front, mmrRerank models query hits request =
          some (front ++ hits.drop count) ∧ front.Perm (hits.take count)) ∧
      ∃ top, postProcess models query hits request = some top ∧
        SelectsTop hits request.finalTopK top := by
  refine ⟨mmrRerank_spec models embeds query hits request, ?_⟩
  have scored := rerankHits_perm models query hits request
  unfold postProcess
  dsimp only
  split
  case isTrue =>
    obtain ⟨ordered, reranked, perm⟩ := mmrRerank_perm models embeds query
      (rerankHits models query hits request) request
    rw [reranked]
    refine ⟨_, rfl, ?_⟩
    exact SelectsTop.of_perm ((perm.map _).trans scored)
      (preferDocumentDiversity_spreads ordered request.finalTopK)
  case isFalse =>
    refine ⟨_, rfl, ?_⟩
    exact SelectsTop.of_perm scored
      (preferDocumentDiversity_spreads _ request.finalTopK)

theorem postProcess_selects_two :
    ∃ top,
      postProcess
          { embedTexts := fun texts => texts.map String.length
            rerankFn := some fun _ texts => texts.map fun _ => 1
            rerankModel := none
            cosine := fun left right => if left = right then 1 else 0 }
          "price"
          [RetrievalHit.mk "c1" "d1" "seat price" 1 none none none none none
              none "" "" "active",
            RetrievalHit.mk "c2" "d1" "seats" 0 none none none none none none
              "" "" "active"]
          { rerankTopK := 2
            finalTopK := 1
            mmrLambda := 1 / 2 } = some top ∧
        SelectsTop
          [RetrievalHit.mk "c1" "d1" "seat price" 1 none none none none none
              none "" "" "active",
            RetrievalHit.mk "c2" "d1" "seats" 0 none none none none none none
              "" "" "active"] 1 top :=
  (postProcess_selects
    { embedTexts := fun texts => texts.map String.length
      rerankFn := some fun _ texts => texts.map fun _ => 1
      rerankModel := none
      cosine := fun left right => if left = right then 1 else 0 }
    (fun _ => List.length_map _) "price" _ _).2

end CompetiScope
