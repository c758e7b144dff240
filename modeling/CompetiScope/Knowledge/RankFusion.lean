import CompetiScope.Foundation.Tally
import Mathlib.Algebra.Order.Field.Rat
import Mathlib.Data.List.NodupEquivFin

/-!
# Reciprocal rank fusion

Ranked lists of hits are fused: each place in a list adds its weight over the
rank to the score of the chunk, the last copy of a chunk is kept, and the
chunks are sorted by their scores.
-/

namespace CompetiScope

open Foundation

structure RetrievalHit where
  chunkId : String
  documentId : String
  text : String
  score : Rat
  rerankScore : Option Rat := none
  rerankModel : Option String := none
  url : Option String := none
  title : Option String := none
  competitor : Option String := none
  dimension : Option String := none
  sourceType : String := ""
  contentHash : String := ""
  status : String := "active"
  deriving DecidableEq

def chunkIds (hits : List RetrievalHit) : List String :=
  hits.map (·.chunkId)

/-! ## The function -/

/-- The dictionaries of the pass. -/
structure FusionState where
  rrfScores : Dict String Rat := ∅
  hitMap : Dict String RetrievalHit := ∅

def fuseHit (k : Nat) (weight : Rat) (state : FusionState)
    (ranked : RetrievalHit × Nat) : FusionState :=
  let hit := ranked.1
  { rrfScores := state.rrfScores.set hit.chunkId
      (state.rrfScores.getD hit.chunkId 0 + weight / (k + ranked.2))
    hitMap := state.hitMap.set hit.chunkId hit }

/-- One ranked list; the first rank is 1. -/
def fuseList (k : Nat) (state : FusionState)
    (weighted : List RetrievalHit × Rat) : FusionState :=
  (weighted.1.zipIdx 1).foldl (fuseHit k weighted.2) state

/-- `weights or [1.0] * len(ranked_lists)`. -/
def fusionWeights (rankedLists : List (List RetrievalHit))
    (weights : Option (List Rat)) : List Rat :=
  let missing := List.replicate rankedLists.length 1
  match weights with
  | some weights => if weights = [] then missing else weights
  | none => missing

/-- `_rrf_fuse_ranked_lists`. -/
def rrfFuseRankedLists (rankedLists : List (List RetrievalHit))
    (weights : Option (List Rat)) (k : Nat) : List RetrievalHit :=
  let state := (rankedLists.zip (fusionWeights rankedLists weights)).foldl
    (fuseList k) { }
  let sortedIds := sortDescending (fun id => state.rrfScores.getD id 0)
    state.rrfScores.keys
  sortedIds.filterMap fun id =>
    (state.hitMap.get? id).map fun hit =>
      { hit with score := state.rrfScores.getD id 0 }

/-- `_rrf_fusion`. -/
def rrfFusion (denseHits sparseHits : List RetrievalHit)
    (denseWeight sparseWeight : Rat) : List RetrievalHit :=
  rrfFuseRankedLists [denseHits, sparseHits]
    (some [denseWeight, sparseWeight]) 60

/-! ## The pass over all places -/

/-- What each place of a weighted list adds. -/
def listShares (k : Nat) (weighted : List RetrievalHit × Rat) :
    List (RetrievalHit × Rat) :=
  (weighted.1.zipIdx 1).map fun ranked =>
    (ranked.1, weighted.2 / (k + ranked.2))

def shares (k : Nat) (family : List (List RetrievalHit × Rat)) :
    List (RetrievalHit × Rat) :=
  family.flatMap (listShares k)

def addShare (state : FusionState) (share : RetrievalHit × Rat) :
    FusionState :=
  { rrfScores := state.rrfScores.set share.1.chunkId
      (state.rrfScores.getD share.1.chunkId 0 + share.2)
    hitMap := state.hitMap.set share.1.chunkId share.1 }

theorem foldl_fuseList (k : Nat) (family : List (List RetrievalHit × Rat))
    (state : FusionState) :
    family.foldl (fuseList k) state = (shares k family).foldl addShare state := by
  have inList : fuseList k = fun state weighted =>
      (listShares k weighted).foldl addShare state := by
    funext state weighted
    rw [fuseList, listShares, List.foldl_map]
    rfl
  rw [shares, List.foldl_flatMap, inList]

/-- The two dictionaries after the pass. -/
theorem foldl_addShare (items : List (RetrievalHit × Rat)) :
    items.foldl addShare { } =
      { rrfScores := tally (·.1.chunkId) Prod.snd items
        hitMap := indexBy (·.chunkId) (items.map Prod.fst) } := by
  unfold tally indexBy
  induction items using List.reverseRecOn with
  | nil => rfl
  | append_singleton items item induction =>
      rw [List.foldl_append, induction, List.foldl_append, List.map_append,
        List.foldl_append]
      rfl

/-- What a weighted list adds to the score of a chunk. -/
def listScore (k : Nat) (weighted : List RetrievalHit × Rat) (id : String) :
    Rat :=
  (((weighted.1.zipIdx 1).filter fun ranked => ranked.1.chunkId = id).map
    fun ranked => weighted.2 / (k + ranked.2)).sum

def fusedScore (k : Nat) (family : List (List RetrievalHit × Rat))
    (id : String) : Rat :=
  (family.map fun weighted => listScore k weighted id).sum

def familyHits (family : List (List RetrievalHit × Rat)) : List RetrievalHit :=
  family.flatMap Prod.fst

theorem map_fst_shares (k : Nat) (family : List (List RetrievalHit × Rat)) :
    (shares k family).map Prod.fst = familyHits family := by
  rw [shares, familyHits, List.map_flatMap]
  apply List.flatMap_congr
  intro weighted member
  rw [listShares, List.map_map]
  exact List.zipIdx_map_fst 1 weighted.1

theorem amountUnder_shares (k : Nat)
    (family : List (List RetrievalHit × Rat)) (id : String) :
    amountUnder (·.1.chunkId) Prod.snd (shares k family) id =
      fusedScore k family id := by
  rw [shares, amountUnder_flatMap, fusedScore]
  congr 1
  apply List.map_congr_left
  intro weighted member
  rw [amountUnder, listShares, List.filter_map, List.map_map]
  rfl

/-- A family of weighted lists, as the function takes it. -/
def fuseFamily (k : Nat) (family : List (List RetrievalHit × Rat)) :
    List RetrievalHit :=
  rrfFuseRankedLists (family.map Prod.fst) (some (family.map Prod.snd)) k

theorem zip_fusionWeights (family : List (List RetrievalHit × Rat)) :
    (family.map Prod.fst).zip
        (fusionWeights (family.map Prod.fst) (some (family.map Prod.snd))) =
      family := by
  unfold fusionWeights
  dsimp only
  split
  case isTrue empty =>
    rw [List.map_eq_nil_iff] at empty
    rw [empty]
    rfl
  case isFalse => exact (List.zip_of_prod rfl rfl).symm

/-- The chunks in the order in which they are met. -/
def metIds (family : List (List RetrievalHit × Rat)) : List String :=
  orderedUnique (chunkIds (familyHits family))

/-- The last copy of a chunk, with its fused score. -/
def fusedHit (k : Nat) (family : List (List RetrievalHit × Rat))
    (id : String) : Option RetrievalHit :=
  ((familyHits family).reverse.find? fun hit => hit.chunkId = id).map fun hit =>
    { hit with score := fusedScore k family id }

theorem fuseFamily_eq (k : Nat) (family : List (List RetrievalHit × Rat)) :
    fuseFamily k family =
      (sortDescending (fusedScore k family) (metIds family)).filterMap
        (fusedHit k family) := by
  unfold fuseFamily rrfFuseRankedLists
  rw [zip_fusionWeights, foldl_fuseList, foldl_addShare]
  dsimp only
  have scores : (fun id => (tally (·.1.chunkId) Prod.snd
      (shares k family)).getD id 0) = fusedScore k family := by
    funext id
    rw [getD_tally, amountUnder_shares]
  have ids : (shares k family).map (·.1.chunkId) =
      chunkIds (familyHits family) := by
    rw [chunkIds, ← map_fst_shares k family, List.map_map]
    rfl
  rw [scores, keys_tally, ids]
  apply List.filterMap_congr
  intro id member
  rw [get?_indexBy_eq, map_fst_shares, fusedHit]
  have score := congrFun scores id
  rw [score]

/-! ## What fusion gives -/

theorem chunkId_of_fusedHit {k : Nat}
    {family : List (List RetrievalHit × Rat)} {id : String}
    {hit : RetrievalHit} (fused : fusedHit k family id = some hit) :
    hit.chunkId = id ∧ hit.score = fusedScore k family id := by
  obtain ⟨copy, found, rfl⟩ := Option.map_eq_some_iff.mp fused
  have same := List.find?_some found
  exact ⟨of_decide_eq_true same, rfl⟩

theorem exists_fusedHit {k : Nat}
    {family : List (List RetrievalHit × Rat)} {id : String}
    (met : id ∈ metIds family) : ∃ hit, fusedHit k family id = some hit := by
  obtain ⟨hit, member, rfl⟩ := List.mem_map.mp (mem_orderedUnique.mp met)
  unfold fusedHit
  cases found : (familyHits family).reverse.find?
      fun other => other.chunkId = hit.chunkId with
  | some copy => exact ⟨_, rfl⟩
  | none =>
      have differs := List.find?_eq_none.mp found hit
        (List.mem_reverse.mpr member)
      simp at differs

/-- The chunks with their scores, in the order of the result. -/
theorem map_fuseFamily {β : Type} (k : Nat)
    (family : List (List RetrievalHit × Rat)) (part : RetrievalHit → β)
    (partOf : String → β)
    (agrees : ∀ id hit, fusedHit k family id = some hit →
      part hit = partOf id) :
    (fuseFamily k family).map part =
      (sortDescending (fusedScore k family) (metIds family)).map partOf := by
  rw [fuseFamily_eq, List.map_filterMap, ← List.filterMap_eq_map]
  apply List.filterMap_congr
  intro id member
  have met : id ∈ metIds family :=
    (perm_sortDescending _ _).mem_iff.mp member
  obtain ⟨hit, fused⟩ := exists_fusedHit (k := k) met
  rw [fused, Option.map_some, agrees id hit fused]
  rfl

theorem chunkIds_fuseFamily (k : Nat)
    (family : List (List RetrievalHit × Rat)) :
    chunkIds (fuseFamily k family) =
      sortDescending (fusedScore k family) (metIds family) := by
  have ids := map_fuseFamily k family (·.chunkId) id
    fun _ _ fused => (chunkId_of_fusedHit fused).1
  rw [List.map_id] at ids
  exact ids

private theorem sum_ranks_of_absent (share : RetrievalHit × Nat → Rat)
    {hits : List RetrievalHit} {id : String} (absent : id ∉ chunkIds hits)
    (start : Nat) :
    (((hits.zipIdx start).filter fun ranked => ranked.1.chunkId = id).map
      share).sum = 0 := by
  have nothing : (hits.zipIdx start).filter
      (fun ranked => ranked.1.chunkId = id) = [] := by
    rw [List.filter_eq_nil_iff]
    intro ranked member same
    apply absent
    rw [← of_decide_eq_true same]
    exact List.mem_map_of_mem (List.fst_mem_of_mem_zipIdx member)
  rw [nothing]
  rfl

private theorem sum_ranks_of_distinct (share : RetrievalHit × Nat → Rat)
    {hits : List RetrievalHit} (distinct : (chunkIds hits).Nodup)
    {id : String} (amount : Nat → Rat)
    (shareIs : ∀ hit rank, share (hit, rank) = amount rank)
    (member : id ∈ chunkIds hits) (start : Nat) :
    (((hits.zipIdx start).filter fun ranked => ranked.1.chunkId = id).map
      share).sum = amount (start + (chunkIds hits).idxOf id) := by
  induction hits generalizing start with
  | nil => contradiction
  | cons hit hits induction =>
      obtain ⟨absent, rest⟩ := List.nodup_cons.mp distinct
      rw [List.zipIdx_cons, chunkIds, List.map_cons]
      by_cases same : hit.chunkId = id
      · rw [List.filter_cons_of_pos (by simp [same]), List.map_cons,
          List.sum_cons, shareIs, sum_ranks_of_absent share (same ▸ absent),
          same, List.idxOf_cons_self]
        exact add_zero _
      · have later : id ∈ chunkIds hits :=
          List.mem_of_ne_of_mem (fun equal => same equal.symm) member
        rw [List.filter_cons_of_neg (by simp [same]),
          induction rest later, List.idxOf_cons_ne _ same]
        congr 1
        exact Nat.succ_add_eq_add_succ start _

/-- The score of a list without a repeated chunk is that of its one place. -/
theorem listScore_of_distinct {k : Nat} {hits : List RetrievalHit}
    {weight : Rat} (distinct : (chunkIds hits).Nodup) {id : String}
    (member : id ∈ chunkIds hits) :
    listScore k (hits, weight) id =
      weight / (k + (1 + (chunkIds hits).idxOf id : Nat)) :=
  sum_ranks_of_distinct _ distinct (fun rank => weight / (k + rank))
    (fun _ _ => rfl) member 1

theorem listScore_of_absent {k : Nat} {hits : List RetrievalHit}
    {weight : Rat} {id : String} (absent : id ∉ chunkIds hits) :
    listScore k (hits, weight) id = 0 :=
  sum_ranks_of_absent _ absent 1

/-- What fusion makes of a family of weighted lists. -/
structure FusesRanks (k : Nat) (family : List (List RetrievalHit × Rat))
    (fused : List RetrievalHit) : Prop where
  once : (chunkIds fused).Nodup
  mem_iff : ∀ id, id ∈ chunkIds fused ↔
    ∃ weighted ∈ family, id ∈ chunkIds weighted.1
  score : ∀ hit ∈ fused, hit.score =
    (family.map fun weighted => listScore k weighted hit.chunkId).sum
  lastCopy : ∀ hit ∈ fused, ∃ copy,
    (family.flatMap Prod.fst).reverse.find?
        (fun other => other.chunkId = hit.chunkId) = some copy ∧
      hit = { copy with score := hit.score }
  ordered : fused.Pairwise fun first second =>
    second.score < first.score ∨ first.score = second.score ∧
      [first.chunkId, second.chunkId].Sublist
        (orderedUnique (chunkIds (family.flatMap Prod.fst)))

theorem fuseFamily_fuses (k : Nat)
    (family : List (List RetrievalHit × Rat)) :
    FusesRanks k family (fuseFamily k family) := by
  have member_fused : ∀ hit ∈ fuseFamily k family,
      fusedHit k family hit.chunkId = some hit := by
    intro hit member
    rw [fuseFamily_eq] at member
    obtain ⟨id, -, fused⟩ := List.mem_filterMap.mp member
    rw [(chunkId_of_fusedHit fused).1]
    exact fused
  constructor
  case once =>
    rw [chunkIds_fuseFamily]
    exact (perm_sortDescending _ _).nodup_iff.mpr (orderedUnique_nodup _)
  case mem_iff =>
    intro id
    rw [chunkIds_fuseFamily, (perm_sortDescending _ _).mem_iff, metIds,
      mem_orderedUnique, chunkIds, familyHits, List.map_flatMap,
      List.mem_flatMap]
    rfl
  case score =>
    intro hit member
    exact (chunkId_of_fusedHit (member_fused hit member)).2
  case lastCopy =>
    intro hit member
    have fused := member_fused hit member
    have scoreIs := (chunkId_of_fusedHit fused).2
    obtain ⟨copy, found, same⟩ := Option.map_eq_some_iff.mp fused
    refine ⟨copy, found, ?_⟩
    rw [scoreIs]
    exact same.symm
  case ordered =>
    have ranked := pairwise_rankedBefore (fusedScore k family)
      (orderedUnique_nodup (chunkIds (familyHits family)))
    have ids := chunkIds_fuseFamily k family
    rw [metIds] at ids
    rw [← ids] at ranked
    have rankedHits := List.pairwise_map.mp ranked
    apply rankedHits.imp_of_mem
    intro first second firstMember secondMember before
    rw [(chunkId_of_fusedHit (member_fused first firstMember)).2,
      (chunkId_of_fusedHit (member_fused second secondMember)).2]
    exact before

/-- Other orders of the lists give the same chunks with the same scores. -/
theorem fuseFamily_perm (k : Nat)
    {family other : List (List RetrievalHit × Rat)}
    (perm : other.Perm family) :
    ((fuseFamily k other).map fun hit => (hit.chunkId, hit.score)).Perm
      ((fuseFamily k family).map fun hit => (hit.chunkId, hit.score)) := by
  have scores : fusedScore k other = fusedScore k family := by
    funext id
    exact (perm.map _).sum_eq
  have pairs : ∀ lists : List (List RetrievalHit × Rat),
      (fuseFamily k lists).map (fun hit => (hit.chunkId, hit.score)) =
        (sortDescending (fusedScore k lists) (metIds lists)).map
          fun id => (id, fusedScore k lists id) := by
    intro lists
    apply map_fuseFamily
    intro id hit fused
    obtain ⟨same, score⟩ := chunkId_of_fusedHit fused
    rw [same, score]
  have met : (metIds other).Perm (metIds family) := by
    apply (List.perm_ext_iff_of_nodup (orderedUnique_nodup _)
      (orderedUnique_nodup _)).mpr
    intro id
    rw [mem_orderedUnique, mem_orderedUnique]
    exact ((perm.flatMap_right Prod.fst).map _).mem_iff
  rw [pairs, pairs, scores]
  apply List.Perm.map
  exact (perm_sortDescending _ _).trans
    (met.trans (perm_sortDescending _ _).symm)

/-- Fusion has every chunk once, with what all its places add up to, by
decreasing scores and, where these tie, in the order in which the chunks are
met; the order of the lists makes no difference for the scores. -/
theorem rrfFuse_fusesRanks (k : Nat)
    (family : List (List RetrievalHit × Rat)) :
    FusesRanks k family
        (rrfFuseRankedLists (family.map Prod.fst)
          (some (family.map Prod.snd)) k) ∧
      (∀ weighted ∈ family, (chunkIds weighted.1).Nodup →
        ∀ id, listScore k weighted id =
          if id ∈ chunkIds weighted.1 then
            weighted.2 / (k + (1 + (chunkIds weighted.1).idxOf id : Nat))
          else 0) ∧
      ∀ other : List (List RetrievalHit × Rat), other.Perm family →
        ((rrfFuseRankedLists (other.map Prod.fst)
            (some (other.map Prod.snd)) k).map
              fun hit => (hit.chunkId, hit.score)).Perm
          ((rrfFuseRankedLists (family.map Prod.fst)
            (some (family.map Prod.snd)) k).map
              fun hit => (hit.chunkId, hit.score)) := by
  refine ⟨fuseFamily_fuses k family, ?_, fun other perm =>
    fuseFamily_perm k perm⟩
  intro weighted member distinct id
  split
  case isTrue present => exact listScore_of_distinct distinct present
  case isFalse absent => exact listScore_of_absent absent

/-- A chunk that a list repeats counts at each of its places, and the copy
that is kept depends on the order of the lists. -/
theorem rrfFuse_countsRepeats :
    ((rrfFuseRankedLists
        [[RetrievalHit.mk "c1" "d1" "dense" 0 none none none none none none
            "" "" "active",
          RetrievalHit.mk "c1" "d1" "dense" 0 none none none none none none
            "" "" "active"]] none 60).map (·.score) ≠
        [(1 : Rat) / (60 + 1)]) ∧
      (rrfFuseRankedLists
        [[RetrievalHit.mk "c1" "d1" "dense" 0 none none none none none none
            "" "" "active"],
          [RetrievalHit.mk "c1" "d1" "sparse" 0 none none none none none none
            "" "" "active"]] none 60).map (·.text) ≠
        (rrfFuseRankedLists
          [[RetrievalHit.mk "c1" "d1" "sparse" 0 none none none none none none
              "" "" "active"],
            [RetrievalHit.mk "c1" "d1" "dense" 0 none none none none none none
              "" "" "active"]] none 60).map (·.text) := by
  decide +kernel

end CompetiScope
