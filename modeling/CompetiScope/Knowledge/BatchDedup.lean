import CompetiScope.Foundation.Apart
import CompetiScope.Foundation.Text
import CompetiScope.Foundation.Words
import Mathlib.Data.Nat.Bits

/-!
# Near-duplicate texts

A text has a fingerprint of 64 bits, made of the digests of its words, and
texts whose fingerprints differ in few bits are near-duplicates.  The digest
(BLAKE2b of 8 bytes, read as a number) is a parameter.
-/

namespace CompetiScope

open Foundation

def defaultThreshold : Int := 5

def hashBits : Nat := 64

section Fingerprints

variable [PyRuntime] (blake2b : List Char → Nat)

/-- `_tokens`. -/
def dedupTokens (text : List Char) : List (List Char) :=
  let tokens := (wordsOf (fun char => !isWordChar char) text).map casefoldChars
  if tokens = [] then [casefoldChars text] else tokens

/-- One token in the vector of `simhash`. -/
def addToken (vector : List Int) (tokenHash : Nat) : List Int :=
  vector.mapIdx fun bit weight =>
    if tokenHash.testBit bit then weight + 1 else weight - 1

def fingerprint (vector : List Int) : Nat :=
  vector.zipIdx.foldl
    (fun bits (entry : Int × Nat) =>
      if 0 ≤ entry.1 then bits ||| (1 <<< entry.2) else bits) 0

/-- `simhash`. -/
def simhash (text : List Char) : Nat :=
  let vector := (dedupTokens text).foldl
    (fun vector token => addToken vector (blake2b token))
    (List.replicate hashBits 0)
  fingerprint vector

end Fingerprints

/-- `hamming_distance`. -/
def hammingDistance (left right : Nat) : Nat :=
  (left ^^^ right).bits.count true

/-- `_dedup_threshold`; the environment variable counts if it spells an
integer. -/
def dedupThreshold (environment : Option Int) : Int :=
  environment.getD defaultThreshold

section Dedup

variable [PyRuntime] (blake2b : List Char → Nat)

/-- `dedup_document` with a threshold. -/
def dedupDocument (text : List Char) (existingHashes : List Nat)
    (threshold : Int) : Bool :=
  let candidate := simhash blake2b text
  existingHashes.any fun existing =>
    hammingDistance candidate existing ≤ threshold

/-- The loop of `batch_dedup`. -/
def batchDedupFrom (threshold : Int) (kept : List (List Char))
    (hashes : List Nat) : List (List Char) → List (List Char)
  | [] => kept
  | text :: texts =>
      if dedupDocument blake2b text hashes threshold then
        batchDedupFrom threshold kept hashes texts
      else
        batchDedupFrom threshold (kept ++ [text])
          (hashes ++ [simhash blake2b text]) texts

/-- `batch_dedup`. -/
def batchDedup (environment : Option Int) (texts : List (List Char))
    (threshold : Option Int) : List (List Char) :=
  let threshold := threshold.getD (dedupThreshold environment)
  batchDedupFrom blake2b threshold [] [] texts

/-- The distance of the fingerprints of two texts. -/
def textDistance (left right : List Char) : Nat :=
  hammingDistance (simhash blake2b left) (simhash blake2b right)

theorem textDistance_comm (left right : List Char) :
    textDistance blake2b left right = textDistance blake2b right left := by
  unfold textDistance hammingDistance
  rw [Nat.xor_comm]

/-- A near-duplicate. -/
def within (threshold : Int) (text other : List Char) : Bool :=
  textDistance blake2b text other ≤ threshold

theorem dedupDocument_map_simhash (text : List Char)
    (kept : List (List Char)) (threshold : Int) :
    dedupDocument blake2b text (kept.map (simhash blake2b)) threshold =
      kept.any (within blake2b threshold text) := by
  unfold dedupDocument
  rw [List.any_map]
  rfl

/-- The loop keeps the texts that are apart, with their fingerprints. -/
theorem batchDedupFrom_eq (threshold : Int) (kept texts : List (List Char)) :
    batchDedupFrom blake2b threshold kept (kept.map (simhash blake2b)) texts =
      keepApart (within blake2b threshold) kept texts := by
  induction texts generalizing kept with
  | nil => rfl
  | cons text texts induction =>
      have grown : kept.map (simhash blake2b) ++ [simhash blake2b text] =
          (kept ++ [text]).map (simhash blake2b) := by
        rw [List.map_append, List.map_singleton]
      rw [batchDedupFrom, keepApart, dedupDocument_map_simhash, grown,
        induction kept, induction (kept ++ [text])]

theorem batchDedup_eq (environment threshold : Option Int)
    (texts : List (List Char)) :
    batchDedup blake2b environment texts threshold =
      keepApart (within blake2b (threshold.getD (dedupThreshold environment)))
        [] texts :=
  batchDedupFrom_eq blake2b _ [] texts

/-- What is kept is a sublist whose texts are farther apart than the
threshold, a text is kept where it stands or within the threshold of an
earlier one that is kept, and a second pass changes nothing. -/
theorem batchDedup_keepsApart (environment threshold : Option Int)
    (texts : List (List Char)) :
    let limit := threshold.getD (dedupThreshold environment)
    let dedup := fun texts => batchDedup blake2b environment texts threshold
    (dedup texts).Sublist texts ∧
      ((dedup texts).Pairwise fun text other =>
        limit < textDistance blake2b text other) ∧
      (∀ front text back, texts = front ++ text :: back →
        dedup front ++ [text] <+: dedup texts ∨
          ∃ earlier ∈ dedup front, earlier ∈ dedup texts ∧
            textDistance blake2b text earlier ≤ limit) ∧
      dedup (dedup texts) = dedup texts := by
  dsimp only
  simp only [batchDedup_eq]
  generalize threshold.getD (dedupThreshold environment) = limit
  refine ⟨keepApart_sublist [] texts, ?_, ?_, keepApart_keepApart texts⟩
  · have apart : Apart (within blake2b limit) _ :=
      apart_keepApart List.Pairwise.nil texts
    apply apart.imp
    intro text other far
    have notWithin := of_decide_eq_false far
    rw [textDistance_comm]
    exact Int.not_le.mp notWithin
  · intro front text back whole
    rw [whole]
    rcases @kept_or_close _ (within blake2b limit) front text back with
      isKept | isClose
    · exact Or.inl isKept
    · right
      obtain ⟨earlier, member, near⟩ := isClose
      refine ⟨earlier, member, ?_, of_decide_eq_true near⟩
      rw [keepApart_append]
      exact (prefix_keepApart _ _).subset member

end Dedup

end CompetiScope
