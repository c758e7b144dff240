import CompetiScope.Agents.ClaimCards
import CompetiScope.Agents.Recommendations
import CompetiScope.Foundation.Blocks

/-!
# What cards cite

The cards of a bundle cite sources of the slice it was built from, and decision
cards cite the claim cards and sources they were built from, when ids have no
white space around them.
-/

namespace CompetiScope

open Foundation

/-! ## Claim cards -/

section ClaimCards

variable [PyRuntime] {library : CardLibrary} {request : CardRequest}

/-- A claim card cites given ids only, and has the name of some ordinal. -/
structure CitesOnly (library : CardLibrary) (request : CardRequest)
    (ids : List String) (card : AnalystCard) : Prop where
  cited : ∀ id ∈ card.card.sourceIds, id ∈ ids
  named : ∃ ordinal text,
    card.card.id = claimCardId library request ordinal text

omit [PyRuntime] in
theorem mem_keys_of_mapM {byId : Dict String RatedSource}
    {ids : List String} {sources : List RatedSource}
    (found : ids.mapM byId.get? = some sources) :
    ∀ id ∈ ids, id ∈ byId.keys := by
  induction ids generalizing sources with
  | nil => exact List.forall_mem_nil _
  | cons id ids induction =>
      rw [List.mapM_cons] at found
      obtain ⟨source, isSource, later⟩ := Option.bind_eq_some_iff.mp found
      obtain ⟨others, areSources, -⟩ := Option.bind_eq_some_iff.mp later
      exact List.forall_mem_cons.mpr
        ⟨Dict.mem_keys.mpr ⟨source, isSource⟩, induction areSources⟩

theorem claimCard_citesOnly {sources : List RatedSource} {ordinal : Nat}
    {claim : RatedClaim} {card : AnalystCard}
    (made : claimCard library request (sourceById sources) ordinal claim =
      some card) :
    CitesOnly library request (sources.map (·.raw.id)) card := by
  obtain ⟨isMade, text, named⟩ := claimCard_made made
  refine ⟨?_, ordinal, text, named⟩
  unfold claimCard at made
  split at made
  · next none =>
      cases made
      exact List.forall_mem_nil _
  · obtain ⟨claimSources, found, rfl⟩ := Option.map_eq_some_iff.mp made
    intro id cited
    exact mem_keys_sourceById.mp (mem_keys_of_mapM found id cited)

theorem claimLoop_citesOnly {sources : List RatedSource}
    {entries : List (RatedClaim × Nat)} {loop final : CardLoop}
    (known : ∀ card ∈ loop.cards,
      CitesOnly library request (sources.map (·.raw.id)) card)
    (run : entries.foldlM (CardLoop.step library request (sourceById sources))
      loop = some final) :
    ∀ card ∈ final.cards,
      CitesOnly library request (sources.map (·.raw.id)) card := by
  induction entries generalizing loop with
  | nil =>
      cases run
      exact known
  | cons entry entries induction =>
      rw [List.foldlM_cons] at run
      obtain ⟨next, stepped, later⟩ := Option.bind_eq_some_iff.mp run
      obtain ⟨card, made, rfl⟩ := Option.map_eq_some_iff.mp stepped
      apply induction _ later
      intro other member
      rcases List.mem_append.mp member with before | here
      · exact known other before
      · rw [List.mem_singleton.mp here]
        exact claimCard_citesOnly made

/-- The cards of a bundle cite sources it was built from. -/
theorem buildClaimCardBundle_citesOnly {claims : List RatedClaim}
    {sources : List RatedSource} {bundle : AnalystCardBundle}
    (returned : buildClaimCardBundle library request claims sources =
      some bundle) :
    bundle.request = request ∧ ∀ card ∈ bundle.cards,
      CitesOnly library request (sources.map (·.raw.id)) card := by
  obtain ⟨loop, run, rfl⟩ := Option.map_eq_some_iff.mp returned
  refine ⟨rfl, ?_⟩
  have ofClaims := claimLoop_citesOnly (List.forall_mem_nil _) run
  intro card member
  dsimp only at member
  unfold CardLoop.bundleCards at member
  dsimp only at member
  split at member
  · rw [List.mem_singleton.mp member]
    exact ⟨List.forall_mem_nil _, 1, "gap", rfl⟩
  · rcases List.mem_append.mp member with ofClaim | ofResearch
    · exact ofClaims card ofClaim
    · obtain ⟨entry, isEntry, rfl⟩ := List.mem_map.mp ofResearch
      have isSource : entry.1 ∈ unrepresentedResearch loop.cards sources :=
        List.fst_mem_of_mem_zipIdx isEntry
      refine ⟨?_, entry.2, _, rfl⟩
      intro id cited
      rw [List.mem_singleton.mp cited]
      exact List.mem_map_of_mem (List.mem_of_mem_filter isSource)

/-- The name of a claim card has no white space around it. -/
theorem claimCardId_trimmed
    (visible : ∀ text, ∀ char ∈ (library.sha256Hex text).toList,
      isSpace char = false) (ordinal : Nat) (text : String) :
    strip (claimCardId library request ordinal text) =
        claimCardId library request ordinal text ∧
      claimCardId library request ordinal text ≠ "" := by
  have front : ∃ between digest,
      (∀ char ∈ digest, isSpace char = false) ∧
        (claimCardId library request ordinal text).toList =
          "claim-".toList ++ between ++ '-' :: digest := by
    refine ⟨(slug request.competitor ++ "-" ++ slug request.dimension ++
      "-" ++ toString ordinal).toList, (library.sha256Hex
        (String.intercalate "|" [request.runId, request.competitor,
          request.dimension, toString ordinal, text])).toList.take 10,
      fun char member => visible _ char (List.mem_of_mem_take member), ?_⟩
    unfold claimCardId claimCardIdFront
    simp only [String.toList_append, String.toList_ofList, List.append_assoc]
    rfl
  obtain ⟨between, digest, isDigest, spelled⟩ := front
  have stripped : Stripped (claimCardId library request ordinal text).toList := by
    rw [spelled]
    apply stripped_iff.mpr
    constructor
    · intro char isHead
      have isC : char = 'c' := by simpa using isHead.symm
      rw [isC]
      decide
    · intro char isLast
      rw [List.getLast?_append_of_ne_nil _ (List.cons_ne_nil _ _)] at isLast
      have member := List.mem_of_getLast? isLast
      rcases List.mem_cons.mp member with rfl | inDigest
      · decide
      · exact isDigest char inDigest
  constructor
  · rw [strip, stripped, String.ofList_toList]
  · intro blank
    rw [blank] at spelled
    simp at spelled

end ClaimCards

/-! ## Decision cards -/

section DecisionCards

variable [PyRuntime] {sha256Hex : String → String} {runId : String}
  {fallbackUsed : Bool} {matrix : RatedMatrix}
  {claimBundles : List ClaimCardBundle}

/-- A decision card stands on given claim cards and sources only. -/
def StandsOn (claimIds sourceIds : List String) (card : DecisionCard) : Prop :=
  (∀ id ∈ card.claimCardIds, id ∈ claimIds) ∧
    ∀ id ∈ card.sourceIds, id ∈ sourceIds

instance (claimIds sourceIds : List String) (card : DecisionCard) :
    Decidable (StandsOn claimIds sourceIds card) :=
  inferInstanceAs (Decidable (_ ∧ _))

omit [PyRuntime] in
/-- A card over others stands on what they stand on. -/
theorem standsOn_of_parts {claimIds sourceIds : List String}
    {card : DecisionCard} {parts : List DecisionCard}
    (claimsTrimmed : TrimmedIds claimIds)
    (sourcesTrimmed : TrimmedIds sourceIds)
    (each : ∀ part ∈ parts, StandsOn claimIds sourceIds part)
    (sameIds : card.claimCardIds =
      mergeOrderedRefs [parts.flatMap (·.claimCardIds)])
    (sameSources : card.sourceIds =
      mergeOrderedRefs [parts.flatMap (·.sourceIds)]) :
    StandsOn claimIds sourceIds card := by
  constructor
  · rw [sameIds]
    apply mergeOrderedRefs_subset claimsTrimmed
    intro group isGroup id member
    rw [List.mem_singleton.mp isGroup] at member
    obtain ⟨part, isPart, inPart⟩ := List.mem_flatMap.mp member
    exact (each part isPart).1 id inPart
  · rw [sameSources]
    apply mergeOrderedRefs_subset sourcesTrimmed
    intro group isGroup id member
    rw [List.mem_singleton.mp isGroup] at member
    obtain ⟨part, isPart, inPart⟩ := List.mem_flatMap.mp member
    exact (each part isPart).2 id inPart

/-- The decision cards stand on the claim cards they were built from and on
the sources of these. -/
theorem buildDecisionCardBundle_standsOn {claimIds sourceIds : List String}
    (claimsTrimmed : TrimmedIds claimIds)
    (sourcesTrimmed : TrimmedIds sourceIds)
    (claims : ∀ claim ∈ supportedClaims claimBundles,
      claim.id ∈ claimIds ∧ ∀ id ∈ claim.sourceIds, id ∈ sourceIds) :
    ∀ card ∈ (buildDecisionCardBundle sha256Hex runId fallbackUsed matrix
        claimBundles).cards, StandsOn claimIds sourceIds card := by
  have ofClaims : ∀ cited : List ClaimCard,
      (∀ claim ∈ cited, claim ∈ supportedClaims claimBundles) →
        (∀ id ∈ cited.map (·.id), id ∈ claimIds) ∧
          ∀ id ∈ mergeOrderedRefs [cited.flatMap (·.sourceIds)],
            id ∈ sourceIds := by
    intro cited supported
    constructor
    · intro id member
      obtain ⟨claim, isClaim, rfl⟩ := List.mem_map.mp member
      exact (claims claim (supported claim isClaim)).1
    · apply mergeOrderedRefs_subset sourcesTrimmed
      intro group isGroup id member
      rw [List.mem_singleton.mp isGroup] at member
      obtain ⟨claim, isClaim, inClaim⟩ := List.mem_flatMap.mp member
      exact (claims claim (supported claim isClaim)).2 id inClaim
  have ofDimension : ∀ card ∈ dimensionCards sha256Hex runId fallbackUsed
      matrix claimBundles, StandsOn claimIds sourceIds card := by
    intro card member
    obtain ⟨dimension, -, found⟩ := mem_dimensionCards.mp member
    cases dimensionCardOf found with
    | winner cell decided ofWinner =>
        exact ofClaims _ fun claim isClaim => (ofWinner claim isClaim).1
    | riskAdjusted named onDimension =>
        exact ofClaims _ fun claim isClaim => (onDimension claim isClaim).1
  intro card member
  rcases mem_buildDecisionCardBundle.mp member with single | overall
  · exact ofDimension card (mem_dimensionCards.mpr single)
  · rcases overallCard_cases overall with ⟨-, recommended⟩ | adjusted
    · obtain ⟨winner, -, -, recommendation⟩ :=
        overallRecommendationCard_spec recommended
      apply standsOn_of_parts claimsTrimmed sourcesTrimmed _
        recommendation.sameIds recommendation.sameSources
      intro part isPart
      apply ofDimension
      exact (List.mem_filter.mp (List.mem_filter.mp isPart).1).1
    · obtain ⟨-, -, sameIds, sameSources, -⟩ :=
        overallRiskAdjustedCard_spec adjusted
      exact standsOn_of_parts claimsTrimmed sourcesTrimmed ofDimension sameIds
        sameSources

end DecisionCards

end CompetiScope
