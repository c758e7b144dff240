import CompetiScope.Agents.DecisionCards

/-!
# Recommendations over all dimensions

What the decision cards of a run may say: who may be recommended overall, which
claims and sources a card cites, and what a fallback caps.  A dimension whose
winner has no supported claims gets no card, so nothing after the first loop
sees it.
-/

namespace CompetiScope

open Foundation

section Specification

variable [PyRuntime] (matrix : RatedMatrix)
  (claimBundles : List ClaimCardBundle)

/-- The winner of a dimension that is not tied or unresolved. -/
def decidedWinner (dimension : String) : Option String :=
  (matrix.winnerByDimension.get? dimension).filter fun winner =>
    isDecided (some winner)

/-- Lists that merge to the same references. -/
def SameRefs (first second : List String) : Prop :=
  ∀ id, id ∈ mergeOrderedRefs [first] ↔ id ∈ mergeOrderedRefs [second]

/-- The claims a card stands on. -/
structure CitesClaims (card : DecisionCard) (claims : List ClaimCard) :
    Prop where
  filled : claims ≠ []
  supported : ∀ claim ∈ claims, claim ∈ supportedClaims claimBundles
  onDimension : ∀ claim ∈ claims, claim.dimension ∈ card.dimensions
  sameIds : SameRefs card.claimCardIds (claims.map (·.id))
  sameSources : SameRefs card.sourceIds (claims.flatMap (·.sourceIds))

structure BundleSound (fallbackUsed : Bool) (bundle : DecisionCardBundle) :
    Prop where
  overall : ∀ card ∈ bundle.cards,
    card.decisionType = .overallRecommendation →
      ∃ winner, card.winner = some winner ∧
        ∀ dimension ∈ matrix.dimensions,
          decidedWinner matrix dimension = some winner
  cited : ∀ card ∈ bundle.cards, ∃ claims, CitesClaims claimBundles card claims
  recommended : ∀ id, bundle.recommendationCardId = some id →
    ∃ card ∈ bundle.cards, card.id = id
  capped : fallbackUsed = true → ∀ card ∈ bundle.cards,
    card.posture ≠ .strong ∧ card.confidence ≤ fallbackConfidenceCap

/-- The dimension has the winner, and the winner a supported claim on it. -/
structure WonBy (winner dimension : String) (claim : ClaimCard) : Prop where
  requested : dimension ∈ matrix.dimensions
  decided : decidedWinner matrix dimension = some winner
  supported : claim ∈ supportedClaims claimBundles
  ofWinner : claim.competitor = winner
  onDimension : claim.dimension = dimension

/-- One competitor has all the supported wins, and one of them with a claim
that can be cited. -/
structure SoleSupportedWinner (winner : String) : Prop where
  won : ∃ dimension claim, WonBy matrix claimBundles winner dimension claim ∧
    strip claim.id ≠ ""
  alone : ∀ other dimension claim,
    WonBy matrix claimBundles other dimension claim → other = winner

/-- When no dimension is tied or unresolved, a sole supported winner has won
the dimensions without supported claims as well. -/
def UndisputedLead : Prop :=
  (∀ dimension ∈ matrix.dimensions, decidedWinner matrix dimension ≠ none) →
    ∀ winner, SoleSupportedWinner matrix claimBundles winner →
      ∀ dimension ∈ matrix.dimensions,
        decidedWinner matrix dimension = some winner

end Specification

/-! ## References -/

namespace SameRefs

theorem refl (refs : List String) : SameRefs refs refs :=
  fun _ => Iff.rfl

theorem trans {first second third : List String}
    (left : SameRefs first second) (right : SameRefs second third) :
    SameRefs first third :=
  fun id => (left id).trans (right id)

theorem merged (refs : List String) :
    SameRefs (mergeOrderedRefs [refs]) refs := by
  intro id
  rw [mergeOrderedRefs_mergeOrderedRefs]

/-- References collected from items. -/
theorem flatMap {Item : Type} {first second : Item → List String}
    {items : List Item}
    (each : ∀ item ∈ items, SameRefs (first item) (second item)) :
    SameRefs (items.flatMap first) (items.flatMap second) := by
  have collected : ∀ (refs : Item → List String) id,
      id ∈ mergeOrderedRefs [items.flatMap refs] ↔
        ∃ item ∈ items, id ∈ mergeOrderedRefs [refs item] := by
    intro refs id
    simp only [mem_mergeOrderedRefs, List.flatten_cons, List.flatten_nil,
      List.append_nil, List.mem_flatMap]
    constructor
    · rintro ⟨ref, ⟨item, member, inItem⟩, same⟩
      exact ⟨item, member, ref, inItem, same⟩
    · rintro ⟨item, member, ref, inItem, same⟩
      exact ⟨ref, ⟨item, member, inItem⟩, same⟩
  intro id
  rw [collected, collected]
  constructor
  · rintro ⟨item, member, inItem⟩
    exact ⟨item, member, (each item member id).mp inItem⟩
  · rintro ⟨item, member, inItem⟩
    exact ⟨item, member, (each item member id).mpr inItem⟩

end SameRefs

/-! ## Supported claims by key -/

theorem getD_supportedClaimsByKey (claimBundles : List ClaimCardBundle)
    (competitor dimension : String) :
    (supportedClaimsByKey claimBundles).getD (competitor, dimension) [] =
      (supportedClaims claimBundles).filter fun claim =>
        (claim.competitor, claim.dimension) = (competitor, dimension) := by
  rw [supportedClaimsByKey, Dict.getD_foldl_append
    (fun claim : ClaimCard => (claim.competitor, claim.dimension))]
  rfl

theorem mem_getD_supportedClaimsByKey {claimBundles : List ClaimCardBundle}
    {competitor dimension : String} {claim : ClaimCard} :
    claim ∈ (supportedClaimsByKey claimBundles).getD
        (competitor, dimension) [] ↔
      claim ∈ supportedClaims claimBundles ∧
        claim.competitor = competitor ∧ claim.dimension = dimension := by
  rw [getD_supportedClaimsByKey, List.mem_filter]
  simp

theorem of_mem_claimsOfDimension {claimBundles : List ClaimCardBundle}
    {dimension : String} {claim : ClaimCard}
    (member : claim ∈ claimsOfDimension (supportedClaimsByKey claimBundles)
      dimension) :
    claim ∈ supportedClaims claimBundles ∧ claim.dimension = dimension := by
  rcases List.mem_flatMap.mp member with ⟨⟨⟨competitor, other⟩, claims⟩,
    inEntries, inClaims⟩
  rcases List.mem_filter.mp inEntries with ⟨isEntry, sameDimension⟩
  have found := Dict.mem_entries.mp isEntry
  have atKey : claim ∈ (supportedClaimsByKey claimBundles).getD
      (competitor, other) [] := by
    rw [Dict.getD, found]
    exact inClaims
  have spec := mem_getD_supportedClaimsByKey.mp atKey
  exact ⟨spec.1, spec.2.2.trans (by simpa using sameDimension)⟩

/-! ## Decided winners -/

section Winners

variable [PyRuntime] {matrix : RatedMatrix}

theorem decidedWinner_eq_some {dimension winner : String} :
    decidedWinner matrix dimension = some winner ↔
      matrix.winnerByDimension.get? dimension = some winner ∧
        isDecided (some winner) = true := by
  rw [decidedWinner, Option.filter_eq_some_iff]

theorem isDecided_eq_false {dimension : String} :
    isDecided (matrix.winnerByDimension.get? dimension) = false ↔
      decidedWinner matrix dimension = none := by
  rw [decidedWinner]
  cases matrix.winnerByDimension.get? dimension with
  | none => simp [isDecided]
  | some winner => simp [Option.filter_eq_none_iff]

theorem winner_ne_empty {dimension winner : String}
    (decided : decidedWinner matrix dimension = some winner) :
    winner ≠ "" := by
  have isDecided := (decidedWinner_eq_some.mp decided).2
  simp only [CompetiScope.isDecided, Bool.and_eq_true,
    decide_eq_true_eq] at isDecided
  exact isDecided.1

theorem tiedOrUnresolvedDimensions_eq_nil :
    tiedOrUnresolvedDimensions matrix = [] ↔
      ∀ dimension ∈ matrix.dimensions,
        decidedWinner matrix dimension ≠ none := by
  rw [tiedOrUnresolvedDimensions, List.filter_eq_nil_iff]
  apply forall₂_congr
  intro dimension _
  rw [ne_eq, ← isDecided_eq_false]
  simp

end Winners

/-! ## Counting winners -/

theorem mem_keys_winnerCounts {cards : List DecisionCard} {winner : String} :
    winner ∈ (winnerCounts cards).keys ↔
      winner ≠ "" ∧ ∃ card ∈ cards, card.winner = some winner := by
  have counted := Dict.mem_keys_foldl_set (id : String → String)
    (fun counts winner => counts.getD winner 0 + 1)
    (cards.filterMap fun card => card.winner.filter (· ≠ "")) ∅ winner
  apply counted.trans
  simp only [id, List.mem_filterMap, Option.filter_eq_some_iff]
  constructor
  · intro isKey
    rcases isKey with isKey | ⟨_, ⟨card, member, named, filled⟩, rfl⟩
    · cases isKey
    · exact ⟨by simpa using filled, card, member, named⟩
  · rintro ⟨filled, card, member, named⟩
    exact .inr ⟨winner, ⟨card, member, named, by simpa using filled⟩, rfl⟩

theorem singleSupportedWinner_eq_some {counts : Dict String Nat}
    {winner : String} :
    singleSupportedWinner counts = some winner ↔
      winner ∈ counts.keys ∧ ∀ other ∈ counts.keys, other = winner := by
  have distinct : counts.keys.Nodup := counts.keysNodup
  unfold singleSupportedWinner
  match counts.keys, distinct with
  | [], _ => simp
  | [only], _ =>
      simp [eq_comm]
  | first :: second :: others, distinct =>
      constructor
      · intro found
        cases found
      · intro sole
        have same : first = second :=
          (sole.2 first (by simp)).trans (sole.2 second (by simp)).symm
        simp [same] at distinct

/-! ## The cards of the dimensions -/

theorem capConfidence_fallback (confidence : Rat) :
    capConfidence confidence true ≤ fallbackConfidenceCap :=
  min_le_right _ _

section Cards

variable [PyRuntime] {sha256Hex : String → String} {runId : String}
  {fallbackUsed : Bool} {matrix : RatedMatrix}
  {claimBundles : List ClaimCardBundle}

/-- What a card of a dimension can be. -/
inductive DimensionCardOf (sha256Hex : String → String) (runId : String)
    (fallbackUsed : Bool) (matrix : RatedMatrix)
    (claimBundles : List ClaimCardBundle) (dimension : String) :
    DecisionCard → Prop where
  | winner {name : String} {claim : ClaimCard} {others : List ClaimCard}
      (cell : Option RatedCell)
      (decided : decidedWinner matrix dimension = some name)
      (ofWinner : ∀ cited ∈ claim :: others,
        cited ∈ supportedClaims claimBundles ∧
          cited.competitor = name ∧ cited.dimension = dimension) :
      DimensionCardOf sha256Hex runId fallbackUsed matrix claimBundles
        dimension (dimensionWinnerCard sha256Hex runId fallbackUsed dimension
          name matrix.competitors claim others cell)
  | riskAdjusted {claim : ClaimCard} {others : List ClaimCard}
      (named : Option String)
      (onDimension : ∀ cited ∈ claim :: others,
        cited ∈ supportedClaims claimBundles ∧
          cited.dimension = dimension) :
      DimensionCardOf sha256Hex runId fallbackUsed matrix claimBundles
        dimension (dimensionRiskAdjustedCard sha256Hex runId fallbackUsed
          dimension named claim others matrix.competitors)

theorem dimensionCardOf {dimension : String} {card : DecisionCard}
    (isCard : dimensionCard sha256Hex runId fallbackUsed matrix
      (supportedClaimsByKey claimBundles) dimension = some card) :
    DimensionCardOf sha256Hex runId fallbackUsed matrix claimBundles
      dimension card := by
  unfold dimensionCard at isCard
  dsimp only at isCard
  split at isCard
  · next decided =>
      split at isCard
      · cases isCard
      · next claim others found =>
          cases isCard
          cases named : matrix.winnerByDimension.get? dimension with
          | none =>
              rw [named] at decided
              cases decided
          | some winner =>
              rw [named] at found decided
              refine .winner _ (decidedWinner_eq_some.mpr
                ⟨named, decided⟩) ?_
              intro cited member
              rw [← found] at member
              exact mem_getD_supportedClaimsByKey.mp member
  · split at isCard
    · cases isCard
    · next claim others found =>
        cases isCard
        refine .riskAdjusted _ ?_
        intro cited member
        rw [← found] at member
        exact of_mem_claimsOfDimension member

variable (sha256Hex runId fallbackUsed) in
/-- A supported win gets its card. -/
theorem WonBy.exists_card {winner dimension : String} {claim : ClaimCard}
    (won : WonBy matrix claimBundles winner dimension claim) :
    ∃ card, dimensionCard sha256Hex runId fallbackUsed matrix
        (supportedClaimsByKey claimBundles) dimension = some card ∧
      card.decisionType = .dimensionWinner ∧ card.winner = some winner ∧
        claim.id ∈ card.claimCardIds := by
  have spec := decidedWinner_eq_some.mp won.decided
  have cited : claim ∈ (supportedClaimsByKey claimBundles).getD
      (winner, dimension) [] :=
    mem_getD_supportedClaimsByKey.mpr
      ⟨won.supported, won.ofWinner, won.onDimension⟩
  unfold dimensionCard
  dsimp only
  rw [spec.1, if_pos spec.2, Option.getD_some]
  split
  · next missing =>
      rw [missing] at cited
      cases cited
  · next first others found =>
      rw [found] at cited
      exact ⟨_, rfl, rfl, rfl, List.mem_map_of_mem cited⟩

theorem DimensionCardOf.cites {dimension : String} {card : DecisionCard}
    (isCard : DimensionCardOf sha256Hex runId fallbackUsed matrix
      claimBundles dimension card) :
    ∃ claims, CitesClaims claimBundles card claims := by
  cases isCard with
  | winner cell decided ofWinner =>
      exact ⟨_,
        { filled := List.cons_ne_nil _ _
          supported := fun claim member => (ofWinner claim member).1
          onDimension := fun claim member =>
            List.mem_singleton.mpr (ofWinner claim member).2.2
          sameIds := .refl _
          sameSources := .merged _ }⟩
  | riskAdjusted named onDimension =>
      exact ⟨_,
        { filled := List.cons_ne_nil _ _
          supported := fun claim member => (onDimension claim member).1
          onDimension := fun claim member =>
            List.mem_singleton.mpr (onDimension claim member).2
          sameIds := .refl _
          sameSources := .merged _ }⟩

/-- A fallback is neither strong nor confident. -/
def Capped (fallbackUsed : Bool) (card : DecisionCard) : Prop :=
  fallbackUsed = true →
    card.posture ≠ .strong ∧ card.confidence ≤ fallbackConfidenceCap

omit [PyRuntime] in
theorem capped_of_fields {card : DecisionCard} {strength : EvidenceStrength}
    {confidence raw : Rat}
    (posture : card.posture = .strong →
      postureForDecision strength confidence fallbackUsed = .strong)
    (capped : card.confidence = capConfidence raw fallbackUsed) :
    Capped fallbackUsed card := by
  intro isFallback
  subst isFallback
  constructor
  · intro strong
    cases (postureForDecision_strong (posture strong)).1
  · rw [capped]
    exact capConfidence_fallback raw

theorem DimensionCardOf.capped {dimension : String} {card : DecisionCard}
    (isCard : DimensionCardOf sha256Hex runId fallbackUsed matrix
      claimBundles dimension card) : Capped fallbackUsed card := by
  cases isCard with
  | winner cell decided ofWinner => exact capped_of_fields id rfl
  | riskAdjusted named onDimension => exact capped_of_fields id rfl

theorem mem_dimensionCards {card : DecisionCard} :
    card ∈ dimensionCards sha256Hex runId fallbackUsed matrix claimBundles ↔
      ∃ dimension ∈ matrix.dimensions,
        dimensionCard sha256Hex runId fallbackUsed matrix
          (supportedClaimsByKey claimBundles) dimension = some card := by
  rw [dimensionCards, List.mem_filterMap]

theorem mem_dimensionWinnerCards {card : DecisionCard} :
    card ∈ dimensionWinnerCards sha256Hex runId fallbackUsed matrix
        claimBundles ↔
      (∃ dimension ∈ matrix.dimensions,
        dimensionCard sha256Hex runId fallbackUsed matrix
          (supportedClaimsByKey claimBundles) dimension = some card) ∧
        card.decisionType = .dimensionWinner := by
  rw [dimensionWinnerCards, List.mem_filter, mem_dimensionCards]
  simp

/-- The claims of a winner card are supported wins. -/
theorem wonBy_of_card {card : DecisionCard} {winner id : String}
    (isWinner : card ∈ dimensionWinnerCards sha256Hex runId fallbackUsed
      matrix claimBundles)
    (named : card.winner = some winner) (cited : id ∈ card.claimCardIds) :
    ∃ dimension claim, WonBy matrix claimBundles winner dimension claim ∧
      claim.id = id := by
  obtain ⟨⟨dimension, requested, found⟩, kind⟩ :=
    mem_dimensionWinnerCards.mp isWinner
  cases dimensionCardOf found with
  | winner cell decided ofWinner =>
      cases named
      rcases List.mem_map.mp cited with ⟨claim, member, sameId⟩
      have spec := ofWinner claim member
      exact ⟨dimension, claim,
        { requested := requested
          decided := decided
          supported := spec.1
          ofWinner := spec.2.1
          onDimension := spec.2.2 }, sameId⟩
  | riskAdjusted named onDimension => cases kind

variable (sha256Hex runId fallbackUsed) in
theorem winnerCard_of_wonBy {winner dimension : String} {claim : ClaimCard}
    (won : WonBy matrix claimBundles winner dimension claim) :
    ∃ card ∈ dimensionWinnerCards sha256Hex runId fallbackUsed matrix
        claimBundles,
      card.winner = some winner ∧ claim.id ∈ card.claimCardIds := by
  obtain ⟨card, found, kind, named, cited⟩ :=
    won.exists_card sha256Hex runId fallbackUsed
  exact ⟨card, mem_dimensionWinnerCards.mpr
    ⟨⟨dimension, won.requested, found⟩, kind⟩, named, cited⟩

/-- The claims that the cards of a winner cite. -/
def winnerClaimIds (cards : List DecisionCard) (winner : String) :
    List String :=
  mergeOrderedRefs [(cards.filter fun card =>
    card.winner = some winner).flatMap (·.claimCardIds)]

theorem mem_keys_of_wonBy {winner : String} :
    winner ∈ (winnerCounts (dimensionWinnerCards sha256Hex runId
        fallbackUsed matrix claimBundles)).keys ↔
      ∃ dimension claim, WonBy matrix claimBundles winner dimension claim := by
  rw [mem_keys_winnerCounts]
  constructor
  · rintro ⟨-, card, isWinner, named⟩
    obtain ⟨id, cited⟩ := List.exists_mem_of_ne_nil _ card.supported
    obtain ⟨dimension, claim, won, -⟩ := wonBy_of_card isWinner named cited
    exact ⟨dimension, claim, won⟩
  · rintro ⟨dimension, claim, won⟩
    obtain ⟨card, isWinner, named, -⟩ :=
      winnerCard_of_wonBy sha256Hex runId fallbackUsed won
    exact ⟨winner_ne_empty won.decided, card, isWinner, named⟩

theorem winnerClaimIds_ne_nil {winner : String} :
    winnerClaimIds (dimensionWinnerCards sha256Hex runId fallbackUsed matrix
        claimBundles) winner ≠ [] ↔
      ∃ dimension claim, WonBy matrix claimBundles winner dimension claim ∧
        strip claim.id ≠ "" := by
  constructor
  · intro filled
    obtain ⟨id, isMerged⟩ := List.exists_mem_of_ne_nil _ filled
    obtain ⟨ref, isRef, stripped, visible⟩ := mem_mergeOrderedRefs.mp isMerged
    rw [List.flatten_singleton] at isRef
    rcases List.mem_flatMap.mp isRef with ⟨card, isCard, cited⟩
    rcases List.mem_filter.mp isCard with ⟨isWinner, named⟩
    obtain ⟨dimension, claim, won, sameId⟩ :=
      wonBy_of_card isWinner (by simpa using named) cited
    refine ⟨dimension, claim, won, ?_⟩
    rw [sameId, stripped]
    exact visible
  · rintro ⟨dimension, claim, won, visible⟩
    obtain ⟨card, isWinner, named, cited⟩ :=
      winnerCard_of_wonBy sha256Hex runId fallbackUsed won
    apply List.ne_nil_of_mem (a := strip claim.id)
    apply mem_mergeOrderedRefs.mpr
    refine ⟨claim.id, ?_, rfl, visible⟩
    rw [List.flatten_singleton]
    exact List.mem_flatMap.mpr ⟨card,
      List.mem_filter.mpr ⟨isWinner, by simpa using named⟩, cited⟩

variable (sha256Hex runId fallbackUsed) in
theorem soleSupportedWinner_iff {winner : String} :
    SoleSupportedWinner matrix claimBundles winner ↔
      singleSupportedWinner (winnerCounts (dimensionWinnerCards sha256Hex
          runId fallbackUsed matrix claimBundles)) = some winner ∧
        winnerClaimIds (dimensionWinnerCards sha256Hex runId fallbackUsed
          matrix claimBundles) winner ≠ [] := by
  rw [singleSupportedWinner_eq_some, winnerClaimIds_ne_nil,
    mem_keys_of_wonBy]
  simp only [mem_keys_of_wonBy]
  constructor
  · intro sole
    obtain ⟨dimension, claim, won, visible⟩ := sole.won
    refine ⟨⟨⟨dimension, claim, won⟩, ?_⟩, dimension, claim, won, visible⟩
    rintro other ⟨dimension, claim, won⟩
    exact sole.alone other dimension claim won
  · rintro ⟨⟨-, alone⟩, won⟩
    exact
      { won := won
        alone := fun other dimension claim won =>
          alone other ⟨dimension, claim, won⟩ }

/-! ## The cards over all dimensions -/

omit [PyRuntime] in
/-- A card over others cites what they cite. -/
theorem cites_of_cards {card : DecisionCard} {cards : List DecisionCard}
    (filled : cards ≠ [])
    (each : ∀ part ∈ cards, ∃ claims, CitesClaims claimBundles part claims)
    (sameIds : card.claimCardIds =
      mergeOrderedRefs [cards.flatMap (·.claimCardIds)])
    (sameSources : card.sourceIds =
      mergeOrderedRefs [cards.flatMap (·.sourceIds)])
    (dimensions : ∀ part ∈ cards, ∀ dimension ∈ part.dimensions,
      dimension ∈ card.dimensions) :
    ∃ claims, CitesClaims claimBundles card claims := by
  choose! claims cites using each
  refine ⟨cards.flatMap claims, ?_⟩
  have ofPart : ∀ claim ∈ cards.flatMap claims,
      ∃ part ∈ cards, claim ∈ claims part :=
    fun claim member => List.mem_flatMap.mp member
  exact
    { filled := by
        obtain ⟨part, isPart⟩ := List.exists_mem_of_ne_nil _ filled
        obtain ⟨claim, isClaim⟩ :=
          List.exists_mem_of_ne_nil _ (cites part isPart).filled
        exact List.ne_nil_of_mem
          (List.mem_flatMap.mpr ⟨part, isPart, isClaim⟩)
      supported := by
        intro claim member
        obtain ⟨part, isPart, isClaim⟩ := ofPart claim member
        exact (cites part isPart).supported claim isClaim
      onDimension := by
        intro claim member
        obtain ⟨part, isPart, isClaim⟩ := ofPart claim member
        exact dimensions part isPart _
          ((cites part isPart).onDimension claim isClaim)
      sameIds := by
        rw [sameIds, List.map_flatMap]
        apply (SameRefs.merged _).trans
        exact .flatMap fun part isPart => (cites part isPart).sameIds
      sameSources := by
        rw [sameSources, List.flatMap_assoc]
        apply (SameRefs.merged _).trans
        exact .flatMap fun part isPart => (cites part isPart).sameSources }

/-- What an overall recommendation is. -/
structure OverallRecommendation (fallbackUsed : Bool)
    (cards : List DecisionCard) (winner : String) (card : DecisionCard) :
    Prop where
  kind : card.decisionType = .overallRecommendation
  named : card.winner = some winner
  sameIds : card.claimCardIds = winnerClaimIds cards winner
  sameSources : card.sourceIds = mergeOrderedRefs [(cards.filter fun card =>
    card.winner = some winner).flatMap (·.sourceIds)]
  dimensions : card.dimensions = (cards.filter fun card =>
    card.winner = some winner).map (·.subject)
  capped : Capped fallbackUsed card

theorem overallRecommendationCard_spec {cards : List DecisionCard}
    {counts : Dict String Nat} {card : DecisionCard}
    (isCard : overallRecommendationCard sha256Hex runId fallbackUsed matrix
      cards counts = some card) :
    ∃ winner, singleSupportedWinner counts = some winner ∧
      winnerClaimIds cards winner ≠ [] ∧
        OverallRecommendation fallbackUsed cards winner card := by
  unfold overallRecommendationCard at isCard
  split at isCard
  · cases isCard
  · split at isCard
    · cases isCard
    · next winner single =>
        dsimp only at isCard
        split at isCard
        · cases isCard
        · next supported =>
            cases isCard
            exact ⟨winner, single, supported,
              { kind := rfl
                named := rfl
                sameIds := rfl
                sameSources := rfl
                dimensions := rfl
                capped :=
                  capped_of_fields overallPostureForDecision_strong rfl }⟩

variable (sha256Hex runId fallbackUsed matrix) in
theorem overallRecommendationCard_isSome {cards : List DecisionCard}
    {counts : Dict String Nat} {winner : String}
    (single : singleSupportedWinner counts = some winner)
    (supported : winnerClaimIds cards winner ≠ []) :
    ∃ card, overallRecommendationCard sha256Hex runId fallbackUsed matrix
      cards counts = some card := by
  have filled : cards ≠ [] := by
    intro empty
    rw [empty] at supported
    exact supported rfl
  unfold overallRecommendationCard
  rw [if_neg filled, single]
  unfold winnerClaimIds at supported
  dsimp only
  rw [dif_neg supported]
  exact ⟨_, rfl⟩

theorem overallRiskAdjustedCard_spec {cards : List DecisionCard}
    {counts : Dict String Nat} {card : DecisionCard}
    (isCard : overallRiskAdjustedCard sha256Hex runId fallbackUsed matrix
      cards counts = some card) :
    cards ≠ [] ∧ card.decisionType = .riskAdjustedRecommendation ∧
      card.claimCardIds = mergeOrderedRefs [cards.flatMap (·.claimCardIds)] ∧
        card.sourceIds = mergeOrderedRefs [cards.flatMap (·.sourceIds)] ∧
          card.dimensions = cards.flatMap (·.dimensions) ∧
            Capped fallbackUsed card := by
  unfold overallRiskAdjustedCard at isCard
  dsimp only at isCard
  split at isCard
  · cases isCard
  · next filled =>
      split at isCard
      · cases isCard
      · split at isCard
        · cases isCard
        · cases isCard
          refine ⟨filled, rfl, rfl, rfl, rfl, ?_⟩
          exact @capped_of_fields fallbackUsed _ .strong 0 _ nofun rfl

/-- The card over all dimensions is a recommendation of a sole supported
winner, when no dimension is tied or unresolved, or a risk-adjusted one. -/
theorem overallCard_cases {card : DecisionCard}
    (isCard : overallCard sha256Hex runId fallbackUsed matrix claimBundles =
      some card) :
    (tiedOrUnresolvedDimensions matrix = [] ∧
      overallRecommendationCard sha256Hex runId fallbackUsed matrix
        (dimensionWinnerCards sha256Hex runId fallbackUsed matrix
          claimBundles) (winnerCounts (dimensionWinnerCards sha256Hex runId
            fallbackUsed matrix claimBundles)) = some card) ∨
      overallRiskAdjustedCard sha256Hex runId fallbackUsed matrix
        (dimensionCards sha256Hex runId fallbackUsed matrix claimBundles)
        (winnerCounts (dimensionWinnerCards sha256Hex runId fallbackUsed
          matrix claimBundles)) = some card := by
  unfold overallCard at isCard
  dsimp only at isCard
  rcases Option.or_eq_some_iff.mp isCard with recommended | ⟨-, adjusted⟩
  · split at recommended
    · next decided => exact .inl ⟨decided, recommended⟩
    · cases recommended
  · exact .inr adjusted

theorem overallCard_cites {card : DecisionCard}
    (isCard : overallCard sha256Hex runId fallbackUsed matrix claimBundles =
      some card) : ∃ claims, CitesClaims claimBundles card claims := by
  have each : ∀ part ∈ dimensionCards sha256Hex runId fallbackUsed matrix
      claimBundles, ∃ claims, CitesClaims claimBundles part claims := by
    intro part isPart
    obtain ⟨dimension, -, found⟩ := mem_dimensionCards.mp isPart
    exact (dimensionCardOf found).cites
  rcases overallCard_cases isCard with ⟨-, recommended⟩ | adjusted
  · obtain ⟨winner, -, cited, recommendation⟩ :=
      overallRecommendationCard_spec recommended
    apply cites_of_cards _ _ recommendation.sameIds
      recommendation.sameSources
    · intro part isPart dimension isDimension
      have isWinner := (List.mem_filter.mp isPart).1
      obtain ⟨⟨requested, -, found⟩, kind⟩ :=
        mem_dimensionWinnerCards.mp isWinner
      rw [recommendation.dimensions]
      apply List.mem_map.mpr
      refine ⟨part, isPart, ?_⟩
      cases dimensionCardOf found with
      | winner cell decided ofWinner =>
          exact (List.mem_singleton.mp isDimension).symm
      | riskAdjusted named onDimension => cases kind
    · intro empty
      rw [winnerClaimIds, empty] at cited
      exact cited rfl
    · intro part isPart
      apply each
      exact (List.mem_filter.mp (List.mem_filter.mp isPart).1).1
  · obtain ⟨filled, -, sameIds, sameSources, dimensions, -⟩ :=
      overallRiskAdjustedCard_spec adjusted
    apply cites_of_cards filled each sameIds sameSources
    intro part isPart dimension isDimension
    rw [dimensions]
    exact List.mem_flatMap.mpr ⟨part, isPart, isDimension⟩

theorem overallCard_capped {card : DecisionCard}
    (isCard : overallCard sha256Hex runId fallbackUsed matrix claimBundles =
      some card) : Capped fallbackUsed card := by
  rcases overallCard_cases isCard with ⟨-, recommended⟩ | adjusted
  · obtain ⟨_, -, -, recommendation⟩ :=
      overallRecommendationCard_spec recommended
    exact recommendation.capped
  · exact (overallRiskAdjustedCard_spec adjusted).2.2.2.2.2

variable (sha256Hex runId fallbackUsed) in
/-- Who the overall recommendation is for. -/
theorem overallRecommendation_iff {winner : String} :
    (∃ card, overallCard sha256Hex runId fallbackUsed matrix claimBundles =
        some card ∧ card.decisionType = .overallRecommendation ∧
          card.winner = some winner) ↔
      (∀ dimension ∈ matrix.dimensions,
          decidedWinner matrix dimension ≠ none) ∧
        SoleSupportedWinner matrix claimBundles winner := by
  rw [← tiedOrUnresolvedDimensions_eq_nil,
    soleSupportedWinner_iff sha256Hex runId fallbackUsed]
  constructor
  · rintro ⟨card, isCard, kind, named⟩
    rcases overallCard_cases isCard with ⟨decided, recommended⟩ | adjusted
    · obtain ⟨other, single, cited, recommendation⟩ :=
        overallRecommendationCard_spec recommended
      cases recommendation.named.symm.trans named
      exact ⟨decided, single, cited⟩
    · rw [(overallRiskAdjustedCard_spec adjusted).2.1] at kind
      cases kind
  · rintro ⟨decided, single, cited⟩
    obtain ⟨card, recommended⟩ :=
      overallRecommendationCard_isSome sha256Hex runId fallbackUsed matrix
        single cited
    obtain ⟨other, otherSingle, -, recommendation⟩ :=
      overallRecommendationCard_spec recommended
    cases single.symm.trans otherSingle
    refine ⟨card, ?_, recommendation.kind, recommendation.named⟩
    unfold overallCard
    dsimp only
    rw [if_pos decided, recommended]
    rfl

/-! ## The bundle -/

theorem mem_buildDecisionCardBundle {card : DecisionCard} :
    card ∈ (buildDecisionCardBundle sha256Hex runId fallbackUsed matrix
        claimBundles).cards ↔
      (∃ dimension ∈ matrix.dimensions,
        dimensionCard sha256Hex runId fallbackUsed matrix
          (supportedClaimsByKey claimBundles) dimension = some card) ∨
        overallCard sha256Hex runId fallbackUsed matrix claimBundles =
          some card := by
  rw [buildDecisionCardBundle, List.mem_append, mem_dimensionCards,
    Option.mem_toList]

theorem DimensionCardOf.kind {dimension : String} {card : DecisionCard}
    (isCard : DimensionCardOf sha256Hex runId fallbackUsed matrix
      claimBundles dimension card) :
    card.decisionType ≠ .overallRecommendation := by
  cases isCard with
  | winner cell decided ofWinner => exact nofun
  | riskAdjusted named onDimension => exact nofun

end Cards

/-- A bundle is sound when no unsupported win of another competitor stands
beside the wins of a sole supported winner. -/
theorem buildDecisionCardBundle_sound_iff [PyRuntime]
    (sha256Hex : String → String) (runId : String) (fallbackUsed : Bool)
    (matrix : RatedMatrix) (claimBundles : List ClaimCardBundle) :
    BundleSound matrix claimBundles fallbackUsed
        (buildDecisionCardBundle sha256Hex runId fallbackUsed matrix
          claimBundles) ↔
      UndisputedLead matrix claimBundles := by
  constructor
  · intro sound decided winner sole
    obtain ⟨card, isCard, kind, named⟩ :=
      (overallRecommendation_iff sha256Hex runId fallbackUsed).mpr
        ⟨decided, sole⟩
    obtain ⟨recommended, isNamed, wins⟩ := sound.overall card
      (mem_buildDecisionCardBundle.mpr (.inr isCard)) kind
    cases named.symm.trans isNamed
    exact wins
  · intro undisputed
    constructor
    case overall =>
      intro card isCard kind
      rcases mem_buildDecisionCardBundle.mp isCard with
        ⟨dimension, -, found⟩ | found
      · exact absurd kind (dimensionCardOf found).kind
      · rcases overallCard_cases found with ⟨-, recommended⟩ | adjusted
        · obtain ⟨winner, -, -, recommendation⟩ :=
            overallRecommendationCard_spec recommended
          obtain ⟨decided, sole⟩ :=
            (overallRecommendation_iff sha256Hex runId fallbackUsed).mp
            ⟨card, found, kind, recommendation.named⟩
          exact ⟨winner, recommendation.named,
            undisputed decided winner sole⟩
        · rw [(overallRiskAdjustedCard_spec adjusted).2.1] at kind
          cases kind
    case cited =>
      intro card isCard
      rcases mem_buildDecisionCardBundle.mp isCard with
        ⟨dimension, -, found⟩ | found
      · exact (dimensionCardOf found).cites
      · exact overallCard_cites found
    case recommended =>
      intro id named
      rcases Option.map_eq_some_iff.mp named with ⟨card, found, sameId⟩
      exact ⟨card, mem_buildDecisionCardBundle.mpr (.inr found), sameId⟩
    case capped =>
      intro isFallback card isCard
      rcases mem_buildDecisionCardBundle.mp isCard with
        ⟨dimension, -, found⟩ | found
      · exact (dimensionCardOf found).capped isFallback
      · exact overallCard_capped found isFallback

namespace RecommendationExample

local instance recommendationRuntime : PyRuntime := asciiRuntime

theorem bounds : (0 : Rat) ≤ 9 / 10 ∧ (9 : Rat) / 10 ≤ 1 := by
  decide +kernel

def claim : ClaimCard :=
  { id := "c1"
    competitor := "Cursor"
    dimension := "pricing"
    sourceIds := ["s1"]
    confidence := 9 / 10
    evidenceStrength := .strong
    supportLevel := .official
    bounded := bounds
    sourced := by decide
    gapUnlessSourced := by decide
    gapInsufficient := by decide }

def claimBundles : List ClaimCardBundle :=
  [{ competitor := "Cursor"
     dimension := "pricing"
     cards := [claim] }]

/-- Copilot wins on security, where no claim supports it. -/
def matrix : RatedMatrix :=
  { competitors := ["Cursor", "Copilot"]
    dimensions := ["pricing", "security"]
    winnerByDimension :=
      (Dict.empty.set "pricing" "Cursor").set "security" "Copilot" }

theorem supportedClaims_eq : supportedClaims claimBundles = [claim] :=
  rfl

theorem sole : SoleSupportedWinner matrix claimBundles "Cursor" :=
  { won := ⟨"pricing", claim,
      { requested := by decide
        decided := by decide +kernel
        supported := by
          rw [supportedClaims_eq]
          exact List.mem_cons_self
        ofWinner := rfl
        onDimension := rfl }, by decide +kernel⟩
    alone := by
      intro other dimension cited won
      have isClaim := won.supported
      rw [supportedClaims_eq, List.mem_singleton] at isClaim
      rw [← won.ofWinner, isClaim]
      rfl }

/-- Cursor is the overall recommendation all the same. -/
theorem unsupported_win_ignored :
    ¬ BundleSound matrix claimBundles false (buildDecisionCardBundle
      (fun _ => "0123456789abcdef") "r1" false matrix claimBundles) := by
  intro sound
  have decided : ∀ dimension ∈ matrix.dimensions,
      decidedWinner matrix dimension ≠ none := by
    decide +kernel
  obtain ⟨card, isCard, kind, named⟩ :=
    (overallRecommendation_iff _ _ _).mpr ⟨decided, sole⟩
  obtain ⟨winner, isNamed, wins⟩ := sound.overall card
    (mem_buildDecisionCardBundle.mpr (.inr isCard)) kind
  cases named.symm.trans isNamed
  have notSecurity : decidedWinner matrix "security" ≠ some "Cursor" := by
    decide +kernel
  exact notSecurity (wins "security" (by decide))

end RecommendationExample

end CompetiScope
