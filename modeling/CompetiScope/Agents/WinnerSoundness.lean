import CompetiScope.Agents.MatrixWinners

/-!
# Soundness of the matrix winners

Every signal of a dimension names a competitor with an official source in its
cell, so the vote does too.  Each signal is a sole leader of scores, so it does
not depend on the order of the competitors.
-/

namespace CompetiScope

open Foundation

section

variable [PyRuntime]

/-- The cell has a source of known id that is not of the community. -/
def HasOfficialSource (detail : RunDetail) (cell : ComparisonCell) : Prop :=
  ∃ id ∈ cell.sourceIds, ∃ source,
    (rawSourceById detail).get? id = some source ∧
      matrixSourceIsOfficialSignal source = true

/-- The matrix has a cell for the competitor and dimension, and it has an
official source. -/
def OfficiallyCovered (detail : RunDetail) (matrix : ComparisonMatrix)
    (dimension competitor : String) : Prop :=
  (∃ cell ∈ matrix.cells, cell.dimension = dimension ∧
    cell.competitor = competitor) ∧
  ∀ cell ∈ matrix.cells, cell.dimension = dimension →
    cell.competitor = competitor → HasOfficialSource detail cell

/-- The run with its competitors in another order. -/
def withCompetitors (detail : RunDetail) (competitors : List String) :
    RunDetail :=
  { detail with plan := { detail.plan with competitors := competitors } }

/-- What is promised of the winners of a run for an answer of the model. -/
structure SoundWinners (library : MatrixLibrary) (detail : RunDetail)
    (payload : Dict String Json) (fallbackUsed : Bool) : Prop where
  keys : ∀ dimension,
    dimension ∈ (buildComparisonMatrix library detail payload
      fallbackUsed).winnerByDimension.keys ↔
        dimension ∈ detail.plan.dimensions
  values : ∀ dimension winner,
    (buildComparisonMatrix library detail payload
      fallbackUsed).winnerByDimension.get? dimension = some winner →
    winner = "tie" ∨ winner ∈ detail.plan.competitors
  covered : ∀ dimension winner,
    (buildComparisonMatrix library detail payload
      fallbackUsed).winnerByDimension.get? dimension = some winner →
    winner ≠ "tie" →
    OfficiallyCovered detail (buildComparisonMatrix library detail payload
      fallbackUsed) dimension winner
  fallbackCovered : fallbackUsed = true → ∀ dimension winner,
    (buildComparisonMatrix library detail payload
      fallbackUsed).winnerByDimension.get? dimension = some winner →
    winner ≠ "tie" → ∀ competitor ∈ detail.plan.competitors,
    OfficiallyCovered detail (buildComparisonMatrix library detail payload
      fallbackUsed) dimension competitor
  cellsPermuted : ∀ competitors, detail.plan.competitors.Perm competitors →
    (buildComparisonMatrix library detail payload fallbackUsed).cells.Perm
      (buildComparisonMatrix library (withCompetitors detail competitors)
        payload fallbackUsed).cells
  orderFree : ∀ competitors, detail.plan.competitors.Perm competitors →
    (buildComparisonMatrix library (withCompetitors detail competitors)
        payload fallbackUsed).winnerByDimension =
      (buildComparisonMatrix library detail payload
        fallbackUsed).winnerByDimension

/-! ## Numeric signals -/

section Numeric

variable {Score : Type} [LinearOrder Score] [Zero Score]

omit [PyRuntime] in
/-- A numeric signal is the tie or a key with a positive score. -/
theorem winnerFromNumericSignal_cases {scores : Dict String Score}
    {winner : String}
    (found : winnerFromNumericSignal scores = some winner) :
    winner = "tie" ∨
      ∃ score, scores.get? winner = some score ∧ 0 < score := by
  unfold winnerFromNumericSignal at found
  dsimp only at found
  split at found
  case isTrue => cases found
  case isFalse =>
    rw [← Option.some.inj found]
    rcases soleOr_eq_or_mem "tie" (leaders (scores.entries.filter
      fun entry => 0 < entry.2)) with tie | leads
    · exact .inl tie
    · obtain ⟨score, member⟩ := mem_of_mem_leaders leads
      rw [List.mem_filter, decide_eq_true_eq, Dict.mem_entries] at member
      exact .inr ⟨score, member⟩

omit [PyRuntime] in
/-- A numeric signal depends on the scores alone, not on their order. -/
theorem winnerFromNumericSignal_congr {first second : Dict String Score}
    (same : ∀ key, first.get? key = second.get? key) :
    winnerFromNumericSignal first = winnerFromNumericSignal second := by
  have permutation := (perm_entries_of_get? same).filter
    fun entry => decide (0 < entry.2)
  unfold winnerFromNumericSignal
  dsimp only
  rw [soleOr_perm "tie" (leaders_perm permutation)]
  have sameEmpty : (first.entries.filter fun entry =>
        decide (0 < entry.2)).isEmpty =
      (second.entries.filter fun entry => decide (0 < entry.2)).isEmpty := by
    rw [Bool.eq_iff_iff, List.isEmpty_iff, List.isEmpty_iff,
      ← List.length_eq_zero_iff, permutation.length_eq,
      List.length_eq_zero_iff]
  rw [sameEmpty]

omit [PyRuntime] in
theorem winnerFromNumericSignal_scoresOf_congr {score other : String → Score}
    {keys more : List String} (permutation : keys.Perm more)
    (same : ∀ key ∈ keys, score key = other key) :
    winnerFromNumericSignal (scoresOf score keys) =
      winnerFromNumericSignal (scoresOf other more) := by
  apply winnerFromNumericSignal_congr
  intro key
  rw [get?_scoresOf, get?_scoresOf]
  by_cases member : key ∈ keys
  · rw [if_pos member, if_pos (permutation.mem_iff.mp member),
      same key member]
  · rw [if_neg member,
      if_neg fun found => member (permutation.mem_iff.mpr found)]

omit [PyRuntime] in
theorem winnerFromNumericSignal_scoresOf_cases {score : String → Score}
    {keys : List String} {winner : String}
    (found : winnerFromNumericSignal (scoresOf score keys) = some winner) :
    winner = "tie" ∨ winner ∈ keys ∧ 0 < score winner := by
  rcases winnerFromNumericSignal_cases found with tie |
    ⟨value, isValue, positive⟩
  · exact .inl tie
  · rw [get?_scoresOf] at isValue
    split at isValue
    case isTrue member =>
      rw [Option.some.inj isValue]
      exact .inr ⟨member, positive⟩
    case isFalse => cases isValue

end Numeric

/-! ## Votes -/

omit [PyRuntime] in
theorem winnerFromVotes_cases {signals : Dict String String}
    {winner : String} (found : winnerFromVotes signals = some winner) :
    winner = "tie" ∨ winner ∈ signals.values := by
  have voted : ∀ entry ∈ mostCommon (signals.values.filter (· ≠ "tie")),
      entry.1 ∈ signals.values := fun entry member =>
    List.mem_of_mem_filter (mem_of_mem_mostCommon member)
  unfold winnerFromVotes at found
  split at found
  case h_1 =>
    split at found
    · exact .inl (Option.some.inj found).symm
    · cases found
  case h_2 isFirst =>
    rw [← Option.some.inj found]
    exact .inr (voted _ (by rw [isFirst]; exact List.mem_cons_self))
  case h_3 isFirst =>
    split at found
    · exact .inl (Option.some.inj found).symm
    · rw [← Option.some.inj found]
      exact .inr (voted _ (by rw [isFirst]; exact List.mem_cons_self))

theorem winnerFromMatrixSignals_cases {dimension winner : String}
    {signals : Dict String String}
    (found : winnerFromMatrixSignals dimension signals = some winner) :
    winner = "tie" ∨ winner ∈ signals.values := by
  unfold winnerFromMatrixSignals at found
  dsimp only at found
  split at found
  case isTrue =>
    split at found
    · cases found
    · exact .inl (Option.some.inj found).symm
  case isFalse => exact winnerFromVotes_cases found

/-! ## Cells -/

theorem mem_matrixCells {detail : RunDetail} {cell : ComparisonCell} :
    cell ∈ matrixCells detail ↔ ∃ dimension ∈ detail.plan.dimensions,
      ∃ competitor ∈ detail.plan.competitors,
        cell = matrixCellOf detail dimension competitor := by
  simp only [matrixCells, List.mem_flatMap, List.mem_map, eq_comm]

/-- The cell of the plan is found under its key. -/
theorem matrixCell_matrixCells {detail : RunDetail}
    {dimension competitor : String}
    (planned : dimension ∈ detail.plan.dimensions)
    (competes : competitor ∈ detail.plan.competitors) :
    matrixCell (matrixCells detail) dimension competitor =
      matrixCellOf detail dimension competitor := by
  have present : (dimension, competitor) ∈
      (cellByKey (matrixCells detail)).keys := by
    apply mem_keys_indexBy.mpr
    apply List.mem_map.mpr
    exact ⟨matrixCellOf detail dimension competitor,
      mem_matrixCells.mpr ⟨dimension, planned, competitor, competes, rfl⟩,
      rfl⟩
  obtain ⟨cell, found⟩ := Dict.mem_keys.mp present
  obtain ⟨member, sameKey⟩ := get?_indexBy found
  obtain ⟨itsDimension, -, itsCompetitor, -, isCell⟩ :=
    mem_matrixCells.mp member
  rw [isCell] at sameKey
  have dimensions : itsDimension = dimension := congrArg Prod.fst sameKey
  have competitors : itsCompetitor = competitor := congrArg Prod.snd sameKey
  rw [matrixCell, Dict.getD, found, Option.getD_some, isCell, dimensions,
    competitors]

/-! ## Every signal is supported -/

variable {library : MatrixLibrary} {detail : RunDetail}
variable {payloadWinners : Dict String String}
variable {dimension competitor : String}

omit [PyRuntime] in
theorem mem_officialSources {ids : List String} {source : RawSource} :
    source ∈ officialSources (rawSourceById detail) ids ↔
      ∃ id ∈ ids, (rawSourceById detail).get? id = some source ∧
        matrixSourceIsOfficialSignal source = true := by
  simp only [officialSources, List.mem_filterMap, Option.filter_eq_some_iff]

omit [PyRuntime] in
theorem hasOfficialSource_of_count {cell : ComparisonCell}
    (counted : 0 < officialMatrixSourceCount (rawSourceById detail) cell) :
    HasOfficialSource detail cell := by
  obtain ⟨source, member⟩ := List.exists_mem_of_length_pos counted
  obtain ⟨id, isId, found⟩ := mem_officialSources.mp member
  exact ⟨id, isId, source, found⟩

omit [PyRuntime] in
omit [PyRuntime] in
theorem hasOfficialSource_of_confidence {cell : ComparisonCell}
    (confident : 0 < officialMatrixConfidence library (rawSourceById detail)
      cell) :
    HasOfficialSource detail cell := by
  unfold officialMatrixConfidence at confident
  cases official : officialSources (rawSourceById detail) cell.sourceIds with
  | nil =>
      rw [official] at confident
      exact absurd confident (lt_irrefl 0)
  | cons source rest =>
      have member : source ∈
          officialSources (rawSourceById detail) cell.sourceIds := by
        rw [official]
        exact List.mem_cons_self
      obtain ⟨id, isId, found⟩ := mem_officialSources.mp member
      exact ⟨id, isId, source, found⟩

/-- A scoped source lies in the cell of its dimension and competitor. -/
theorem hasOfficialSource_of_scoped {id : String} {source : RawSource}
    (found : (rawSourceById detail).get? id = some source)
    (isScoped : matrixSourceIsScopedOfficialSignal dimension competitor
      source = true) :
    HasOfficialSource detail (matrixCellOf detail dimension competitor) := by
  rw [matrixSourceIsScopedOfficialSignal, Bool.and_eq_true,
    Bool.and_eq_true] at isScoped
  obtain ⟨⟨official, ofDimension⟩, matching⟩ := isScoped
  obtain ⟨isSource, sameId⟩ := get?_indexBy found
  have related : source ∈
      sourcesForCompetitorDimension detail competitor dimension := by
    apply List.mem_filter.mpr
    exact ⟨isSource, by rw [ofDimension, matching, Bool.and_true]⟩
  have inCell : id ∈ (matrixCellOf detail dimension competitor).sourceIds := by
    rw [← sameId]
    exact List.mem_map_of_mem related
  exact ⟨id, inCell, source, found, official⟩

theorem hasOfficialSource_of_findings
    (counted : 0 < officialMatrixFindingCount detail dimension competitor) :
    HasOfficialSource detail (matrixCellOf detail dimension competitor) := by
  unfold officialMatrixFindingCount at counted
  split at counted
  case h_1 => exact absurd counted (Nat.lt_irrefl 0)
  case h_2 kb isKb =>
    obtain ⟨finding, -, cites⟩ := List.countP_pos_iff.mp counted
    obtain ⟨id, -, isSource⟩ := List.any_eq_true.mp cites
    obtain ⟨source, found, isScoped⟩ := (Option.any_eq_true _ _).mp isSource
    exact hasOfficialSource_of_scoped found isScoped

/-- The tie, or a competitor of the plan with an official source. -/
def Supported (detail : RunDetail) (dimension winner : String) : Prop :=
  winner = "tie" ∨ winner ∈ detail.plan.competitors ∧
    HasOfficialSource detail (matrixCellOf detail dimension winner)

theorem evidenceWinner_supported {winner : String}
    (planned : dimension ∈ detail.plan.dimensions)
    (found : evidenceWinner detail (matrixCells detail) dimension =
      some winner) :
    Supported detail dimension winner := by
  rcases winnerFromNumericSignal_scoresOf_cases found with tie |
    ⟨competes, positive⟩
  · exact .inl tie
  · rw [matrixCell_matrixCells planned competes] at positive
    exact .inr ⟨competes, hasOfficialSource_of_count positive⟩

theorem confidenceWinner_supported {winner : String}
    (planned : dimension ∈ detail.plan.dimensions)
    (found : confidenceWinner library detail (matrixCells detail) dimension =
      some winner) :
    Supported detail dimension winner := by
  rcases winnerFromNumericSignal_scoresOf_cases found with tie |
    ⟨competes, positive⟩
  · exact .inl tie
  · rw [matrixCell_matrixCells planned competes] at positive
    exact .inr ⟨competes, hasOfficialSource_of_confidence positive⟩

theorem findingWinner_supported {winner : String}
    (found : findingWinner detail dimension = some winner) :
    Supported detail dimension winner := by
  rcases winnerFromNumericSignal_scoresOf_cases found with tie |
    ⟨competes, positive⟩
  · exact .inl tie
  · exact .inr ⟨competes, hasOfficialSource_of_findings positive⟩

theorem llmSignal_supported {winner : String}
    (planned : dimension ∈ detail.plan.dimensions)
    (found : llmSignal detail (matrixCells detail) payloadWinners dimension =
      some winner) :
    Supported detail dimension winner := by
  have admitted := (Option.filter_eq_some_iff.mp found).2
  rw [Bool.or_eq_true, decide_eq_true_eq, Bool.and_eq_true,
    List.contains_iff_mem] at admitted
  rcases admitted with tie | ⟨competes, signalled⟩
  · exact .inl tie
  · refine .inr ⟨competes, ?_⟩
    rw [matrixCompetitorHasScopedOfficialSignal, Bool.or_eq_true,
      matrixCell_matrixCells planned competes, List.any_eq_true,
      decide_eq_true_eq] at signalled
    rcases signalled with ⟨id, -, isSource⟩ | counted
    · obtain ⟨source, found, isScoped⟩ := (Option.any_eq_true _ _).mp isSource
      exact hasOfficialSource_of_scoped found isScoped
    · exact hasOfficialSource_of_findings counted

/-- Every signal is supported. -/
def SignalsSupported (detail : RunDetail) (dimension : String)
    (signals : Dict String String) : Prop :=
  ∀ name winner, signals.get? name = some winner →
    Supported detail dimension winner

theorem SignalsSupported.set {signals : Dict String String}
    {name winner : String}
    (signalsSupported : SignalsSupported detail dimension signals)
    (supported : Supported detail dimension winner) :
    SignalsSupported detail dimension (signals.set name winner) := by
  intro other found isFound
  rw [Dict.get?_set] at isFound
  split at isFound
  case isTrue =>
    rw [← Option.some.inj isFound]
    exact supported
  case isFalse => exact signalsSupported other found isFound

theorem SignalsSupported.addSignal {signals : Dict String String}
    {name : String} {winner : Option String}
    (signalsSupported : SignalsSupported detail dimension signals)
    (supported : ∀ found, winner = some found →
      Supported detail dimension found) :
    SignalsSupported detail dimension (addSignal name winner signals) := by
  unfold CompetiScope.addSignal
  split
  case h_1 => exact signalsSupported
  case h_2 found isFound =>
    exact signalsSupported.set
      (supported found (Option.filter_eq_some_iff.mp isFound).1)

theorem matrixSignals_supported
    (planned : dimension ∈ detail.plan.dimensions) :
    SignalsSupported detail dimension
      (matrixSignals library detail (matrixCells detail) payloadWinners
        dimension) := by
  have none : SignalsSupported detail dimension ∅ := by
    intro name winner found
    rw [Dict.get?_empty] at found
    cases found
  have evidence := @SignalsSupported.addSignal _ _ _ _ "evidence" _ none
    fun winner found => evidenceWinner_supported planned found
  have confidence := @SignalsSupported.addSignal _ _ _ _
    "cell_confidence_winner" _ evidence
    fun winner found => @confidenceWinner_supported _ library _ _ _ planned
      found
  have findings := @SignalsSupported.addSignal _ _ _ _ "findings" _ confidence
    fun winner found => findingWinner_supported found
  unfold matrixSignals
  dsimp only
  split
  case h_1 => exact findings
  case h_2 winner found =>
    exact findings.set (llmSignal_supported planned found)

theorem dimensionWinner_supported
    (planned : dimension ∈ detail.plan.dimensions) :
    Supported detail dimension
      (dimensionWinner library detail (matrixCells detail) payloadWinners
        dimension) := by
  unfold dimensionWinner
  cases voted : winnerFromMatrixSignals dimension
      (matrixSignals library detail (matrixCells detail) payloadWinners
        dimension) with
  | none => exact .inl rfl
  | some winner =>
      rcases winnerFromMatrixSignals_cases voted with tie | member
      · exact .inl tie
      · obtain ⟨name, found⟩ := Dict.mem_values.mp member
        exact matrixSignals_supported planned name winner found

/-! ## The winners of a matrix -/

variable {payload : Dict String Json} {fallbackUsed : Bool}

/-- The winner a dimension ends up with. -/
def finalWinner (library : MatrixLibrary) (detail : RunDetail)
    (payload : Dict String Json) (fallbackUsed : Bool)
    (dimension : String) : String :=
  let voted := dimensionWinner library detail (matrixCells detail)
    (payloadWinnersOf library payload) dimension
  if fallbackUsed = true ∧ voted ≠ "tie" ∧
      fullyCovered detail (matrixCells detail) dimension = false then "tie"
  else voted

theorem get?_winnerByDimension :
    (buildComparisonMatrix library detail payload
      fallbackUsed).winnerByDimension.get? dimension =
      if dimension ∈ detail.plan.dimensions then
        some (finalWinner library detail payload fallbackUsed dimension)
      else none := by
  have voted := get?_scoresOf (dimensionWinner library detail
    (matrixCells detail) (payloadWinnersOf library payload))
    detail.plan.dimensions dimension
  cases fallbackUsed with
  | false =>
      simp only [buildComparisonMatrix, matrixMajorityVote, finalWinner,
        Bool.false_eq_true, if_false, false_and]
      exact voted
  | true =>
      simp only [buildComparisonMatrix, matrixMajorityVote, finalWinner,
        conservativeFallbackWinners, if_true, true_and]
      rw [Dict.get?_mapValues, voted]
      split
      case isFalse => rfl
      case isTrue =>
        rw [Option.map_some]
        by_cases tie : dimensionWinner library detail (matrixCells detail)
            (payloadWinnersOf library payload) dimension = "tie"
        · simp [tie]
        · cases fullyCovered detail (matrixCells detail) dimension with
          | true => simp
          | false => simp [tie]

theorem winner_of_get? {winner : String}
    (found : (buildComparisonMatrix library detail payload
      fallbackUsed).winnerByDimension.get? dimension = some winner) :
    dimension ∈ detail.plan.dimensions ∧
      finalWinner library detail payload fallbackUsed dimension = winner := by
  rw [get?_winnerByDimension] at found
  split at found
  case isTrue planned => exact ⟨planned, Option.some.inj found⟩
  case isFalse => cases found

theorem finalWinner_supported
    (planned : dimension ∈ detail.plan.dimensions) :
    Supported detail dimension
      (finalWinner library detail payload fallbackUsed dimension) := by
  unfold finalWinner
  dsimp only
  split
  case isTrue => exact .inl rfl
  case isFalse => exact dimensionWinner_supported planned

theorem officiallyCovered_of_cell
    (planned : dimension ∈ detail.plan.dimensions)
    (competes : competitor ∈ detail.plan.competitors)
    (official : HasOfficialSource detail
      (matrixCellOf detail dimension competitor)) :
    OfficiallyCovered detail (buildComparisonMatrix library detail payload
      fallbackUsed) dimension competitor := by
  constructor
  case left =>
    exact ⟨_, mem_matrixCells.mpr
      ⟨dimension, planned, competitor, competes, rfl⟩, rfl, rfl⟩
  case right =>
    intro cell member ofDimension ofCompetitor
    obtain ⟨itsDimension, -, itsCompetitor, -, rfl⟩ :=
      mem_matrixCells.mp member
    have sameDimension : itsDimension = dimension := ofDimension
    have sameCompetitor : itsCompetitor = competitor := ofCompetitor
    rw [sameDimension, sameCompetitor]
    exact official

/-- Under the fallback a winner stands only if all competitors are
covered. -/
theorem hasOfficialSource_of_fallback {winner : String}
    (planned : dimension ∈ detail.plan.dimensions)
    (won : finalWinner library detail payload true dimension = winner)
    (decided : winner ≠ "tie")
    (competes : competitor ∈ detail.plan.competitors) :
    HasOfficialSource detail (matrixCellOf detail dimension competitor) := by
  unfold finalWinner at won
  dsimp only at won
  split at won
  case isTrue => exact absurd won.symm decided
  case isFalse standing =>
    rw [← won] at decided
    have covered : fullyCovered detail (matrixCells detail) dimension =
        true := by
      by_contra uncovered
      exact standing ⟨rfl, decided, Bool.eq_false_of_not_eq_true uncovered⟩
    have counted : officialMatrixSourceCount (rawSourceById detail)
          (matrixCell (matrixCells detail) dimension competitor) ∈
        (officialCounts detail (matrixCells detail) dimension).values := by
      apply Dict.mem_values.mpr
      exact ⟨competitor, by rw [officialCounts, get?_scoresOf, if_pos competes]⟩
    have positive := List.all_eq_true.mp covered _ counted
    rw [decide_eq_true_eq, matrixCell_matrixCells planned competes] at positive
    exact hasOfficialSource_of_count positive

/-! ## The order of the competitors -/

section Order

variable {competitors : List String}
variable (permutation : detail.plan.competitors.Perm competitors)

include permutation

theorem matrixCells_perm :
    (matrixCells detail).Perm
      (matrixCells (withCompetitors detail competitors)) := by
  apply List.Perm.flatMap_left
  intro dimension _
  exact permutation.map (matrixCellOf detail dimension)

theorem matrixCell_withCompetitors
    (planned : dimension ∈ detail.plan.dimensions)
    (competes : competitor ∈ detail.plan.competitors) :
    matrixCell (matrixCells detail) dimension competitor =
      matrixCell (matrixCells (withCompetitors detail competitors)) dimension
        competitor := by
  have stillCompetes : competitor ∈
      (withCompetitors detail competitors).plan.competitors :=
    permutation.mem_iff.mp competes
  rw [matrixCell_matrixCells planned competes,
    @matrixCell_matrixCells _ (withCompetitors detail competitors) _ _ planned
      stillCompetes]
  rfl

theorem llmSignal_withCompetitors
    (planned : dimension ∈ detail.plan.dimensions) :
    llmSignal detail (matrixCells detail) payloadWinners dimension =
      llmSignal (withCompetitors detail competitors)
        (matrixCells (withCompetitors detail competitors)) payloadWinners
        dimension := by
  unfold llmSignal
  cases payloadWinners.get? dimension with
  | none => rfl
  | some winner =>
      rw [Option.filter_some, Option.filter_some]
      by_cases competes : winner ∈ detail.plan.competitors
      case pos =>
        have stillCompetes : winner ∈
            (withCompetitors detail competitors).plan.competitors :=
          permutation.mem_iff.mp competes
        rw [List.contains_iff_mem.mpr competes,
          List.contains_iff_mem.mpr stillCompetes,
          matrixCompetitorHasScopedOfficialSignal,
          matrixCell_withCompetitors permutation planned competes]
        rfl
      case neg =>
        have absent : winner ∉
            (withCompetitors detail competitors).plan.competitors :=
          fun member => competes (permutation.mem_iff.mpr member)
        rw [List.contains_eq_mem, List.contains_eq_mem,
          decide_eq_false competes, decide_eq_false absent]
        rfl

theorem matrixSignals_withCompetitors
    (planned : dimension ∈ detail.plan.dimensions) :
    matrixSignals library detail (matrixCells detail) payloadWinners
        dimension =
      matrixSignals library (withCompetitors detail competitors)
        (matrixCells (withCompetitors detail competitors)) payloadWinners
        dimension := by
  have evidence : evidenceWinner detail (matrixCells detail) dimension =
      evidenceWinner (withCompetitors detail competitors)
        (matrixCells (withCompetitors detail competitors)) dimension := by
    apply winnerFromNumericSignal_scoresOf_congr permutation
    intro competitor competes
    rw [matrixCell_withCompetitors permutation planned competes]
    rfl
  have confidence :
      confidenceWinner library detail (matrixCells detail) dimension =
        confidenceWinner library (withCompetitors detail competitors)
          (matrixCells (withCompetitors detail competitors)) dimension := by
    apply winnerFromNumericSignal_scoresOf_congr permutation
    intro competitor competes
    rw [matrixCell_withCompetitors permutation planned competes]
    rfl
  have findings : findingWinner detail dimension =
      findingWinner (withCompetitors detail competitors) dimension := by
    apply winnerFromNumericSignal_scoresOf_congr permutation
    intro competitor _
    rfl
  unfold matrixSignals
  rw [evidence, confidence, findings,
    llmSignal_withCompetitors permutation planned]

theorem fullyCovered_withCompetitors
    (planned : dimension ∈ detail.plan.dimensions) :
    fullyCovered detail (matrixCells detail) dimension =
      fullyCovered (withCompetitors detail competitors)
        (matrixCells (withCompetitors detail competitors)) dimension := by
  have sameCounts : ∀ competitor,
      (officialCounts detail (matrixCells detail) dimension).get? competitor =
        (officialCounts (withCompetitors detail competitors)
          (matrixCells (withCompetitors detail competitors))
          dimension).get? competitor := by
    intro competitor
    rw [officialCounts, officialCounts, get?_scoresOf, get?_scoresOf]
    by_cases competes : competitor ∈ detail.plan.competitors
    case pos =>
      have stillCompetes : competitor ∈
          (withCompetitors detail competitors).plan.competitors :=
        permutation.mem_iff.mp competes
      rw [if_pos competes, if_pos stillCompetes,
        matrixCell_withCompetitors permutation planned competes]
      rfl
    case neg =>
      have absent : competitor ∉
          (withCompetitors detail competitors).plan.competitors :=
        fun member => competes (permutation.mem_iff.mpr member)
      rw [if_neg competes, if_neg absent]
  have values := (perm_entries_of_get? sameCounts).map Prod.snd
  rw [fullyCovered, fullyCovered, Bool.eq_iff_iff, List.all_eq_true,
    List.all_eq_true]
  exact forall_congr' fun count =>
    imp_congr_left values.mem_iff

theorem finalWinner_withCompetitors
    (planned : dimension ∈ detail.plan.dimensions) :
    finalWinner library detail payload fallbackUsed dimension =
      finalWinner library (withCompetitors detail competitors) payload
        fallbackUsed dimension := by
  unfold finalWinner dimensionWinner
  rw [matrixSignals_withCompetitors permutation planned,
    fullyCovered_withCompetitors permutation planned]

end Order

theorem keys_winnerByDimension :
    (buildComparisonMatrix library detail payload
      fallbackUsed).winnerByDimension.keys =
      (scoresOf (dimensionWinner library detail (matrixCells detail)
        (payloadWinnersOf library payload)) detail.plan.dimensions).keys := by
  cases fallbackUsed with
  | false => rfl
  | true =>
      simp only [buildComparisonMatrix, matrixMajorityVote,
        conservativeFallbackWinners, if_true, Dict.keys, Dict.mapValues,
        List.map_map]
      rfl

/-- The winners of a matrix are sound and do not depend on the order of the
competitors. -/
theorem matrixWinners_sound (library : MatrixLibrary) (detail : RunDetail)
    (payload : Dict String Json) (fallbackUsed : Bool) :
    SoundWinners library detail payload fallbackUsed := by
  constructor
  case keys =>
    intro dimension
    rw [Dict.mem_keys, get?_winnerByDimension]
    constructor
    · rintro ⟨winner, found⟩
      by_contra unplanned
      rw [if_neg unplanned] at found
      cases found
    · intro planned
      exact ⟨_, if_pos planned⟩
  case values =>
    intro dimension winner found
    obtain ⟨planned, rfl⟩ := winner_of_get? found
    rcases finalWinner_supported planned with tie | ⟨competes, -⟩
    · exact .inl tie
    · exact .inr competes
  case covered =>
    intro dimension winner found decided
    obtain ⟨planned, rfl⟩ := winner_of_get? found
    rcases finalWinner_supported planned with tie | ⟨competes, official⟩
    · exact absurd tie decided
    · exact officiallyCovered_of_cell planned competes official
  case fallbackCovered =>
    intro fallback dimension winner found decided competitor competes
    subst fallback
    obtain ⟨planned, won⟩ := winner_of_get? found
    exact officiallyCovered_of_cell planned competes
      (hasOfficialSource_of_fallback planned won decided competes)
  case cellsPermuted =>
    intro competitors permutation
    exact matrixCells_perm permutation
  case orderFree =>
    intro competitors permutation
    apply Dict.ext_get?
    case sameKeys =>
      rw [keys_winnerByDimension, keys_winnerByDimension]
      apply congrArg Dict.keys
      apply scoresOf_congr
      intro dimension planned
      unfold dimensionWinner
      rw [← matrixSignals_withCompetitors permutation planned]
    case same =>
      intro dimension
      rw [get?_winnerByDimension, get?_winnerByDimension]
      by_cases planned : dimension ∈ detail.plan.dimensions
      · have stillPlanned : dimension ∈
            (withCompetitors detail competitors).plan.dimensions := planned
        rw [if_pos planned, if_pos stillPlanned,
          finalWinner_withCompetitors permutation planned]
      · have stillUnplanned : dimension ∉
            (withCompetitors detail competitors).plan.dimensions := planned
        rw [if_neg planned, if_neg stillUnplanned]

end

end CompetiScope
