import CompetiScope.Agents.KnowledgeSlots
import CompetiScope.Agents.MatrixCells
import CompetiScope.Foundation.Indexed
import CompetiScope.Foundation.Repr
import CompetiScope.Foundation.SoleLeader
import CompetiScope.Identity.SourceTokens
import CompetiScope.BusinessIntel.ReportSections
import Mathlib.Algebra.GroupWithZero.Nat

/-!
# Winners of the comparison matrix

The winner of a dimension is voted for by the official sources, their
confidence, the findings and the answer of the model.  A winner has an official
source in its cell, and the order of the competitors in the plan plays no part.
-/

namespace CompetiScope

open Foundation

/-- What the matrix leaves to its surroundings. -/
structure MatrixLibrary where
  /-- The number that a confidence stands for. -/
  floatValue : Float → Rat
  /-- `str.isprintable` on one code point. -/
  isPrintable : Char → Bool
  /-- The lines of `_matrix_standardization_summary` and
  `_community_matrix_summary`. -/
  summaryLines : RunDetail → List String

section

variable [PyRuntime]

/-! ## Official sources -/

/-- `COMMUNITY_MATRIX_SOURCE_TYPES`. -/
def communityMatrixSourceTypes : List String :=
  ["community_forum", "reddit_thread", "github_discussion", "github_issue",
    "review_site", "developer_blog", "snippet_only"]

omit [PyRuntime] in
/-- `_matrix_source_is_official_signal` of a source. -/
def matrixSourceIsOfficialSignal (source : RawSource) : Bool :=
  !(source.metadata.get? "community_evidence").any Json.truthy &&
    !communityMatrixSourceTypes.contains source.sourceType

/-- `_matrix_source_is_scoped_official_signal` of a source. -/
def matrixSourceIsScopedOfficialSignal (dimension competitor : String)
    (source : RawSource) : Bool :=
  matrixSourceIsOfficialSignal source && source.dimension = dimension &&
    sourceMatchesCompetitor source competitor

omit [PyRuntime] in
/-- `{source.id: source for source in detail.raw_sources}`. -/
def rawSourceById (detail : RunDetail) : Dict String RawSource :=
  indexBy (·.id) detail.rawSources

omit [PyRuntime] in
/-- The official sources behind some ids. -/
def officialSources (byId : Dict String RawSource) (ids : List String) :
    List RawSource :=
  ids.filterMap fun id => (byId.get? id).filter matrixSourceIsOfficialSignal

omit [PyRuntime] in
/-- `_official_matrix_source_count`. -/
def officialMatrixSourceCount (byId : Dict String RawSource)
    (cell : ComparisonCell) : Nat :=
  (officialSources byId cell.sourceIds).length

omit [PyRuntime] in
/-- `_official_matrix_confidence`. -/
def officialMatrixConfidence (library : MatrixLibrary)
    (byId : Dict String RawSource) (cell : ComparisonCell) : Rat :=
  ((officialSources byId cell.sourceIds).map fun source =>
    library.floatValue source.confidence).max?.getD 0

/-! ## Findings -/

omit [PyRuntime] in
/-- `[A-Za-z0-9_.:/#-]` under `re.IGNORECASE`. -/
def isFindingIdChar (char : Char) : Bool :=
  isSourceTokenChar char || char = '/'

omit [PyRuntime] in
/-- `\[source:([^\]\s]+)\]` here: the id and the length of the match. -/
def bracketedIdAt : List Char → Option (List Char × Nat)
  | '[' :: text =>
      match afterFolded "source:".toList text with
      | none => none
      | some body =>
          let id := body.takeWhile fun char => char ≠ ']' && !isSpace char
          if id ≠ [] ∧ (body.drop id.length).head? = some ']' then
            some (id, 1 + (text.length - body.length) + id.length + 1)
          else none
  | _ => none

omit [PyRuntime] in
/-- `source\s+id\s*:\s*([A-Za-z0-9_.:/#-]+)` here. -/
def labelledIdAt (text : List Char) : Option (List Char × Nat) :=
  match afterFolded "source".toList text with
  | none => none
  | some spaced =>
      let word := stripLeft spaced
      if word.length < spaced.length then
        match afterFolded "id".toList word with
        | none => none
        | some rest =>
            match stripLeft rest with
            | ':' :: value =>
                let body := stripLeft value
                let id := body.takeWhile isFindingIdChar
                if id ≠ [] then
                  some (id, text.length - body.length + id.length)
                else none
            | _ => none
      else none

/-- The ids of a finding; `skip` characters belong to the match already
reported, and `previousIsWord` tells that the last one is of a word. -/
def findingIdsFrom (skip : Nat) (previousIsWord : Bool) :
    List Char → List (List Char)
  | [] => []
  | char :: text =>
      match skip with
      | skip + 1 => findingIdsFrom skip (isWordChar char) text
      | 0 =>
          let labelled :=
            if previousIsWord then none else labelledIdAt (char :: text)
          match (bracketedIdAt (char :: text)).or labelled with
          | some (id, length) =>
              id :: findingIdsFrom (length - 1) (isWordChar char) text
          | none => findingIdsFrom 0 (isWordChar char) text

/-- `_matrix_finding_source_ids`. -/
def matrixFindingSourceIds (finding : String) : List String :=
  mergeOrderedRefs
    [(findingIdsFrom 0 false finding.toList).map String.ofList]

example :
    let _ : PyRuntime := asciiRuntime
    matrixFindingSourceIds "Fast [Source:a/1] (source id : b-2), [source: c]" =
      ["a/1", "b-2"] := by
  decide

/-- `_official_matrix_finding_count`. -/
def officialMatrixFindingCount (detail : RunDetail)
    (dimension competitor : String) : Nat :=
  match detail.competitorKbs.get? competitor with
  | none => 0
  | some kb =>
      (kb.slices.getD dimension []).countP fun finding =>
        (matrixFindingSourceIds finding).any fun id =>
          ((rawSourceById detail).get? id).any
            (matrixSourceIsScopedOfficialSignal dimension competitor)

/-! ## Votes -/

omit [PyRuntime] in
/-- `_winner_from_numeric_signal`. -/
def winnerFromNumericSignal {Score : Type} [LinearOrder Score] [Zero Score]
    (scores : Dict String Score) : Option String :=
  let positive := scores.entries.filter fun entry => 0 < entry.2
  if positive.isEmpty then none else some (soleOr "tie" (leaders positive))

omit [PyRuntime] in
/-- `_winner_from_votes`. -/
def winnerFromVotes (signals : Dict String String) : Option String :=
  match mostCommon (signals.values.filter (· ≠ "tie")) with
  | [] => if "tie" ∈ signals.values then some "tie" else none
  | [(winner, _)] => some winner
  | (winner, count) :: (_, second) :: _ =>
      if second = count then some "tie" else some winner

/-- `_winner_from_matrix_signals`. -/
def winnerFromMatrixSignals (dimension : String)
    (signals : Dict String String) : Option String :=
  let structuralWinners := ["evidence", "findings"].filterMap fun name =>
    (signals.get? name).filter fun winner => winner ≠ "" && winner ≠ "tie"
  if contains (casefold dimension) "pricing" && structuralWinners.isEmpty then
    if signals.entries.isEmpty then none else some "tie"
  else winnerFromVotes signals

/-! ## Signals -/

omit [PyRuntime] in
/-- `{(cell.dimension, cell.competitor): cell for cell in cells}`. -/
def cellByKey (cells : List ComparisonCell) :
    Dict (String × String) ComparisonCell :=
  indexBy (fun cell => (cell.dimension, cell.competitor)) cells

omit [PyRuntime] in
/-- `_matrix_cell`. -/
def matrixCell (cells : List ComparisonCell) (dimension competitor : String) :
    ComparisonCell :=
  (cellByKey cells).getD (dimension, competitor)
    { competitor := competitor
      dimension := dimension
      value := "" }

variable (library : MatrixLibrary) (detail : RunDetail)
variable (cells : List ComparisonCell) (payloadWinners : Dict String String)

omit [PyRuntime] in
def evidenceWinner (dimension : String) : Option String :=
  winnerFromNumericSignal (scoresOf (fun competitor =>
    officialMatrixSourceCount (rawSourceById detail)
      (matrixCell cells dimension competitor)) detail.plan.competitors)

omit [PyRuntime] in
def confidenceWinner (dimension : String) : Option String :=
  winnerFromNumericSignal (scoresOf (fun competitor =>
    officialMatrixConfidence library (rawSourceById detail)
      (matrixCell cells dimension competitor)) detail.plan.competitors)

def findingWinner (dimension : String) : Option String :=
  winnerFromNumericSignal (scoresOf (fun competitor =>
    officialMatrixFindingCount detail dimension competitor)
      detail.plan.competitors)

/-- `_matrix_competitor_has_scoped_official_signal`. -/
def matrixCompetitorHasScopedOfficialSignal
    (dimension competitor : String) : Bool :=
  ((matrixCell cells dimension competitor).sourceIds.any fun id =>
      ((rawSourceById detail).get? id).any
        (matrixSourceIsScopedOfficialSignal dimension competitor)) ||
    0 < officialMatrixFindingCount detail dimension competitor

/-- The answer of the model, as far as it counts. -/
def llmSignal (dimension : String) : Option String :=
  (payloadWinners.get? dimension).filter fun winner =>
    winner = "tie" || (detail.plan.competitors.contains winner &&
      matrixCompetitorHasScopedOfficialSignal detail cells dimension winner)

omit [PyRuntime] in
/-- `if winner: signals[name] = winner`. -/
def addSignal (name : String) (winner : Option String)
    (signals : Dict String String) : Dict String String :=
  match winner.filter (· ≠ "") with
  | none => signals
  | some winner => signals.set name winner

/-- The signals of a dimension. -/
def matrixSignals (dimension : String) : Dict String String :=
  let counted :=
    addSignal "findings" (findingWinner detail dimension)
      (addSignal "cell_confidence_winner"
        (confidenceWinner library detail cells dimension)
        (addSignal "evidence" (evidenceWinner detail cells dimension) ∅))
  match llmSignal detail cells payloadWinners dimension with
  | none => counted
  | some winner => counted.set "llm" winner

/-- The winner of a dimension, `tie` without a vote. -/
def dimensionWinner (dimension : String) : String :=
  (winnerFromMatrixSignals dimension
    (matrixSignals library detail cells payloadWinners dimension)).getD "tie"

/-- The line of a dimension in the summary of the vote. -/
def majorityVoteLine (dimension : String) : String :=
  let signals := (matrixSignals library detail cells payloadWinners
    dimension).entries.insertionSort fun first second => first.1 ≤ second.1
  let listed := String.intercalate ", "
    (signals.map fun signal => signal.1 ++ "=" ++ signal.2)
  "[majority-vote:" ++ dimension ++ "] winner=" ++
    dimensionWinner library detail cells payloadWinners dimension ++ "; " ++
    orElseText listed "no decisive signal"

/-- `_matrix_majority_vote`. -/
def matrixMajorityVote : Dict String String × List String :=
  (scoresOf (dimensionWinner library detail cells payloadWinners)
      detail.plan.dimensions,
    detail.plan.dimensions.map
      (majorityVoteLine library detail cells payloadWinners))

/-! ## The matrix -/

omit [PyRuntime] in
/-- `official_counts` of a dimension. -/
def officialCounts (dimension : String) : Dict String Nat :=
  scoresOf (fun competitor =>
    officialMatrixSourceCount (rawSourceById detail)
      (matrixCell cells dimension competitor)) detail.plan.competitors

omit [PyRuntime] in
/-- Every competitor has an official source for the dimension. -/
def fullyCovered (dimension : String) : Bool :=
  (officialCounts detail cells dimension).values.all (0 < ·)

omit [PyRuntime] in
def fallbackLine (dimension : String) : String :=
  let counts := (officialCounts detail cells dimension).entries.map
    fun entry => entry.1 ++ "=" ++ toString entry.2
  "[fallback-conservative:" ++ dimension ++ "] winner=tie; " ++
    "deterministic fallback had incomplete scoped official coverage " ++
    "(" ++ String.intercalate ", " counts ++ ")"

omit [PyRuntime] in
/-- `_conservative_fallback_winners`. -/
def conservativeFallbackWinners (votedWinners : Dict String String) :
    Dict String String × List String :=
  (votedWinners.mapValues fun dimension winner =>
      if winner = "tie" || fullyCovered detail cells dimension then winner
      else "tie",
    (votedWinners.entries.filter fun entry =>
      entry.2 ≠ "tie" && !fullyCovered detail cells entry.1).map
      fun entry => fallbackLine detail cells entry.1)

/-- `{str(key): str(value)}` of `winner_by_dimension` in the payload. -/
def payloadWinnersOf (payload : Dict String Json) : Dict String String :=
  match payload.get? "winner_by_dimension" with
  | some (.obj fields) =>
      fields.foldl (fun winners field =>
        winners.set field.1 (Json.text library.isPrintable field.2)) ∅
  | _ => ∅

/-- `_string_list`. -/
def stringListOf (value : Option Json) : List String :=
  match value with
  | some (.arr items) =>
      (items.map (Json.text library.isPrintable)).filter (strip · ≠ "")
  | _ => []

/-- `_build_comparison_matrix`. -/
def buildComparisonMatrix (payload : Dict String Json)
    (fallbackUsed : Bool) : ComparisonMatrix :=
  let cells := matrixCells detail
  let voted := matrixMajorityVote library detail cells
    (payloadWinnersOf library payload)
  let final :=
    if fallbackUsed then
      let fallback := conservativeFallbackWinners detail cells voted.1
      (fallback.1, voted.2 ++ fallback.2)
    else voted
  { competitors := detail.plan.competitors
    dimensions := detail.plan.dimensions
    cells := cells
    winnerByDimension := final.1
    summary := library.summaryLines detail ++
      stringListOf library (payload.get? "matrix_summary") ++ final.2 }

end

end CompetiScope
