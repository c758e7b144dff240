import CompetiScope.Schema.Run

/-!
# Attribution of sources to competitors

`_source_matches_competitor`: an explicit coverage list decides by membership,
otherwise the free-text label of the source is compared with the competitor.
-/

namespace CompetiScope

open Foundation

/-- Length of a match of `,|;|/|\||\s+and\s+|\s*&\s*` at the front. -/
def labelSeparatorLength : List Char → Option Nat
  | [] => none
  | char :: rest =>
      if char = ',' ∨ char = ';' ∨ char = '/' ∨ char = '|' then some 1
      else
        let spaces := ((char :: rest).takeWhile isSpace).length
        let body := (char :: rest).drop spaces
        let afterAnd := (body.drop 3).takeWhile isSpace
        if 0 < spaces ∧ "and".toList.isPrefixOf body ∧ afterAnd ≠ [] then
          some (spaces + 3 + afterAnd.length)
        else if "&".toList.isPrefixOf body then
          some (spaces + 1 + ((body.drop 1).takeWhile isSpace).length)
        else none

/-- `re.split` of a label: `skip` characters of a separator are still to be
dropped and `current` holds the part read so far, reversed. -/
def splitLabelFrom (skip : Nat) (current : List Char) :
    List Char → List (List Char)
  | [] => [current.reverse]
  | char :: rest =>
      match skip with
      | skip + 1 => splitLabelFrom skip current rest
      | 0 =>
          match labelSeparatorLength (char :: rest) with
          | some length =>
              current.reverse :: splitLabelFrom (length - 1) [] rest
          | none => splitLabelFrom 0 (char :: current) rest

section

variable [PyRuntime]

def labelParts (label : List Char) : List (List Char) :=
  (((splitLabelFrom 0 [] label).map stripChars).filter (· ≠ [])).map
    casefoldChars

def endsAtBoundary (word text : List Char) : Bool :=
  word.isPrefixOf text &&
    match text.drop word.length with
    | [] => true
    | next :: _ => !isWordChar next

/-- The part after `\ball` of
`\ball\s+\d+\s+(?:target\s+)?(?:models|competitors|llms)\b`. -/
def allCountedTail (text : List Char) : Bool :=
  let counted := text.dropWhile isSpace
  let spaced := counted.dropWhile PyRuntime.isDecimal
  let noun := spaced.dropWhile isSpace
  let targeted := (noun.drop 6).dropWhile isSpace
  let named (words : List Char) : Bool :=
    endsAtBoundary "models".toList words ||
      endsAtBoundary "competitors".toList words ||
      endsAtBoundary "llms".toList words
  counted.length < text.length && spaced.length < counted.length &&
    noun.length < spaced.length &&
    (named noun ||
      ("target".toList.isPrefixOf noun &&
        targeted.length < (noun.drop 6).length && named targeted))

def hasAllCounted (previousIsWord : Bool) : List Char → Bool
  | [] => false
  | char :: rest =>
      (!previousIsWord && "all".toList.isPrefixOf (char :: rest) &&
          allCountedTail ((char :: rest).drop 3)) ||
        hasAllCounted (isWordChar char) rest

/-- `_competitor_label_means_all`. -/
def competitorLabelMeansAll (sourceKey : List Char) : Bool :=
  "all ".toList.isPrefixOf sourceKey ||
    hasInfix "all target".toList sourceKey ||
    hasInfix "all competitors".toList sourceKey ||
    hasInfix "all models".toList sourceKey ||
    hasInfix "cross-model all".toList sourceKey ||
    hasInfix "cross model all".toList sourceKey ||
    hasAllCounted false sourceKey

/-- `_competitor_label_matches`. -/
def competitorLabelMatches (sourceCompetitor competitor : String) : Bool :=
  let label := stripChars sourceCompetitor.toList
  let sourceKey := casefoldChars label
  let competitorKey := casefoldChars (stripChars competitor.toList)
  sourceKey = competitorKey || competitorLabelMeansAll sourceKey ||
    competitorKey ∈ labelParts label || hasInfix competitorKey sourceKey

/-- `_source_matches_competitor`. -/
def sourceMatchesCompetitor (source : RawSource) (competitor : String) :
    Bool :=
  if source.coveredCompetitors ≠ [] then
    competitor ∈ source.coveredCompetitors
  else competitorLabelMatches source.competitor competitor

/-- `_sources_for_competitor_dimension`. -/
def sourcesForCompetitorDimension (detail : RunDetail)
    (competitor dimension : String) : List RawSource :=
  detail.rawSources.filter fun source =>
    source.dimension = dimension && sourceMatchesCompetitor source competitor

/-- `_source_ids_for_competitor_dimension`. -/
def sourceIdsForCompetitorDimension (detail : RunDetail)
    (competitor dimension : String) : List String :=
  (sourcesForCompetitorDimension detail competitor dimension).map (·.id)

end

end CompetiScope
