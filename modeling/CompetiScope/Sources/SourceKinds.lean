import CompetiScope.Foundation.Repr
import CompetiScope.Sources.Matching
import Mathlib.Algebra.Order.Ring.Rat

/-!
# Kinds of sources

What the claim cards of an analyst read off a raw source: whether it is
official, synthetic, of a community or user research, and whether it has
evidence about prices.
-/

namespace CompetiScope

open Foundation

/-- A raw source; `confidence` stands for its float. -/
structure RatedSource where
  raw : RawSource
  confidence : Rat
  bounded : 0 ≤ confidence ∧ confidence ≤ 1

/-- A knowledge claim; `confidence` stands for its float. -/
structure RatedClaim where
  raw : KnowledgeClaim
  confidence : Rat
  bounded : 0 ≤ confidence ∧ confidence ≤ 1

/-- The digest, and a table of the interpreter that is too large to state. -/
structure CardLibrary where
  sha256Hex : String → String
  /-- `str.isprintable` on one code point. -/
  isPrintable : Char → Bool

section

variable [PyRuntime]

/-! ## Source types -/

/-- `_normalized_source_type`. -/
def normalizedSourceType (source : RawSource) : String :=
  match source.metadata.get? "community_source_type" with
  | some (.str text) =>
      if strip text ≠ "" then casefold (strip text)
      else casefold (strip source.sourceType)
  | _ => casefold (strip source.sourceType)

/-- `_metadata_truthy`. -/
def metadataTruthy : Option Json → Bool
  | some (.bool value) => value
  | some (.str text) => casefold (strip text) == "true"
  | _ => false

/-- `_is_synthetic_source`. -/
def isSyntheticSource (source : RawSource) : Bool :=
  ["survey_interview_synthetic", "fallback_synthetic", "synthetic"].any
    fun key => metadataTruthy (source.metadata.get? key)

/-- `_is_official_source_type`. -/
def isOfficialSourceType (sourceType : String) : Bool :=
  sourceType == "official" || contains sourceType "official" ||
    ["webpage_verified", "pricing_page", "docs"].contains sourceType

/-- `_is_official_source`. -/
def isOfficialSource (source : RawSource) : Bool :=
  metadataTruthy (source.metadata.get? "trusted_official") ||
    isOfficialSourceType (casefold (strip source.sourceType))

/-- `_is_community_source_type`. -/
def isCommunitySourceType (sourceType : String) : Bool :=
  ["community", "reddit", "forum", "github_issue", "discussion"].any
    (contains sourceType)

/-- `source_role.casefold()` of a text, and the empty text otherwise. -/
def sourceRoleText (source : RawSource) : String :=
  match source.metadata.get? "source_role" with
  | some (.str text) => casefold text
  | _ => ""

/-- `_is_user_research_source`. -/
def isUserResearchSource (source : RawSource) : Bool :=
  ["persona", "user", "users", "review"].contains
      (casefold (strip source.dimension)) &&
    ["survey", "interview", "manual_user", "manual_note",
      "manual_transcript", "review", "community", "forum", "reddit"].any
      fun marker =>
        contains (normalizedSourceType source) marker ||
          contains (sourceRoleText source) marker

/-! ## Evidence about prices -/

def startsWithDecimal : List Char → Bool
  | [] => false
  | char :: _ => PyRuntime.isDecimal char

/-- The text after the white space that `\s?` takes, if there is any. -/
def afterOneSpace : List Char → List Char
  | [] => []
  | char :: rest => if isSpace char then rest else char :: rest

/-- `[$€£]\s?\d` here. -/
def currencyAmount : List Char → Bool
  | [] => false
  | sign :: rest =>
      ['$', '€', '£'].contains sign && startsWithDecimal (afterOneSpace rest)

/-- `\d+\s?(?:usd|eur|gbp|credits?|tokens?)\b` here. -/
def countedUnit (text : List Char) : Bool :=
  let amount := text.dropWhile PyRuntime.isDecimal
  amount.length < text.length &&
    ["usd", "eur", "gbp", "credits", "credit", "tokens", "token"].any
      fun unit => endsAtBoundary unit.toList (afterOneSpace amount)

/-- The search for a sum of money or a unit of usage; `previousIsWord` tells
that the character before the text is one of a word. -/
def hasMoneyOrUnit (previousIsWord : Bool) : List Char → Bool
  | [] => false
  | char :: rest =>
      currencyAmount (char :: rest) ||
        (!previousIsWord && countedUnit (char :: rest)) ||
        endsAtBoundary "/mo".toList (char :: rest) ||
        (["per month", "monthly", "yearly", "annually"].any fun period =>
          period.toList.isPrefixOf (char :: rest)) ||
        hasMoneyOrUnit (isWordChar char) rest

variable (library : CardLibrary)

/-- `_normalized_fields_include_pricing`. -/
def normalizedFieldsIncludePricing (value : Option Json) : Bool :=
  match value with
  | none => false
  | some .null => false
  | some value =>
      let text := casefold (String.ofList (Json.repr library.isPrintable value))
      ["price", "pricing", "price_point", "billing", "cost", "credit", "plan",
        "tier"].any (contains text)

/-- `_source_has_pricing_evidence`. -/
def sourceHasPricingEvidence (source : RawSource) : Bool :=
  let highSignalText := casefold (String.intercalate " "
    ([source.title, source.url.getD ""] ++
      ["canonical_url", "source_role"].map fun key =>
        Json.textOrEmpty library.isPrintable (source.metadata.get? key)))
  let snippet := casefold source.snippet
  normalizedFieldsIncludePricing library
      (source.metadata.get? "normalized_fields") ||
    (["pricing", "price", "plans", "plan", "billing", "usage", "cost",
      "costs"].any (contains highSignalText)) ||
    (hasMoneyOrUnit false snippet.toList &&
      ["pricing", "price", "plan", "billing", "cost", "credit", "usage",
        "subscription", "monthly", "yearly", "month", "user"].any
        (contains snippet))

/-- `_source_relevant_to_dimension`. -/
def sourceRelevantToDimension (source : RawSource) (dimension : String) :
    Bool :=
  let key := strip (casefold dimension)
  if contains key "pricing" || contains key "price" then
    sourceHasPricingEvidence library source
  else true

end

end CompetiScope
