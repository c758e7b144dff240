import CompetiScope.Foundation.Dict
import CompetiScope.Foundation.Patterns
import CompetiScope.Foundation.Text
import Mathlib.Data.Rat.Defs

/-!
# Source candidates

What a research branch looks for, the pages it may fetch, and what each page
is expected to show.
-/

namespace CompetiScope

open Foundation

/-- `CandidateOrigin`. -/
inductive CandidateOrigin where
  | trustedRegistry
  | perplexity
  | webSearch
  | communitySearch
  | homepageDerived
  | llmFallback
  | manual
  deriving DecidableEq

/-- `CandidateIntent`. -/
inductive CandidateIntent where
  | officialPricingPage
  | officialBillingOrUsageDocs
  | currentPlanPriceSupport
  | communityOrConflictSignal
  | officialDocs
  | productPage
  | thirdPartyContext
  | unknown
  deriving DecidableEq

/-- The part of `ResearchBrief` that selection and capture read. -/
structure ResearchBrief where
  competitor : String
  dimension : String
  homepageHint : Option String := none
  targetSourceCount : Nat := 3
  maxFetches : Nat := 6

/-- A page that may be fetched; its metadata is of any type. -/
structure SourceCandidate (Metadata : Type) where
  id : String
  title : String
  url : String
  snippet : String := ""
  origin : CandidateOrigin
  competitor : String := ""
  dimension : String := ""
  rank : Int := 0
  confidence : Rat := 1 / 2
  query : Option String := none
  reason : String := ""
  date : Option String := none
  lastUpdated : Option String := none
  metadata : Metadata
  deriving DecidableEq

/-- What is read of `urlparse`. -/
structure UrlParts where
  scheme : String
  netloc : String
  hostname : Option String

/-- `urlparse`, which has read the URLs of all candidates when they were
ranked, and the trusted domains of the competitors that are known. -/
structure CandidateLibrary where
  urlparse : String → UrlParts
  trustedDomains : String → Option (List String)

/-- `value.startswith(front)`. -/
def startsWith (value front : String) : Bool :=
  front.toList.isPrefixOf value.toList

/-- `value.endswith(back)`. -/
def endsWith (value back : String) : Bool :=
  back.toList.isSuffixOf value.toList

/-- `value.removeprefix(front)`. -/
def removeFront (value front : String) : String :=
  if startsWith value front then
    String.ofList (value.toList.drop front.length)
  else value

/-- `_contains_any`. -/
def containsAnyOf (value : String) (terms : List String) : Bool :=
  terms.any (contains value)

section Intents

variable [PyRuntime]

/-- `\$\s*\d+|\b\d+\s*(?:usd|/mo|per month|monthly|credits?|seats?)\b`. -/
def priceSignal : Pattern :=
  let exactly := Pattern.spelled fun expected char => char = expected
  let plural := fun text : String =>
    Pattern.sequence (exactly text.toList)
      (.optional (.chars fun char => char = 's'))
  let spaces := Pattern.repeated 0 none isSpace
  let digits := Pattern.repeated 1 none PyRuntime.isDecimal
  .either
    (.sequence (.chars fun char => char = '$') (.sequence spaces digits))
    (.sequence .boundary
      (.sequence digits
        (.sequence spaces
          (.sequence
            (Pattern.anyOf (exactly "usd".toList)
              [exactly "/mo".toList, exactly "per month".toList,
                exactly "monthly".toList, plural "credit", plural "seat"])
            .boundary))))

/-- `_contains_price_signal`. -/
def containsPriceSignal (value : String) : Bool :=
  Pattern.search isWordChar priceSignal false value.toList

variable (library : CandidateLibrary)

/-- `(urlparse(url).hostname or "").casefold()`. -/
def foldedHost (url : String) : String :=
  casefold ((library.urlparse url).hostname.getD "")

/-- `is_trusted_url_for_competitor`. -/
def isTrustedUrlForCompetitor (competitor url : String) : Bool :=
  match library.trustedDomains competitor with
  | none => false
  | some domains =>
      let host := if url = "" then ""
        else removeFront (foldedHost library url) "www."
      domains.any fun domain =>
        host = domain || endsWith host ("." ++ domain)

/-- `_host_matches_homepage`. -/
def hostMatchesHomepage (url : String) (homepageHint : Option String) :
    Bool :=
  if url = "" ∨ homepageHint.getD "" = "" then false
  else
    let host := removeFront (foldedHost library url) "www."
    let homepageHost :=
      removeFront (foldedHost library (homepageHint.getD "")) "www."
    host ≠ "" && homepageHost ≠ "" &&
      (host = homepageHost || endsWith host ("." ++ homepageHost))

/-- `_community_url`. -/
def communityUrl (url : String) : Bool :=
  ["reddit.", "news.ycombinator.", "forum.", "community."].any fun token =>
    contains (foldedHost library url) token

variable {Metadata : Type} (brief : ResearchBrief)
  (candidate : SourceCandidate Metadata)

/-- `_official_candidate`. -/
def officialCandidate : Bool :=
  candidate.origin = .trustedRegistry || candidate.origin = .homepageDerived ||
    candidate.origin = .manual ||
    isTrustedUrlForCompetitor library brief.competitor candidate.url ||
    hostMatchesHomepage library candidate.url brief.homepageHint

/-- A brief about prices. -/
def ResearchBrief.isPricing : Bool :=
  contains (casefold brief.dimension) "pricing"

/-- `candidate_intent`. -/
def candidateIntent : CandidateIntent :=
  let haystack := casefold
    (candidate.url ++ " " ++ candidate.title ++ " " ++ candidate.snippet)
  if ! brief.isPricing then
    if candidate.origin = .communitySearch ∨
        communityUrl library candidate.url then
      .communityOrConflictSignal
    else if officialCandidate library brief candidate then .officialDocs
    else .thirdPartyContext
  else if candidate.origin = .communitySearch ∨
      communityUrl library candidate.url then
    .communityOrConflictSignal
  else if containsAnyOf haystack
      ["/pricing", "/plans", " pricing", " plans"] then
    if officialCandidate library brief candidate then .officialPricingPage
    else .thirdPartyContext
  else if containsAnyOf haystack
      ["/billing", "/accounts/usage", "/usage", "billing", "credits"] then
    if officialCandidate library brief candidate then
      .officialBillingOrUsageDocs
    else .thirdPartyContext
  else if containsPriceSignal haystack then .currentPlanPriceSupport
  else if officialCandidate library brief candidate then .officialDocs
  else .thirdPartyContext

end Intents

end CompetiScope
