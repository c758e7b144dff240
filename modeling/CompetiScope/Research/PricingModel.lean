import CompetiScope.Research.PageExtraction

/-!
# The pricing extractor

Prices, tiers and limits are read with patterns from the clauses of a page,
and each field that has a value gets a window of the page as its quote.
-/

namespace CompetiScope

open Foundation

/-- `PRICING_FIELDS`. -/
def pricingFields : List String :=
  ["pricing_model_type", "tier_names", "price_points", "billing_cycle",
    "usage_limits", "enterprise_condition"]

/-- The values of `_pricing_model_type`. -/
inductive PricingModelType where
  | openWeightSelfHosted
  | licenseBased
  | apiUsageBased
  | subscriptionSaas
  | enterpriseContract
  | notDisclosed
  deriving DecidableEq

def PricingModelType.text : PricingModelType → String
  | .openWeightSelfHosted => "open_weight_self_hosted"
  | .licenseBased => "license_based"
  | .apiUsageBased => "api_usage_based"
  | .subscriptionSaas => "subscription_saas"
  | .enterpriseContract => "enterprise_contract"
  | .notDisclosed => "not_disclosed"

def pricingModelTypes : List PricingModelType :=
  [.openWeightSelfHosted, .licenseBased, .apiUsageBased, .subscriptionSaas,
    .enterpriseContract, .notDisclosed]

/-! ## Clauses -/

/-- A character that ends a clause in front of white space. -/
def isClauseEnd (char : Char) : Bool :=
  char ∈ ['.', '!', '?', '。', '；', ';']

/-- The length of `(?<=[.!?。；;])\s+|\n+|\s+\|\s+`, or zero. -/
def clauseSeparator (behindEnd : Bool) (text : List Char) : Nat :=
  let run := (text.takeWhile isSpace).length
  let newlines := (text.takeWhile (· = '\n')).length
  if behindEnd ∧ 0 < run then run
  else if 0 < newlines then newlines
  else
    match text.drop run with
    | '|' :: rest =>
        let after := (rest.takeWhile isSpace).length
        if 0 < run ∧ 0 < after then run + 1 + after else 0
    | _ => 0

/-- `re.split`; `skip` characters belong to the last separator. -/
def clausesFrom (part : List Char) (behindEnd : Bool) (skip : Nat) :
    List Char → List (List Char)
  | [] => [part]
  | char :: text =>
      match skip with
      | skip + 1 => clausesFrom part (isClauseEnd char) skip text
      | 0 =>
          match clauseSeparator behindEnd (char :: text) with
          | 0 => clausesFrom (part ++ [char]) (isClauseEnd char) 0 text
          | length + 1 =>
              part :: clausesFrom [] (isClauseEnd char) length text

/-- `_pricing_clauses`. -/
def pricingClauses (text : List Char) : List (List Char) :=
  ((clausesFrom [] false 0 text).map stripChars).filter (· ≠ [])

section Patterns

variable [PyRuntime]

/-- `\$\s*\d+`. -/
def dollarAmount : Pattern :=
  inTurn (exactCase "$") [anySpaces, someDigits]

/-- `tokens?`, under `re.IGNORECASE`. -/
def anyCasePlural (text : String) : Pattern :=
  .sequence (anyCase text) (.optional (anyCase "s"))

/-- `\s*(?:/|per)\s*(?:month|…|tokens?)`. -/
def priceUnit : Pattern :=
  inTurn anySpaces
    [.either (anyCase "/") (anyCase "per"), anySpaces,
      Pattern.anyOf (anyCase "month")
        [anyCase "mo", anyCase "year", anyCase "yr", anyCase "user",
          anyCase "seat", anyCase "developer",
          inTurn (anyCase "active") [someSpaces, anyCase "day"],
          anyCase "day", anyCase "1m tokens", anyCase "mtok",
          anyCase "million tokens", anyCasePlural "token"]]

/-- `_price_match_regex`. -/
def priceMatch : Pattern :=
  inTurn (.either (anyCase "$") (.sequence (anyCase "usd") anySpaces))
    [.repeated 0 (some 1) isSpace, someDigits,
      .optional (.sequence (anyCase ".") someDigits), .optional priceUnit]

/-- `\b(per|/)\s*(?:month|…|tokens?)\b`. -/
def perUnit : Pattern :=
  inTurn .boundary
    [.either (exactCase "per") (exactCase "/"), anySpaces,
      Pattern.anyOf (exactCase "month")
        [exactCase "mo", exactCase "year", exactCase "yr", exactCase "user",
          exactCase "seat", exactCase "developer", exactCase "1m",
          exactCase "million", exactCase "mtok",
          .sequence (exactCase "token") (.optional (exactCase "s"))],
      .boundary]

/-- Words between word boundaries. -/
def boundedBy (patterns : List Pattern) (first : Pattern) : Pattern :=
  inTurn .boundary [Pattern.anyOf first patterns, .boundary]

/-- What tells in the neighbourhood of an amount that it is no price. -/
def noPriceSignal : Pattern :=
  Pattern.anyOf
    (boundedBy
      [anyCase "promotional", anyCase "coupon",
        inTurn (anyCase "trial") [someSpaces, anyCase "balance"],
        inTurn (anyCase "credit") [someSpaces, anyCase "balance"]]
      (anyCase "promo"))
    [inTurn .boundary
        [Pattern.anyOf (anyCase "in") [anyCase "as", anyCase "worth"],
          someSpaces, anyCasePlural "credit", .boundary],
      inTurn .boundary
        [anyCasePlural "credit", someSpaces,
          .either (anyCase "balance") (anyCase "included"), .boundary],
      inTurn .boundary
        [anyCase "not", someSpaces,
          .optional (.sequence (anyCase "a") someSpaces),
          .optional (.sequence (anyCase "plan") someSpaces), anyCase "price",
          .boundary]]

/-- The words of a clause about prices. -/
def pricingContext : Pattern :=
  let plural := fun text : String =>
    Pattern.sequence (exactCase text) (.optional (exactCase "s"))
  boundedBy
    [exactCase "pricing", plural "cost", plural "plan", exactCase "billing",
      inTurn (exactCase "per") [someSpaces, exactCase "user"],
      inTurn (exactCase "per") [someSpaces, exactCase "seat"],
      exactCase "monthly", exactCase "annually", exactCase "enterprise",
      exactCase "contact sales"]
    (exactCase "price")

/-- `(?:/|per)\s*(?:1m|million|mtok|tokens?|active\s+day|day|request)`. -/
def meteredUnit : Pattern :=
  inTurn (.either (anyCase "/") (anyCase "per"))
    [anySpaces,
      Pattern.anyOf (anyCase "1m")
        [anyCase "million", anyCase "mtok", anyCasePlural "token",
          inTurn (anyCase "active") [someSpaces, anyCase "day"],
          anyCase "day", anyCase "request"]]

/-- `\b(per month|/month|monthly|/mo|per mo)\b`. -/
def monthlyCycle : Pattern :=
  boundedBy [exactCase "/month", exactCase "monthly", exactCase "/mo",
    exactCase "per mo"] (exactCase "per month")

/-- `\b(per year|/year|annual|annually|yearly|/yr|per yr)\b`. -/
def annualCycle : Pattern :=
  boundedBy [exactCase "/year", exactCase "annual", exactCase "annually",
    exactCase "yearly", exactCase "/yr", exactCase "per yr"]
    (exactCase "per year")

/-- `\b(per token|per 1m|/1m|mtok|million tokens|active day|per day)\b`. -/
def usageCycle : Pattern :=
  boundedBy [exactCase "per 1m", exactCase "/1m", exactCase "mtok",
    exactCase "million tokens", exactCase "active day", exactCase "per day"]
    (exactCase "per token")

/-- The pattern of `_first_usage_limit`. -/
def firstUsageLimit : Pattern :=
  inTurn .boundary
    [.repeated 1 (some 1) PyRuntime.isDecimal,
      .repeated 0 none fun char => PyRuntime.isDecimal char || char = ',',
      .optional (.sequence (anyCase ".") someDigits), anySpaces,
      .optional (Pattern.anyOf (anyCase "k")
        [anyCase "m", anyCase "million", anyCase "billion"]),
      someSpaces,
      Pattern.anyOf (anyCasePlural "token")
        [anyCasePlural "request", anyCasePlural "credit",
          anyCasePlural "seat", anyCasePlural "user", anyCase "context",
          anyCase "messages"],
      .boundary]

/-- The pattern of `_usage_limits`. -/
def usageLimit : Pattern :=
  inTurn .boundary
    [someDigits, .optional (.sequence (anyCase ",") someDigits),
      .optional (.sequence (anyCase ".") someDigits), anySpaces,
      Pattern.anyOf (anyCasePlural "token")
        [anyCasePlural "request", anyCasePlural "credit",
          anyCasePlural "seat", anyCasePlural "user", anyCase "context"],
      .boundary]

end Patterns

/-! ## Fields -/

section Fields

variable [PyRuntime]

/-- `re.findall` for a pattern without groups. -/
def findAll (pattern : Pattern) (text : List Char) : List (List Char) :=
  (spansOf pattern text).map fun span => slice text span.1 span.2

/-- `_pricing_model_type`. -/
def pricingModelType (competitor : String) (normalized : List Char) :
    PricingModelType :=
  if hasTerm (casefoldChars competitor.toList) "llama" ∧
      ["open source", "open-weight", "open weight", "license",
        "self-host"].any (hasTerm normalized) then
    .openWeightSelfHosted
  else if hasTerm normalized "license" ∧ ! searches dollarAmount normalized
  then .licenseBased
  else if ["token", "input", "output", "mtok", "api"].any
      (hasTerm normalized) then .apiUsageBased
  else if ["per user", "per seat", "monthly", "annually"].any
      (hasTerm normalized) then .subscriptionSaas
  else if hasTerm normalized "enterprise" ∧ hasTerm normalized "contact" then
    .enterpriseContract
  else .notDisclosed

/-- `_tier_names`. -/
def tierNames (text : List Char) : List String :=
  ["Free", "Go", "Pro", "Team", "Business", "Enterprise", "Max", "Plus",
    "Edu"].filter fun token =>
      searches (boundedBy [] (anyCase token.toLower)) text

/-- `_last_tier_name`; the label that starts last. -/
def lastTierName (text : List Char) : String :=
  let candidates :=
    ["Free", "Go", "Pro", "Team", "Teams", "Business", "Enterprise", "Max",
      "Plus", "Edu"].flatMap fun token =>
        (spansOf (boundedBy [] (anyCase token.toLower)) text).map fun span =>
          (span.1, if token = "Teams" then "Team" else token)
  match candidates with
  | [] => ""
  | first :: rest =>
      (rest.foldl (fun last candidate =>
        if last.1 < candidate.1 then candidate else last) first).2

/-- `_tier_name_near_price`. -/
def tierNameNearPrice (clause : List Char) (span : Nat × Nat) : String :=
  let before := lastTierName (slice clause (span.1 - 80) span.1)
  if before ≠ "" then before
  else lastTierName (slice clause span.2 (min clause.length (span.2 + 60)))

/-- `_price_match_has_metered_unit`. -/
def priceMatchHasMeteredUnit (price : List Char) : Bool :=
  searches meteredUnit price

/-- `_price_match_is_noise`. -/
def priceMatchIsNoise (clause : List Char) (span : Nat × Nat) : Bool :=
  if searches perUnit (casefoldChars (slice clause span.1 span.2)) then false
  else
    searches noPriceSignal
      (slice clause (span.1 - 48) (min clause.length (span.2 + 72)))

/-- `_price_match_has_pricing_context`. -/
def priceMatchHasPricingContext (clause : List Char) (span : Nat × Nat) :
    Bool :=
  tierNameNearPrice clause span ≠ "" ||
    priceMatchHasMeteredUnit (slice clause span.1 span.2) ||
    searches pricingContext (casefoldChars clause)

/-- `_price_points`. -/
def pricePoints (text : List Char) : List (List Char) :=
  dedupeFolded []
    ((pricingClauses text).flatMap fun clause =>
      ((spansOf priceMatch clause).filter fun span =>
        ! priceMatchIsNoise clause span &&
          priceMatchHasPricingContext clause span).map fun span =>
            squeezeChars (slice clause span.1 span.2))

/-- `_billing_cycle_for_clause`. -/
def billingCycleForClause (clause : List Char) : String :=
  let lowered := casefoldChars clause
  if searches monthlyCycle lowered then "monthly"
  else if searches annualCycle lowered then "annual"
  else if searches usageCycle lowered then "usage"
  else ""

/-- `_first_usage_limit`. -/
def firstUsageLimitOf (clause : List Char) : List Char :=
  match findAll firstUsageLimit clause with
  | found :: _ => squeezeChars found
  | [] => []

/-- The rows before they are told apart by tier and price. -/
def clauseRows (clause : List Char) : List PriceRow :=
  ((spansOf priceMatch clause).filter fun span =>
    ! priceMatchIsNoise clause span &&
      (tierNameNearPrice clause span ≠ "" ||
        priceMatchHasMeteredUnit (slice clause span.1 span.2))).map fun span =>
      { tierName := tierNameNearPrice clause span
        price := String.ofList (squeezeChars (slice clause span.1 span.2))
        billingCycle := billingCycleForClause clause
        usageLimit := String.ofList (firstUsageLimitOf clause) }

/-- The first row of each tier and price. -/
def dedupeRows (seen : List (String × String)) :
    List PriceRow → List PriceRow
  | [] => []
  | row :: rows =>
      let key := (casefold row.tierName, casefold row.price)
      if key ∈ seen then dedupeRows seen rows
      else row :: dedupeRows (key :: seen) rows

/-- `_price_rows`. -/
def priceRows (text : List Char) : List PriceRow :=
  dedupeRows [] ((pricingClauses text).flatMap clauseRows)

/-- `_billing_cycle`. -/
def billingCycle (normalized : List Char) : List (List Char) :=
  dedupeFolded []
    ((["monthly", "month", "annual", "annually", "yearly", "per token",
      "per 1m"].filter (hasTerm normalized)).map String.toList)

/-- `_usage_limits`. -/
def usageLimits (text : List Char) : List (List Char) :=
  dedupeFolded [] (findAll usageLimit text)

/-- `_enterprise_condition`. -/
def enterpriseCondition (normalized : List Char) : String :=
  if hasTerm normalized "contact sales" ∨ hasTerm normalized "contact us" then
    "contact_sales"
  else if hasTerm normalized "enterprise" then "enterprise_available"
  else ""

end Fields

/-! ## Quotes -/

section Quotes

variable [PyRuntime] (text : List Char)

/-- The first term that stands in the folded text, and its place there. -/
def foundTerm : List (List Char) → Option (List Char × Nat)
  | [] => none
  | term :: terms =>
      match findChars (casefoldChars term) (casefoldChars text) with
      | some index => some (term, index)
      | none => foundTerm terms

/-- The window around a term that was found. -/
def windowAt : Option (List Char × Nat) → Option (List Char)
  | none => some []
  | some (term, index) =>
      quoteWindowFromMatch text index (index + term.length) .pricing

/-- The terms that stand for a pricing model. -/
def pricingModelTerms : PricingModelType → List String
  | .apiUsageBased => ["token", "input", "output", "api", "mtok"]
  | .subscriptionSaas => ["per user", "per seat", "monthly", "annually"]
  | .enterpriseContract => ["enterprise", "contact sales", "contact us"]
  | .openWeightSelfHosted | .licenseBased =>
      ["open weight", "open-weight", "license", "self-host"]
  | .notDisclosed => ["pricing", "plans", "billing", "enterprise"]

/-- The terms that `_window_for_field` looks for, in their order; the empty
items of a value are passed over. -/
def termsForField (field : String) (value : FieldValue) : List String :=
  match field, value with
  | "price_rows", .rows rows =>
      match rows.find? (·.price ≠ "") with
      | some row => [row.price]
      | none => ["pricing", "plans", "billing", "enterprise"]
  | "pricing_model_type", .text value =>
      match pricingModelTypes.find? (·.text = value) with
      | some modelType => pricingModelTerms modelType
      | none => [value].filter (· ≠ "")
  | "enterprise_condition", _ => ["enterprise", "contact sales", "contact us"]
  | _, .text value => [value].filter (· ≠ "")
  | _, .texts values => values.filter (· ≠ "")
  | _, _ => []

/-- `_window_for_field`; `_window_for_terms` and `_window_for_value` look for
terms in the same way. -/
def windowForField (field : String) (value : FieldValue) :
    Option (List Char) :=
  windowAt text
    (foundTerm text ((termsForField field value).map String.toList))

end Quotes

/-- The quote of a field; none at all when the window cannot be cut. -/
def pricingQuote [PyRuntime] (page : CapturedPage)
    (entry : String × FieldValue) : Option (Option EvidenceQuote) :=
  if ! entry.2.filled then some none
  else
    match windowForField page.pageText.toList entry.1 entry.2 with
    | none => none
    | some [] => some none
    | some snippet =>
        some (some {
          text := String.ofList snippet
          sourceUrl := some page.finalUrl
          field := entry.1 })

/-- The quotes of the fields that have one, up to a number. -/
def cappedQuotes {Entry : Type}
    (quoteOf : Entry → Option (Option EvidenceQuote)) (cap : Nat)
    (entries : List Entry) : Option (List EvidenceQuote) :=
  (entries.mapM quoteOf).map fun quotes => (quotes.filterMap id).take cap

/-- The fields of `extract_pricing_model`. -/
def pricingFieldValues [PyRuntime] (brief : ResearchBrief)
    (page : CapturedPage) : List (String × FieldValue) :=
  let text := page.pageText.toList
  let normalized := casefoldChars text
  [("pricing_model_type",
      .text (pricingModelType brief.competitor normalized).text),
    ("price_rows", .rows (priceRows text)),
    ("tier_names", .texts (tierNames text)),
    ("price_points", .texts ((pricePoints text).map String.ofList)),
    ("billing_cycle", .texts ((billingCycle normalized).map String.ofList)),
    ("usage_limits", .texts ((usageLimits text).map String.ofList)),
    ("enterprise_condition", .text (enterpriseCondition normalized))]

/-- `_confidence`. -/
def pricingConfidence (fields : List (String × FieldValue))
    (missingFields : List String) (qualityScore : Float) : Float :=
  let filled := (pricingFields.countP (fieldFilled fields)).toFloat
  let base := filled / pricingFields.length.toFloat
  let penalty := min 0.25 (missingFields.length.toFloat * 0.04)
  max 0.2 (min 0.98 (qualityScore * 0.45 + base * 0.55 - penalty))

/-- The result of `extract_pricing_model`, once the quotes are there. -/
def pricingExtraction [PyRuntime] (brief : ResearchBrief)
    (page : CapturedPage) (quotes : List EvidenceQuote) : ExtractionResult :=
  let fields := pricingFieldValues brief page
  let modelType := pricingModelType brief.competitor
    (casefoldChars page.pageText.toList)
  let selfHosted : Bool :=
    modelType = .openWeightSelfHosted || modelType = .licenseBased
  let missingFields := pricingFields.filter fun field =>
    ! fieldFilled fields field &&
      ! (field ∈ ["tier_names", "price_points", "billing_cycle"] && selfHosted)
  let status : ExtractionStatus :=
    if selfHosted ∧ ! fieldFilled fields "price_points" then .notApplicable
    else if missingFields.length ≤ 2 then .extracted
    else .partiallyExtracted
  { competitor := brief.competitor
    dimension := brief.dimension
    sourceCandidateId := page.candidateId
    capturedPageId := page.id
    fields := fields
    quotes := quotes
    confidence := pricingConfidence fields missingFields page.qualityScore
    extractorName := "pricing_model"
    status := status
    missingFields := missingFields
    notApplicableReason :=
      if status = .notApplicable then
        some ("Open-weight or license-based model access is not directly " ++
          "comparable to SaaS/API tiers.")
      else none }

/-- `extract_pricing_model`, unless a window raises. -/
def extractPricingModel [PyRuntime] (brief : ResearchBrief)
    (page : CapturedPage) : Option ExtractionResult :=
  (cappedQuotes (pricingQuote page) 6 (pricingFieldValues brief page)).map
    (pricingExtraction brief page)

end CompetiScope
