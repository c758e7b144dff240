import CompetiScope.Foundation.Collections
import CompetiScope.Foundation.Repr
import CompetiScope.Research.EvidenceAdmission

/-!
# Normalised pricing fields

The pricing fields that are made of all accepted evidence items on pricing:
one field for each price row, or else one for each position of the lists of
tiers, prices, billing cycles and limits.
-/

namespace CompetiScope

open Foundation Foundation.Json

/-! ## Items and fields -/

/-- The part of an `EvidenceItem` that is read here, with any JSON value. -/
structure PricingEvidence where
  id : String
  competitor : String
  dimension : String
  field : String
  value : Json
  capturedPageId : String
  sourceUrl : Option String := none
  quote : String := ""
  confidence : Rat := 0
  status : EvidenceStatus
  bounded : 0 ≤ confidence ∧ confidence ≤ 1

structure NormalizedPricingField where
  competitor : String
  modelType : String
  tierName : String
  price : String
  billingCycle : String
  usageLimit : String
  enterpriseCondition : String
  sourceQuote : String
  evidenceItemIds : List String
  sourceUrl : Option String
  confidence : Rat
  deriving DecidableEq

/-- A row of `_pricing_rows`. -/
structure PricingRow where
  tierName : String
  price : String
  billingCycle : String
  usageLimit : String
  sourceQuote : String
  evidenceItemIds : List String
  deriving DecidableEq

section Texts

variable [PyRuntime] (isPrintable : Char → Bool)

/-- `_clean_text`. -/
def cleanText (value : Option Json) : String :=
  strip (squeeze (textOrEmpty isPrintable value))

/-- A value of a list as a text without white space around it. -/
def itemText : Json → Option String
  | .null => none
  | value =>
      let text := strip (Json.text isPrintable value)
      if text = "" then none else some text

mutual

/-- `_string_list`. -/
def stringTexts : Json → List String
  | .null => []
  | .obj fields => fieldTexts fields
  | .arr items => items.filterMap (itemText isPrintable)
  | value => (itemText isPrintable value).toList

def fieldTexts : List (String × Json) → List String
  | [] => []
  | (_, value) :: fields => stringTexts value ++ fieldTexts fields

end

/-- `_first_value`. -/
def firstValue : Json → String
  | .str value => strip value
  | .obj fields =>
      ((["name", "value", "label", "status"].filterMap fun key =>
        match fieldOf key fields with
        | some (.str value) => if strip value = "" then none
            else some (strip value)
        | _ => none).head?).getD ""
  | value => (stringTexts isPrintable value).head?.getD ""

/-- `_first_text`. -/
def firstFieldText (items : List PricingEvidence) (field : String) : String :=
  (((items.filter (·.field = field)).map fun item =>
    firstValue isPrintable item.value).find? (· ≠ "")).getD ""

/-- `_dedupe_keep_order`. -/
def dedupeKeepOrder (values : List String) : List String :=
  distinctBy casefold values

/-- `_list_texts`. -/
def listTexts (items : List PricingEvidence) (field : String) : List String :=
  dedupeKeepOrder ((items.filter (·.field = field)).flatMap fun item =>
    stringTexts isPrintable item.value)

end Texts

/-- `_nth_or_empty`. -/
def nthOrEmpty (values : List String) (index : Nat) : String :=
  match values[index]? with
  | some value => value
  | none => values.getLast?.getD ""

/-- `_best_quote`. -/
def bestQuote (items : List PricingEvidence) (preferredFields : List String) :
    String :=
  let ordered := (preferredFields.flatMap fun field =>
    items.filter (·.field = field)) ++ items
  ((ordered.map fun item => strip item.quote).find? (· ≠ "")).getD ""

/-- The URL of an item, if it is not empty. -/
def PricingEvidence.url (item : PricingEvidence) : Option String :=
  item.sourceUrl.filter (· ≠ "")

/-- `_first_attr(items, "source_url") or None`. -/
def firstUrl (items : List PricingEvidence) : Option String :=
  items.findSome? (·.url)

/-- `_first_attr(items, "competitor")`. -/
def firstCompetitor (items : List PricingEvidence) : String :=
  ((items.map (·.competitor)).find? (· ≠ "")).getD ""

/-- The greatest confidence. -/
def bestConfidence (items : List PricingEvidence) : Rat :=
  (items.map (·.confidence)).foldl max 0

section Fields

variable [PyRuntime] (isPrintable : Char → Bool)

/-- The accepted items on pricing. -/
def pricingItems (evidenceItems : List PricingEvidence) :
    List PricingEvidence :=
  evidenceItems.filter fun item =>
    item.status = .accepted ∧ contains (casefold item.dimension) "pricing"

/-- The rows that the value of an item lists. -/
def rawRows (item : PricingEvidence) : List (List (String × Json)) :=
  if item.field = "price_rows" then
    match item.value with
    | .arr rows => rows.filterMap fun row =>
        match row with
        | .obj fields => some fields
        | _ => none
    | _ => []
  else []

def pricingRow (item : PricingEvidence) (raw : List (String × Json)) :
    PricingRow :=
  { tierName := cleanText isPrintable (fieldOf "tier_name" raw)
    price := cleanText isPrintable (fieldOf "price" raw)
    billingCycle := cleanText isPrintable (fieldOf "billing_cycle" raw)
    usageLimit := cleanText isPrintable (fieldOf "usage_limit" raw)
    sourceQuote := strip item.quote
    evidenceItemIds := [item.id] }

/-- `_pricing_rows`. -/
def pricingRows (items : List PricingEvidence) : List PricingRow :=
  distinctBy (fun row => (casefold row.tierName, casefold row.price,
    casefold row.billingCycle))
    ((items.flatMap fun item =>
      (rawRows item).map (pricingRow isPrintable item)).filter (·.price ≠ ""))

/-- The field of a row. -/
def fieldOfRow (items : List PricingEvidence) (row : PricingRow) :
    NormalizedPricingField :=
  { competitor := firstCompetitor items
    modelType := firstFieldText isPrintable items "pricing_model_type"
    tierName := row.tierName
    price := row.price
    billingCycle := row.billingCycle
    usageLimit := row.usageLimit
    enterpriseCondition := firstFieldText isPrintable items "enterprise_condition"
    sourceQuote := row.sourceQuote
    evidenceItemIds := row.evidenceItemIds
    sourceUrl := firstUrl items
    confidence := bestConfidence items }

/-- The number of the fields that are made of lists. -/
def listRows (items : List PricingEvidence) : Nat :=
  max 1 (max (listTexts isPrintable items "tier_names").length
    (max (listTexts isPrintable items "price_points").length
      (max (listTexts isPrintable items "billing_cycle").length
        (listTexts isPrintable items "usage_limits").length)))

/-- The field at a position of the lists. -/
def fieldAt (items : List PricingEvidence) (index : Nat) :
    NormalizedPricingField :=
  { competitor := firstCompetitor items
    modelType := firstFieldText isPrintable items "pricing_model_type"
    tierName := nthOrEmpty (listTexts isPrintable items "tier_names") index
    price := nthOrEmpty (listTexts isPrintable items "price_points") index
    billingCycle :=
      nthOrEmpty (listTexts isPrintable items "billing_cycle") index
    usageLimit := nthOrEmpty (listTexts isPrintable items "usage_limits") index
    enterpriseCondition := firstFieldText isPrintable items "enterprise_condition"
    sourceQuote := bestQuote items ["price_points", "pricing_model_type"]
    evidenceItemIds := items.map (·.id)
    sourceUrl := firstUrl items
    confidence := bestConfidence items }

/-- `normalized_pricing_fields_from_evidence_items`. -/
def normalizedPricingFieldsFromEvidenceItems
    (evidenceItems : List PricingEvidence) : List NormalizedPricingField :=
  let items := pricingItems evidenceItems
  if items = [] then []
  else
    let rows := pricingRows isPrintable items
    if rows ≠ [] then rows.map (fieldOfRow isPrintable items)
    else (List.range (listRows isPrintable items)).map
      (fieldAt isPrintable items)

end Fields

end CompetiScope
