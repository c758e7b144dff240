import CompetiScope.Foundation.Grouped
import CompetiScope.Research.PricingFields
import Mathlib.Algebra.Order.Ring.Rat
import Mathlib.Data.List.MinMax
import Mathlib.Tactic.NormNum

/-!
# The attribution of pricing fields

When a pricing field is the statement of one page: a row has the URL and the
confidence of its item, and the lists stand side by side on a page.
-/

namespace CompetiScope

open Foundation Foundation.Json

section Attribution

variable [PyRuntime] (isPrintable : Char → Bool)

/-- The values stand in one row of an item; a row has a price. -/
def InRow (items : List PricingEvidence) (field : NormalizedPricingField) :
    Prop :=
  field.price ≠ "" ∧ ∃ item ∈ items, ∃ raw ∈ rawRows item,
    field.tierName = cleanText isPrintable (fieldOf "tier_name" raw) ∧
      field.price = cleanText isPrintable (fieldOf "price" raw) ∧
        field.billingCycle =
            cleanText isPrintable (fieldOf "billing_cycle" raw) ∧
          field.usageLimit = cleanText isPrintable (fieldOf "usage_limit" raw)

/-- The values of a field on a page, in order. -/
def pageTexts (items : List PricingEvidence) (pageId field : String) :
    List String :=
  (items.filter fun item =>
    item.capturedPageId = pageId ∧ item.field = field).flatMap fun item =>
      stringTexts isPrintable item.value

/-- The four values stand at one position of the lists of a page. -/
def SideBySide (items : List PricingEvidence)
    (tierName price billingCycle usageLimit : String) : Prop :=
  ∃ (pageId : String) (position : Nat),
    (pageTexts isPrintable items pageId "tier_names")[position]?.getD "" =
        tierName ∧
      (pageTexts isPrintable items pageId "price_points")[position]?.getD "" =
          price ∧
        (pageTexts isPrintable items pageId
            "billing_cycle")[position]?.getD "" = billingCycle ∧
          (pageTexts isPrintable items pageId
            "usage_limits")[position]?.getD "" = usageLimit

/-- The field keeps its attribution. -/
structure PricingAttributed (evidenceItems : List PricingEvidence)
    (field : NormalizedPricingField) : Prop where
  source : ∃ item ∈ evidenceItems, item.id ∈ field.evidenceItemIds ∧
    item.url = field.sourceUrl ∧ strip item.quote = field.sourceQuote
  confidence : ∃ item ∈ evidenceItems, item.id ∈ field.evidenceItemIds ∧
    field.confidence ≤ item.confidence
  paired : InRow isPrintable (pricingItems evidenceItems) field ∨
    SideBySide isPrintable (pricingItems evidenceItems) field.tierName
      field.price field.billingCycle field.usageLimit

/-- The item of a row has the first URL and the best confidence. -/
structure RowStands (evidenceItems : List PricingEvidence) (row : PricingRow) :
    Prop where
  source : ∃ item ∈ evidenceItems, item.id ∈ row.evidenceItemIds ∧
    item.url = firstUrl (pricingItems evidenceItems) ∧
      strip item.quote = row.sourceQuote
  confidence : ∃ item ∈ evidenceItems, item.id ∈ row.evidenceItemIds ∧
    ∀ other ∈ pricingItems evidenceItems, other.confidence ≤ item.confidence

/-- One item has the first URL and the best quote, and the entries of the
lists without repetitions that have one index stand at one position of a
page. -/
structure ListsStand (evidenceItems : List PricingEvidence) : Prop where
  source : ∃ item ∈ evidenceItems,
    item.id ∈ (pricingItems evidenceItems).map (·.id) ∧
      item.url = firstUrl (pricingItems evidenceItems) ∧
        strip item.quote = bestQuote (pricingItems evidenceItems)
          ["price_points", "pricing_model_type"]
  inStep : ∀ index < listRows isPrintable (pricingItems evidenceItems),
    let entry field :=
      nthOrEmpty (listTexts isPrintable (pricingItems evidenceItems) field)
        index
    SideBySide isPrintable (pricingItems evidenceItems) (entry "tier_names")
      (entry "price_points") (entry "billing_cycle") (entry "usage_limits")

end Attribution

/-! ## The best confidence -/

theorem bestConfidence_le_iff {items : List PricingEvidence}
    {item : PricingEvidence} :
    bestConfidence items ≤ item.confidence ↔
      ∀ other ∈ items, other.confidence ≤ item.confidence := by
  rw [bestConfidence, foldl_max_le_iff, List.forall_mem_map]
  exact and_iff_right item.bounded.1

/-- Some item has the best confidence. -/
theorem exists_best {items : List PricingEvidence} (filled : items ≠ []) :
    ∃ item ∈ items, bestConfidence items ≤ item.confidence := by
  obtain ⟨best, isBest⟩ := Option.ne_none_iff_exists'.mp
    (fun none => filled (List.argmax_eq_none (f := (·.confidence)).mp none))
  refine ⟨best, List.argmax_mem isBest, bestConfidence_le_iff.mpr ?_⟩
  exact fun other member => List.le_of_mem_argmax member isBest

/-! ## Rows and lists -/

section Fields

variable [PyRuntime] {isPrintable : Char → Bool}
  {evidenceItems items : List PricingEvidence}

/-- A row is one that an item lists. -/
theorem mem_pricingRows {row : PricingRow}
    (member : row ∈ pricingRows isPrintable items) :
    row.price ≠ "" ∧ ∃ item ∈ items, ∃ raw ∈ rawRows item,
      row = pricingRow isPrintable item raw := by
  obtain ⟨inItems, priced⟩ := List.mem_filter.mp (mem_of_mem_distinctBy member)
  obtain ⟨item, isItem, inRows⟩ := List.mem_flatMap.mp inItems
  obtain ⟨raw, isRaw, rfl⟩ := List.mem_map.mp inRows
  exact ⟨of_decide_eq_true priced, item, isItem, raw, isRaw, rfl⟩

theorem rowField_attributed_iff {row : PricingRow}
    (member : row ∈ pricingRows isPrintable (pricingItems evidenceItems)) :
    PricingAttributed isPrintable evidenceItems
        (fieldOfRow isPrintable (pricingItems evidenceItems) row) ↔
      RowStands evidenceItems row := by
  constructor
  · intro attributed
    constructor
    case source => exact attributed.source
    case confidence =>
      obtain ⟨item, isItem, isCited, best⟩ := attributed.confidence
      exact ⟨item, isItem, isCited, bestConfidence_le_iff.mp best⟩
  · intro stands
    constructor
    case source => exact stands.source
    case confidence =>
      obtain ⟨item, isItem, isCited, best⟩ := stands.confidence
      exact ⟨item, isItem, isCited, bestConfidence_le_iff.mpr best⟩
    case paired =>
      obtain ⟨priced, item, isItem, raw, isRaw, rfl⟩ := mem_pricingRows member
      exact .inl ⟨priced, item, isItem, raw, isRaw, rfl, rfl, rfl, rfl⟩

/-- Without price rows no values stand in one. -/
theorem rawRows_price_empty (noRows : pricingRows isPrintable items = [])
    {item : PricingEvidence} (isItem : item ∈ items)
    {raw : List (String × Json)} (isRaw : raw ∈ rawRows item) :
    cleanText isPrintable (fieldOf "price" raw) = "" := by
  by_contra filled
  have listed : pricingRow isPrintable item raw ∈
      ((items.flatMap fun item =>
        (rawRows item).map (pricingRow isPrintable item)).filter
          (·.price ≠ "")) := by
    apply List.mem_filter.mpr
    refine ⟨List.mem_flatMap.mpr ⟨item, isItem, ?_⟩, decide_eq_true filled⟩
    exact List.mem_map_of_mem isRaw
  obtain ⟨kept, isKept, -⟩ := exists_mem_distinctBy
    (fun row : PricingRow => (casefold row.tierName, casefold row.price,
      casefold row.billingCycle)) listed
  have none : kept ∈ pricingRows isPrintable items := isKept
  rw [noRows] at none
  cases none

theorem not_inRow (noRows : pricingRows isPrintable items = [])
    (field : NormalizedPricingField) : ¬ InRow isPrintable items field := by
  intro inRow
  obtain ⟨priced, item, isItem, raw, isRaw, -, price, -⟩ := inRow
  exact priced (price.trans (rawRows_price_empty noRows isItem isRaw))

/-- Every item on pricing is an item. -/
theorem mem_of_mem_pricingItems {item : PricingEvidence}
    (member : item ∈ pricingItems evidenceItems) : item ∈ evidenceItems :=
  List.mem_of_mem_filter member

theorem listFields_attributed_iff
    (filled : pricingItems evidenceItems ≠ [])
    (noRows : pricingRows isPrintable (pricingItems evidenceItems) = []) :
    (∀ index < listRows isPrintable (pricingItems evidenceItems),
        PricingAttributed isPrintable evidenceItems
          (fieldAt isPrintable (pricingItems evidenceItems) index)) ↔
      ListsStand isPrintable evidenceItems := by
  constructor
  · intro attributed
    constructor
    case source =>
      have positive : 0 < listRows isPrintable (pricingItems evidenceItems) :=
        Nat.lt_of_lt_of_le Nat.zero_lt_one (Nat.le_max_left _ _)
      exact (attributed 0 positive).source
    case inStep =>
      intro index inside
      rcases (attributed index inside).paired with inRow | sideBySide
      · exact absurd inRow (not_inRow noRows _)
      · exact sideBySide
  · intro stand index inside
    constructor
    case source => exact stand.source
    case confidence =>
      obtain ⟨item, isItem, best⟩ := exists_best filled
      exact ⟨item, mem_of_mem_pricingItems isItem, List.mem_map_of_mem isItem,
        best⟩
    case paired => exact .inr (stand.inStep index inside)

end Fields

namespace PricingAttributionExample

@[reducible] local instance pricingAttributionRuntime : PyRuntime :=
  asciiRuntime

/-- A price row on a page of its own. -/
def item (id tierName price url quote : String) (confidence : Rat)
    (bounded : 0 ≤ confidence ∧ confidence ≤ 1) : PricingEvidence :=
  { id := id
    competitor := "Notion"
    dimension := "pricing"
    field := "price_rows"
    value := .arr [.obj [("tier_name", .str tierName),
      ("price", .str price)]]
    capturedPageId := "page-" ++ id
    sourceUrl := some url
    quote := quote
    confidence := confidence
    status := .accepted
    bounded := bounded }

/-- Two pages with a price row each. -/
def evidenceItems : List PricingEvidence :=
  [item "first" "Plus" "$10" "https://notion.so/pricing" "Plus is $10."
      (9 / 10) (by norm_num),
    item "second" "Team" "$20" "https://blog.test/notion" "Team is $20."
      (2 / 5) (by norm_num)]

end PricingAttributionExample

end CompetiScope
