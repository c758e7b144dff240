import CompetiScope.Research.EvidenceAdmission

/-!
# Field readings

The extractors read a page field by field: a value, and a quote unless no
window of the page is acceptable.  An extraction keeps the quotes of the first
fields that have one, and a quote that it keeps is acceptable and names its
field.
-/

namespace CompetiScope

open Foundation

/-- What an extractor reads for a field; the quote is missing altogether when
its window cannot be cut. -/
structure FieldReading where
  field : String
  value : FieldValue
  quote : Option (Option EvidenceQuote)

section Readings

variable [PyRuntime]

/-- The readings of the extractor for the dimension of a brief. -/
def fieldReadings (brief : ResearchBrief) (page : CapturedPage) :
    List FieldReading :=
  match signalDimension brief.dimension with
  | .pricing => (pricingFieldValues brief page).map fun entry =>
      { field := entry.1
        value := entry.2
        quote := pricingQuote page entry }
  | .persona => (personaMatches page).map fun entry =>
      { field := entry.1
        value := .text (personaFieldValue entry.1 entry.2)
        quote := quoteForTerms .persona page entry.1 entry.2 }
  | .feature => (slotMatches page).map fun entry =>
      { field := entry.1
        value := .slot (slotStatus entry.2) entry.2
        quote := quoteForTerms .feature page entry.1 entry.2 }

/-- How many quotes an extraction keeps. -/
def quoteCap (brief : ResearchBrief) : Nat :=
  if signalDimension brief.dimension = .pricing then 6 else 8

/-- The acceptable quotes among readings. -/
def acceptableQuotes (readings : List FieldReading) : List EvidenceQuote :=
  readings.filterMap fun reading => reading.quote.join

/-- What an extraction holds of its readings. -/
structure ExtractedFrom (brief : ResearchBrief) (page : CapturedPage)
    (extraction : ExtractionResult) : Prop where
  fields : ∃ reason : List (String × FieldValue),
    extraction.fields =
        (fieldReadings brief page).map (fun reading =>
          (reading.field, reading.value)) ++ reason ∧
      ∀ entry ∈ reason, entry.1 = "confidence_reason"
  quotes : extraction.quotes =
    (acceptableQuotes (fieldReadings brief page)).take (quoteCap brief)
  pageId : extraction.capturedPageId = page.id
  dimension : extraction.dimension = brief.dimension

/-- Readings of different fields, each quote being acceptable for its field. -/
structure WellRead (dimension : SignalDimension)
    (readings : List FieldReading) : Prop where
  distinct : (readings.map (·.field)).Nodup
  named : ∀ reading ∈ readings,
    reading.field ≠ "" ∧ reading.field ≠ "confidence_reason"
  quoted : ∀ reading ∈ readings, ∀ quote, reading.quote = some (some quote) →
    quote.field = reading.field ∧
      quoteQualityProblem quote.text.toList dimension = none ∧
      emptyEvidenceValue reading.value = false

/-! ## Quotes up to a number -/

omit [PyRuntime] in
theorem cappedQuotes_eq {Entry : Type}
    (quoteOf : Entry → Option (Option EvidenceQuote)) (cap : Nat)
    (entries : List Entry) :
    cappedQuotes quoteOf cap entries =
      if ∀ entry ∈ entries, quoteOf entry ≠ none then
        some ((entries.filterMap fun entry => (quoteOf entry).join).take cap)
      else none := by
  have gathered : entries.mapM quoteOf =
      if ∀ entry ∈ entries, quoteOf entry ≠ none then
        some (entries.map fun entry => (quoteOf entry).join)
      else none := by
    induction entries with
    | nil => simp
    | cons entry entries induction =>
        rw [List.mapM_cons]
        cases read : quoteOf entry with
        | none =>
            rw [if_neg]
            · rfl
            · intro cut
              exact cut entry List.mem_cons_self read
        | some quote =>
            rw [induction]
            by_cases rest : ∀ entry ∈ entries, quoteOf entry ≠ none
            · rw [if_pos rest, if_pos (List.forall_mem_cons.mpr
                ⟨by rw [read]; exact Option.some_ne_none _, rest⟩),
                List.map_cons, read]
              rfl
            · rw [if_neg rest, if_neg]
              · rfl
              · intro cut
                exact rest (List.forall_mem_cons.mp cut).2
  unfold cappedQuotes
  rw [gathered]
  split
  · rw [Option.map_some, List.filterMap_map]
    rfl
  · rfl

/-- What an extractor makes of the quotes it keeps. -/
theorem extraction_spec {brief : ResearchBrief} {page : CapturedPage}
    {Entry : Type} {entries : List Entry} {readingOf : Entry → FieldReading}
    (make : List EvidenceQuote → ExtractionResult)
    (readings : fieldReadings brief page = entries.map readingOf)
    (extracted : extractPage brief page =
      (cappedQuotes (fun entry => (readingOf entry).quote) (quoteCap brief)
        entries).map make)
    (holds : ∀ quotes,
      quotes = (acceptableQuotes (entries.map readingOf)).take
        (quoteCap brief) → ExtractedFrom brief page (make quotes)) :
    (∀ reading ∈ fieldReadings brief page, reading.quote ≠ none) ∧
        (∃ extraction, extractPage brief page = some extraction ∧
          ExtractedFrom brief page extraction) ∨
      (∃ reading ∈ fieldReadings brief page, reading.quote = none) ∧
        extractPage brief page = none := by
  rw [extracted, cappedQuotes_eq, readings, List.forall_mem_map]
  by_cases cut : ∀ entry ∈ entries, (readingOf entry).quote ≠ none
  · rw [if_pos cut]
    refine .inl ⟨cut, _, rfl, holds _ ?_⟩
    unfold acceptableQuotes
    rw [List.filterMap_map]
    rfl
  · rw [if_neg cut]
    simp only [not_forall, not_not] at cut
    obtain ⟨entry, member, raised⟩ := cut
    exact .inr ⟨⟨_, List.mem_map_of_mem member, raised⟩, rfl⟩

/-- An extraction is made of the readings unless a window cannot be cut. -/
theorem extractPage_spec (brief : ResearchBrief) (page : CapturedPage) :
    (∀ reading ∈ fieldReadings brief page, reading.quote ≠ none) ∧
        (∃ extraction, extractPage brief page = some extraction ∧
          ExtractedFrom brief page extraction) ∨
      (∃ reading ∈ fieldReadings brief page, reading.quote = none) ∧
        extractPage brief page = none := by
  cases dimension : signalDimension brief.dimension with
  | pricing =>
      have readings : fieldReadings brief page =
          (pricingFieldValues brief page).map fun entry =>
            { field := entry.1
              value := entry.2
              quote := pricingQuote page entry } := by
        unfold fieldReadings
        rw [dimension]
      have cap : quoteCap brief = 6 := by
        unfold quoteCap
        rw [dimension]
        rfl
      refine extraction_spec (pricingExtraction brief page) readings ?_ ?_
      · unfold extractPage
        rw [dimension, cap]
        rfl
      · rintro quotes isQuotes
        constructor
        case fields =>
          refine ⟨[], ?_, by simp⟩
          rw [readings, List.map_map, List.append_nil]
          exact (List.map_id _).symm
        case quotes =>
          rw [readings]
          exact isQuotes
        case pageId => rfl
        case dimension => rfl
  | persona =>
      have readings : fieldReadings brief page =
          (personaMatches page).map fun entry =>
            { field := entry.1
              value := .text (personaFieldValue entry.1 entry.2)
              quote := quoteForTerms .persona page entry.1 entry.2 } := by
        unfold fieldReadings
        rw [dimension]
      have cap : quoteCap brief = 8 := by
        unfold quoteCap
        rw [dimension]
        rfl
      refine extraction_spec (personaExtraction brief page) readings ?_ ?_
      · unfold extractPage
        rw [dimension, cap]
        rfl
      · rintro quotes isQuotes
        constructor
        case fields =>
          rw [readings, List.map_map]
          refine ⟨_, rfl, ?_⟩
          intro entry member
          rw [List.mem_singleton.mp member]
        case quotes =>
          rw [readings]
          exact isQuotes
        case pageId => rfl
        case dimension => rfl
  | feature =>
      have readings : fieldReadings brief page =
          (slotMatches page).map fun entry =>
            { field := entry.1
              value := .slot (slotStatus entry.2) entry.2
              quote := quoteForTerms .feature page entry.1 entry.2 } := by
        unfold fieldReadings
        rw [dimension]
      have cap : quoteCap brief = 8 := by
        unfold quoteCap
        rw [dimension]
        rfl
      refine extraction_spec (featureExtraction brief page) readings ?_ ?_
      · unfold extractPage
        rw [dimension, cap]
        rfl
      · rintro quotes isQuotes
        constructor
        case fields =>
          refine ⟨[], ?_, by simp⟩
          rw [readings, List.map_map, List.append_nil]
          rfl
        case quotes =>
          rw [readings]
          exact isQuotes
        case pageId => rfl
        case dimension => rfl

end Readings

/-! ## Acceptable quotes -/

section Acceptable

variable [PyRuntime]

theorem quoteWindowFromMatch_acceptable {text quote : List Char}
    {start stop : Nat} {dimension : SignalDimension}
    (window : quoteWindowFromMatch text start stop dimension = some quote)
    (filled : quote ≠ []) : quoteQualityProblem quote dimension = none := by
  unfold quoteWindowFromMatch at window
  split at window
  · exact absurd (Option.some.inj window).symm filled
  · split at window
    · cases window
    · next start _ =>
        dsimp only at window
        generalize cleanEvidenceQuote _ dimension = cleaned at window
        have isQuote := Option.some.inj window
        by_cases fine : quoteQualityProblem cleaned dimension = none
        · rw [if_pos fine] at isQuote
          rw [← isQuote]
          exact fine
        · rw [if_neg fine] at isQuote
          exact absurd isQuote.symm filled

theorem expandToWordStart_eq_none_iff {text : List Char} {start : Nat} :
    expandToWordStart text start = none ↔ text.length < start := by
  induction start with
  | zero => simp [expandToWordStart]
  | succ start induction =>
      rw [expandToWordStart]
      cases read : text[start]? with
      | none =>
          rw [List.getElem?_eq_none_iff] at read
          simp only [true_iff]
          omega
      | some char =>
          have inside : start < text.length :=
            (List.getElem?_eq_some_iff.mp read).1
          dsimp only
          split
          · rw [induction]
            omega
          · simp only [reduceCtorEq, false_iff]
            omega

/-- A window cannot be cut when the match is too far behind the text. -/
theorem quoteWindowFromMatch_eq_none_iff {text : List Char}
    {start stop : Nat} {dimension : SignalDimension} :
    quoteWindowFromMatch text start stop dimension = none ↔
      text ≠ [] ∧ text.length + 140 < start := by
  unfold quoteWindowFromMatch
  split
  · next empty => simp [empty]
  · next filled =>
      have far : text.length < start - 140 ↔ text.length + 140 < start := by
        omega
      rw [← far, ← expandToWordStart_eq_none_iff]
      cases expandToWordStart text (start - 140) with
      | none => simp [filled]
      | some place => simp

theorem windowForField_eq_none_iff {text : List Char} {field : String}
    {value : FieldValue} :
    windowForField text field value = none ↔
      ∃ found ∈ foundTerm text ((termsForField field value).map
        String.toList), text ≠ [] ∧ text.length + 140 < found.2 := by
  unfold windowForField windowAt
  cases foundTerm text ((termsForField field value).map String.toList) with
  | none => simp
  | some found => simp [quoteWindowFromMatch_eq_none_iff]

theorem windowForField_acceptable {text quote : List Char} {field : String}
    {value : FieldValue}
    (window : windowForField text field value = some quote)
    (filled : quote ≠ []) : quoteQualityProblem quote .pricing = none := by
  unfold windowForField windowAt at window
  split at window
  · exact absurd (Option.some.inj window).symm filled
  · exact quoteWindowFromMatch_acceptable window filled

/-- The quote of a pricing field has a value and is acceptable. -/
theorem pricingQuote_spec {page : CapturedPage} {entry : String × FieldValue}
    {quote : EvidenceQuote} (quoted : pricingQuote page entry =
      some (some quote)) :
    entry.2.filled = true ∧ quote.field = entry.1 ∧
      quoteQualityProblem quote.text.toList .pricing = none := by
  unfold pricingQuote at quoted
  split at quoted
  · cases quoted
  · next filled =>
      split at quoted
      · cases quoted
      · cases quoted
      · next snippet shown window =>
          cases quoted
          refine ⟨by simpa using filled, rfl, ?_⟩
          rw [String.toList_ofList]
          exact windowForField_acceptable window
            (fun empty => shown empty)

omit [PyRuntime] in
/-- A place where a term is found is in the text. -/
theorem findAnyCase_le {term text : List Char} {place found : Nat}
    (isFound : findAnyCase term place text = some found) :
    found ≤ place + text.length := by
  induction text generalizing place with
  | nil =>
      rw [findAnyCase] at isFound
      split at isFound
      · rw [← Option.some.inj isFound]
        exact Nat.le_add_right _ _
      · cases isFound
  | cons char text induction =>
      rw [findAnyCase] at isFound
      rw [List.length_cons]
      split at isFound
      · rw [← Option.some.inj isFound]
        exact Nat.le_add_right _ _
      · have later := induction isFound
        omega

theorem quoteForTerms_ne_none {dimension : SignalDimension}
    {page : CapturedPage} {field : String} (terms : List String) :
    quoteForTerms dimension page field terms ≠ none := by
  induction terms with
  | nil => simp [quoteForTerms]
  | cons term terms induction =>
      rw [quoteForTerms]
      split
      · exact induction
      · next start found =>
          split
          · next raised =>
              have inText := findAnyCase_le found
              rw [quoteWindowFromMatch_eq_none_iff] at raised
              omega
          · exact induction
          · simp

/-- The quote of a term field is of a term that is there. -/
theorem quoteForTerms_spec {dimension : SignalDimension}
    {page : CapturedPage} {field : String} {terms : List String}
    {quote : EvidenceQuote}
    (quoted : quoteForTerms dimension page field terms = some (some quote)) :
    terms ≠ [] ∧ quote.field = field ∧
      quoteQualityProblem quote.text.toList dimension = none := by
  induction terms with
  | nil => cases quoted
  | cons term terms induction =>
      refine ⟨List.cons_ne_nil _ _, ?_⟩
      rw [quoteForTerms] at quoted
      split at quoted
      · exact (induction quoted).2
      · split at quoted
        · cases quoted
        · exact (induction quoted).2
        · next snippet shown window =>
            cases quoted
            refine ⟨rfl, ?_⟩
            rw [String.toList_ofList]
            exact quoteWindowFromMatch_acceptable window
              (fun empty => shown empty)

end Acceptable

end CompetiScope
