import CompetiScope.Foundation.Blocks
import CompetiScope.Research.FieldReadings

/-!
# Fields that are admitted

Every field with an acceptable quote is quoted and admitted just when the
quotes are no more than an extraction keeps: some field has no acceptable
quote, or the extractor has no more fields than that.
-/

namespace CompetiScope

open Foundation

section Length

/-- Runs of white space become shorter. -/
theorem length_replaceRuns_le {α : Type*} (drop : α → Bool) (mark : α)
    (inRun : Bool) (text : List α) :
    (replaceRuns drop mark inRun text).length ≤ text.length := by
  induction text generalizing inRun with
  | nil => exact Nat.le_refl _
  | cons value text induction =>
      rw [replaceRuns, List.length_cons]
      split
      · split
        · exact (induction true).trans (Nat.le_succ _)
        · exact Nat.succ_le_succ (induction true)
      · exact Nat.succ_le_succ (induction false)

theorem replaceRuns_append {α : Type*} (drop : α → Bool) (mark : α)
    (inRun : Bool) (front back : List α) :
    ∃ after, replaceRuns drop mark inRun (front ++ back) =
      replaceRuns drop mark inRun front ++ replaceRuns drop mark after back := by
  induction front generalizing inRun with
  | nil => exact ⟨inRun, rfl⟩
  | cons value front induction =>
      rw [List.cons_append, replaceRuns, replaceRuns]
      split
      · obtain ⟨after, same⟩ := induction true
        refine ⟨after, ?_⟩
        split
        · exact same
        · rw [same, List.cons_append]
      · obtain ⟨after, same⟩ := induction false
        exact ⟨after, by rw [same, List.cons_append]⟩

theorem mem_replaceRuns_of_dropped {α : Type*} {drop : α → Bool} {mark : α}
    {inRun : Bool} {text : List α} (dropped : ∀ value ∈ text, drop value) :
    ∀ value ∈ replaceRuns drop mark inRun text, value = mark := by
  intro value member
  rcases mem_replaceRuns member with isMark | ⟨inside, kept⟩
  · exact isMark
  · rw [dropped value inside] at kept
    cases kept

/-- Trimming takes what stands around the middle of a text. -/
theorem length_trimmed_le {α : Type*} {trims : α → Bool}
    {front middle back : List α} (inFront : ∀ value ∈ front, trims value)
    (behind : ∀ value ∈ back, trims value) :
    (((front ++ middle ++ back).dropWhile trims).rdropWhile trims).length ≤
      middle.length := by
  rw [List.append_assoc, List.dropWhile_append_of_pos inFront,
    List.dropWhile_append]
  split
  · have none : back.dropWhile trims = [] := by
      rw [List.dropWhile_eq_nil_iff]
      exact behind
    rw [none]
    exact Nat.zero_le _
  · unfold List.rdropWhile
    rw [List.reverse_append, List.dropWhile_append_of_pos (by
      intro value member
      exact behind value (List.mem_reverse.mp member)), List.length_reverse]
    calc ((middle.dropWhile trims).reverse.dropWhile trims).length
        ≤ (middle.dropWhile trims).reverse.length :=
          (List.dropWhile_suffix trims).length_le
      _ = (middle.dropWhile trims).length := List.length_reverse
      _ ≤ middle.length := (List.dropWhile_suffix trims).length_le

theorem length_normalizeWhitespace_le (text : List Char) :
    (normalizeWhitespace text).length ≤ (stripChars text).length := by
  obtain ⟨before, after, blankBefore, blankAfter, whole⟩ :=
    exists_stripChars text
  obtain ⟨inRun, isWhole⟩ := replaceRuns_append isSpace ' ' false
    (before ++ stripChars text) after
  obtain ⟨inMiddle, isFront⟩ := replaceRuns_append isSpace ' ' false before
    (stripChars text)
  have isEnd : ∀ char : Char, char = ' ' → isQuoteEnd char = true := by
    rintro char rfl
    decide
  unfold normalizeWhitespace collapseSpaces
  rw [whole] at isWhole
  rw [isWhole, isFront]
  refine (length_trimmed_le ?_ ?_).trans (length_replaceRuns_le _ _ _ _)
  · intro char member
    exact isEnd char (mem_replaceRuns_of_dropped blankBefore char member)
  · intro char member
    exact isEnd char (mem_replaceRuns_of_dropped blankAfter char member)

end Length

section Acceptable

variable [PyRuntime] {quote : List Char} {dimension : SignalDimension}

/-- An acceptable quote is long enough for admission. -/
theorem length_of_acceptable
    (acceptable : quoteQualityProblem quote dimension = none) :
    32 ≤ (stripChars quote).length := by
  unfold quoteQualityProblem at acceptable
  dsimp only at acceptable
  split at acceptable
  · cases acceptable
  · next long =>
      exact (Nat.le_of_not_lt long).trans (length_normalizeWhitespace_le quote)

theorem filled_of_acceptable
    (acceptable : quoteQualityProblem quote dimension = none) :
    quote ≠ [] := by
  rintro rfl
  have long := length_of_acceptable acceptable
  simp [stripChars, stripLeft] at long

end Acceptable

/-! ## Readings -/

section Readings

variable [PyRuntime]

omit [PyRuntime] in
theorem strip_ne_empty {value : String} {char : Char}
    (member : char ∈ value.toList) (visible : isSpace char = false) :
    strip value ≠ "" := by
  intro gone
  have none : stripChars value.toList = [] := by
    have same := congrArg String.toList gone
    rwa [strip, String.toList_ofList] at same
  have blank := blank_of_stripChars none char member
  rw [visible] at blank
  cases blank

omit [PyRuntime] in
theorem mem_intercalate_head {separator word : String} {words : List String}
    {char : Char} (member : char ∈ word.toList) :
    char ∈ (String.intercalate separator (word :: words)).toList := by
  rw [String.toList_intercalate, List.map_cons]
  cases words with
  | nil => simpa using member
  | cons next words =>
      rw [List.map_cons, List.intercalate_cons_cons]
      exact List.mem_append_left _ (List.mem_append_left _ member)

omit [PyRuntime] in
/-- A value that is there is not empty, if its text can be seen. -/
theorem emptyEvidenceValue_of_filled {value : FieldValue}
    (visible : ∀ text, value = .text text → text ≠ "" → strip text ≠ "")
    (unslotted : ∀ terms, value ≠ .slot .notFoundInSource terms)
    (filled : value.filled = true) : emptyEvidenceValue value = false := by
  cases value with
  | text text =>
      have seen := visible text rfl (of_decide_eq_true filled)
      exact decide_eq_false seen
  | texts values => exact decide_eq_false (of_decide_eq_true filled)
  | rows values => exact decide_eq_false (of_decide_eq_true filled)
  | slot status terms =>
      apply decide_eq_false
      rintro rfl
      exact unslotted terms rfl

omit [PyRuntime] in
theorem enterpriseCondition_visible (normalized : List Char)
    (filled : enterpriseCondition normalized ≠ "") :
    strip (enterpriseCondition normalized) ≠ "" := by
  unfold enterpriseCondition at filled ⊢
  split at filled
  · next contact =>
      rw [if_pos contact]
      decide
  · next noContact =>
      rw [if_neg noContact]
      split at filled
      · next enterprise =>
          rw [if_pos enterprise]
          decide
      · exact absurd rfl filled

/-- The values of pricing fields that are there are not empty. -/
theorem pricingFieldValues_filled {brief : ResearchBrief}
    {page : CapturedPage} {entry : String × FieldValue}
    (member : entry ∈ pricingFieldValues brief page)
    (filled : entry.2.filled = true) : emptyEvidenceValue entry.2 = false := by
  have models : ∀ modelType : PricingModelType,
      strip modelType.text ≠ "" := by
    intro modelType
    cases modelType <;> decide
  have condition := enterpriseCondition_visible
    (casefoldChars page.pageText.toList)
  unfold pricingFieldValues at member
  dsimp only at member
  generalize pricingModelType brief.competitor _ = modelType at member
  generalize priceRows _ = rows at member
  generalize tierNames _ = tiers at member
  generalize pricePoints _ = points at member
  generalize billingCycle _ = cycles at member
  generalize usageLimits _ = limits at member
  generalize enterpriseCondition _ = enterprise at member condition
  simp only [List.mem_cons, List.not_mem_nil, or_false] at member
  apply emptyEvidenceValue_of_filled ?_ ?_ filled
  · intro text isText seen
    rcases member with rfl | rfl | rfl | rfl | rfl | rfl | rfl
    · cases isText
      exact models modelType
    all_goals cases isText
    exact condition seen
  · intro terms isSlot
    rcases member with rfl | rfl | rfl | rfl | rfl | rfl | rfl
    all_goals cases isSlot

omit [PyRuntime] in
/-- The terms of the persona fields can be seen, also as titles. -/
theorem fieldTerms_visible : ∀ entry ∈ fieldTerms, ∀ term ∈ entry.2,
    (∃ char ∈ term.toList, isSpace char = false) ∧
      ∃ char ∈ (titleCase term).toList, isSpace char = false := by
  decide +kernel

omit [PyRuntime] in
/-- The value of a persona field with terms can be seen. -/
theorem personaFieldValue_visible {field : String} {terms matched : List String}
    (isField : (field, terms) ∈ fieldTerms) (among : matched ⊆ terms)
    (filled : matched ≠ []) : strip (personaFieldValue field matched) ≠ "" := by
  cases matched with
  | nil => exact absurd rfl filled
  | cons term matched =>
      obtain ⟨⟨char, inTerm, visible⟩, letter, inTitle, visibleTitle⟩ :=
        fieldTerms_visible _ isField term (among List.mem_cons_self)
      unfold personaFieldValue
      rw [List.take_succ_cons, List.map_cons]
      split
      · exact strip_ne_empty (mem_intercalate_head inTitle) visibleTitle
      · exact strip_ne_empty (mem_intercalate_head inTerm) visible

omit [PyRuntime] in
theorem named_of_names {readings : List FieldReading} {names : List String}
    (isNames : readings.map (·.field) = names)
    (proper : ∀ name ∈ names, name ≠ "" ∧ name ≠ "confidence_reason") :
    ∀ reading ∈ readings,
      reading.field ≠ "" ∧ reading.field ≠ "confidence_reason" := by
  intro reading member
  apply proper
  rw [← isNames]
  exact List.mem_map_of_mem member

theorem wellRead_fieldReadings (brief : ResearchBrief) (page : CapturedPage) :
    WellRead (signalDimension brief.dimension) (fieldReadings brief page) := by
  unfold fieldReadings
  cases signalDimension brief.dimension with
  | pricing =>
      have names : (pricingFieldValues brief page).map Prod.fst =
          ["pricing_model_type", "price_rows", "tier_names", "price_points",
            "billing_cycle", "usage_limits", "enterprise_condition"] := rfl
      constructor
      case distinct =>
        rw [List.map_map]
        show ((pricingFieldValues brief page).map Prod.fst).Nodup
        rw [names]
        decide
      case named =>
        apply named_of_names (List.map_map.trans names)
        decide
      case quoted =>
        rw [List.forall_mem_map]
        intro entry member quote quoted
        obtain ⟨filled, isField, acceptable⟩ := pricingQuote_spec quoted
        exact ⟨isField, acceptable, pricingFieldValues_filled member filled⟩
  | persona =>
      have names : (personaMatches page).map Prod.fst =
          fieldTerms.map Prod.fst := rfl
      constructor
      case distinct =>
        rw [List.map_map]
        show ((personaMatches page).map Prod.fst).Nodup
        rw [names]
        decide
      case named =>
        apply named_of_names (List.map_map.trans names)
        decide
      case quoted =>
        rw [List.forall_mem_map]
        intro entry member quote quoted
        obtain ⟨filled, isField, acceptable⟩ := quoteForTerms_spec quoted
        refine ⟨isField, acceptable, ?_⟩
        unfold personaMatches at member
        dsimp only at member
        obtain ⟨given, isGiven, rfl⟩ := List.mem_map.mp member
        exact decide_eq_false (personaFieldValue_visible isGiven
          List.filter_sublist.subset filled)
  | feature =>
      have names : (slotMatches page).map Prod.fst =
          slotTerms.map Prod.fst := rfl
      constructor
      case distinct =>
        rw [List.map_map]
        show ((slotMatches page).map Prod.fst).Nodup
        rw [names]
        decide
      case named =>
        apply named_of_names (List.map_map.trans names)
        decide
      case quoted =>
        rw [List.forall_mem_map]
        intro entry member quote quoted
        obtain ⟨filled, isField, acceptable⟩ := quoteForTerms_spec quoted
        refine ⟨isField, acceptable, ?_⟩
        match terms : entry.2 with
        | [] => exact absurd terms filled
        | [_] => rfl
        | _ :: _ :: _ => rfl

end Readings

end CompetiScope
