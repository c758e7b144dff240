import CompetiScope.Research.AdmittedFields

/-!
# The quotes an extraction keeps

Every field with an acceptable quote gets it, and is admitted, just when the
quotes are no more than an extraction keeps.
-/

namespace CompetiScope

open Foundation

section Quoted

variable [PyRuntime]

/-- An extraction without the fields whose names are not kept. -/
def keptFields (brief : ResearchBrief) (page : CapturedPage)
    (extraction : ExtractionResult) (keep : String → Bool) :
    ExtractionResult :=
  { extraction with
    fields := extraction.fields.filter fun entry => keep entry.1
    quotes := ((acceptableQuotes (fieldReadings brief page)).filter
      fun quote => keep quote.field).take (quoteCap brief) }

/-- How many fields of an extraction are accepted. -/
def acceptedCount (limits : AdmissionLimits) (pages : List CapturedPage)
    (extraction : ExtractionResult) : Nat :=
  (admitEvidenceItems limits [extraction] pages).countP
    (·.status = .accepted)

/-- The extraction and its page are good enough for admission. -/
def Admissible (limits : AdmissionLimits) (pages : List CapturedPage)
    (extraction : ExtractionResult) : Prop :=
  ¬ extraction.confidence < limits.minAcceptConfidence ∧
    ∃ page, pageById pages extraction.capturedPageId = some page ∧
      page.status = .ok ∧ ¬ page.qualityScore < limits.minPageQuality

/-- What is promised for the fields of an extraction of a page. -/
structure AdmitsFields (brief : ResearchBrief) (page : CapturedPage)
    (extraction : ExtractionResult) : Prop where
  quoted : ∀ reading ∈ fieldReadings brief page,
    (reading.field, reading.value) ∈ extraction.fields →
      emptyEvidenceValue reading.value = false →
        ∀ quote, reading.quote = some (some quote) →
          quote ∈ extraction.quotes
  admitted : ∀ reading ∈ fieldReadings brief page,
    (reading.field, reading.value) ∈ extraction.fields →
      emptyEvidenceValue reading.value = false →
        ∀ quote, reading.quote = some (some quote) →
          ∀ (limits : AdmissionLimits) (extractions : List ExtractionResult)
            (pages : List CapturedPage), extraction ∈ extractions →
            pageById pages page.id = some page →
            Admissible limits pages extraction →
              ∃ item ∈ admitEvidenceItems limits extractions pages,
                item.capturedPageId = page.id ∧ item.field = reading.field ∧
                  item.value = reading.value ∧ item.quote = quote.text ∧
                  item.status = .accepted
  monotone : ∀ (keep : String → Bool) (limits : AdmissionLimits)
    (pages : List CapturedPage),
    acceptedCount limits pages (keptFields brief page extraction keep) ≤
      acceptedCount limits pages extraction

/-- A page is extracted, and its fields are admitted as promised. -/
def AdmitsAllFields (brief : ResearchBrief) (page : CapturedPage) : Prop :=
  ∃ extraction, extractPage brief page = some extraction ∧
    AdmitsFields brief page extraction

/-! ## Quotes by field -/

section Quotes

variable {dimension : SignalDimension} {readings : List FieldReading}

omit [PyRuntime] in
theorem mem_acceptableQuotes {quote : EvidenceQuote} :
    quote ∈ acceptableQuotes readings ↔
      ∃ reading ∈ readings, reading.quote = some (some quote) := by
  unfold acceptableQuotes
  rw [List.mem_filterMap]
  constructor
  · rintro ⟨reading, member, joined⟩
    exact ⟨reading, member, Option.join_eq_some_iff.mp joined⟩
  · rintro ⟨reading, member, quoted⟩
    exact ⟨reading, member, Option.join_eq_some_iff.mpr quoted⟩

/-- The quotes name different fields, in the order of the readings. -/
theorem WellRead.quoteFields (wellRead : WellRead dimension readings) :
    ((acceptableQuotes readings).map (·.field)).Sublist
      (readings.map (·.field)) := by
  have quoted := wellRead.quoted
  unfold acceptableQuotes
  clear wellRead
  induction readings with
  | nil => exact List.Sublist.refl _
  | cons reading readings induction =>
      obtain ⟨isFirst, later⟩ := List.forall_mem_cons.mp quoted
      rw [List.map_cons, List.filterMap_cons]
      cases joined : reading.quote.join with
      | none => exact (induction later).cons _
      | some quote =>
          dsimp only
          rw [List.map_cons,
            (isFirst quote (Option.join_eq_some_iff.mp joined)).1]
          exact (induction later).cons_cons _

theorem WellRead.distinctQuotes (wellRead : WellRead dimension readings) :
    ((acceptableQuotes readings).map (·.field)).Nodup :=
  wellRead.quoteFields.nodup wellRead.distinct

omit [PyRuntime] in
theorem quoteByField_eq_some {quotes : List EvidenceQuote} {field : String}
    {quote : EvidenceQuote} (found : quoteByField quotes field = some quote) :
    quote ∈ quotes ∧ quote.field = field := by
  have member := List.mem_of_find?_eq_some found
  have isQuote := List.find?_some found
  simp only [Bool.and_eq_true, decide_eq_true_iff] at isQuote
  exact ⟨List.mem_reverse.mp member, isQuote.1.1.1⟩

omit [PyRuntime] in
theorem quoteByField_of_mem {quotes : List EvidenceQuote}
    {quote : EvidenceQuote} (distinct : (quotes.map (·.field)).Nodup)
    (member : quote ∈ quotes)
    (proper : quote.field ≠ "" ∧ quote.field ≠ "confidence_reason")
    (filled : quote.text ≠ "") :
    quoteByField quotes quote.field = some quote := by
  cases found : quoteByField quotes quote.field with
  | none =>
      have absent := List.find?_eq_none.mp found quote
        (List.mem_reverse.mpr member)
      simp [proper.1, proper.2, filled] at absent
  | some other =>
      obtain ⟨isMember, same⟩ := quoteByField_eq_some found
      rw [List.inj_on_of_nodup_map distinct isMember member same]

end Quotes

/-! ## Accepted items -/

section Accepted

variable {brief : ResearchBrief} {page : CapturedPage}
  {extraction : ExtractionResult} {limits : AdmissionLimits}
  {pages : List CapturedPage} {dimension : SignalDimension}

omit [PyRuntime] in
theorem pageReasons_eq_nil_iff {captured : Option CapturedPage} :
    pageReasons limits captured = [] ↔
      ∃ page, captured = some page ∧ page.status = .ok ∧
        ¬ page.qualityScore < limits.minPageQuality := by
  cases captured with
  | none => simp [pageReasons]
  | some page =>
      by_cases ok : page.status = .ok
      · by_cases low : page.qualityScore < limits.minPageQuality
        · simp [pageReasons, ok, low]
        · simp [pageReasons, ok, low]
      · simp [pageReasons, ok]

/-- An item is accepted if its quote is there where one is required. -/
theorem evidenceItem_accepted_iff {entry : String × FieldValue}
    (isDimension : signalDimension extraction.dimension = dimension)
    (acceptable : ∀ quote ∈ extraction.quotes,
      quoteQualityProblem quote.text.toList dimension = none) :
    (evidenceItem limits pages extraction entry).status = .accepted ↔
      Admissible limits pages extraction ∧
        (requiresFieldQuote extraction entry.1 = true →
          (quoteByField extraction.quotes entry.1).isSome = true) := by
  have accepted : (evidenceItem limits pages extraction entry).status =
      .accepted ↔
      admissionRejectionReasons limits extraction entry.1
        (quoteByField extraction.quotes entry.1)
        (pageById pages extraction.capturedPageId) = [] := by
    unfold evidenceItem
    dsimp only
    split
    · next none => simp [none]
    · next some => simp [some]
  rw [accepted]
  unfold admissionRejectionReasons Admissible
  rw [isDimension, List.append_eq_nil_iff, List.append_eq_nil_iff,
    List.append_eq_nil_iff]
  have confident : (if extraction.confidence < limits.minAcceptConfidence then
        ["extraction_confidence_below_" ++
          limits.twoDecimals limits.minAcceptConfidence] else []) = [] ↔
      ¬ extraction.confidence < limits.minAcceptConfidence := by
    split
    · next low => simp [low]
    · next high => simp [high]
  rw [confident, pageReasons_eq_nil_iff]
  cases found : quoteByField extraction.quotes entry.1 with
  | none => simp [and_assoc]
  | some quote =>
      have isAcceptable := acceptable quote (quoteByField_eq_some found).1
      have long : ¬ (stripChars quote.text.toList).length < 24 := by
        have enough := length_of_acceptable isAcceptable
        omega
      simp [isAcceptable, long]

/-- The fields of an extraction that are accepted. -/
theorem acceptedCount_eq
    (isDimension : signalDimension extraction.dimension = dimension)
    (acceptable : ∀ quote ∈ extraction.quotes,
      quoteQualityProblem quote.text.toList dimension = none)
    (admissible : Admissible limits pages extraction) :
    acceptedCount limits pages extraction =
      (extraction.fields.filter (! emptyEvidenceValue ·.2)).countP
        (fun entry => (quoteByField extraction.quotes entry.1).isSome) +
      (extraction.fields.filter (! emptyEvidenceValue ·.2)).countP
        (fun entry =>
          (quoteByField extraction.quotes entry.1).isNone &&
            ! requiresFieldQuote extraction entry.1) := by
  unfold acceptedCount admitEvidenceItems
  rw [List.flatMap_singleton, List.countP_map]
  generalize extraction.fields.filter (! emptyEvidenceValue ·.2) = fields
  induction fields with
  | nil => rfl
  | cons entry fields induction =>
      have accepted : decide ((evidenceItem limits pages extraction
          entry).status = .accepted) =
          ((quoteByField extraction.quotes entry.1).isSome ||
            ! requiresFieldQuote extraction entry.1) := by
        rw [Bool.eq_iff_iff, decide_eq_true_iff,
          evidenceItem_accepted_iff isDimension acceptable]
        simp only [admissible, true_and]
        cases requiresFieldQuote extraction entry.1 with
        | true => simp
        | false => simp
      rw [List.countP_cons, List.countP_cons, List.countP_cons, induction,
        Function.comp_apply, accepted]
      cases (quoteByField extraction.quotes entry.1) with
      | none =>
          cases requiresFieldQuote extraction entry.1 with
          | true => simp
          | false => simp [Nat.add_assoc]
      | some quote => simp [Nat.add_right_comm]

theorem acceptedCount_eq_zero
    (isDimension : signalDimension extraction.dimension = dimension)
    (acceptable : ∀ quote ∈ extraction.quotes,
      quoteQualityProblem quote.text.toList dimension = none)
    (inadmissible : ¬ Admissible limits pages extraction) :
    acceptedCount limits pages extraction = 0 := by
  unfold acceptedCount admitEvidenceItems
  rw [List.flatMap_singleton, List.countP_map, List.countP_eq_zero]
  intro entry member accepted
  have isAccepted := (evidenceItem_accepted_iff isDimension acceptable).mp
    (of_decide_eq_true accepted)
  exact inadmissible isAccepted.1

end Accepted

/-! ## Fewer fields -/

section Fewer

omit [PyRuntime] in
theorem mem_take_filter {α : Type*} {keep : α → Bool} {values : List α}
    {count : Nat} {value : α} (member : value ∈ values.take count)
    (kept : keep value = true) : value ∈ (values.filter keep).take count := by
  have whole := congrArg (List.filter keep)
    (List.take_append_drop count values)
  rw [List.filter_append] at whole
  have short : ((values.take count).filter keep).length ≤ count :=
    (List.length_filter_le keep _).trans (List.length_take_le _ _)
  rw [← whole, List.take_append]
  apply List.mem_append_left
  rw [List.take_of_length_le short]
  exact List.mem_filter.mpr ⟨member, kept⟩

/-- Quotes of different fields that all have a value. -/
structure QuotesFields (fields : List (String × FieldValue))
    (quotes : List EvidenceQuote) : Prop where
  distinct : ((fields.filter fun entry =>
    entry.1 ≠ "confidence_reason").map Prod.fst).Nodup
  distinctQuotes : (quotes.map (·.field)).Nodup
  proper : ∀ quote ∈ quotes,
    (quote.field ≠ "" ∧ quote.field ≠ "confidence_reason") ∧
      quote.text ≠ ""
  filled : ∀ quote ∈ quotes, ∃ value,
    (quote.field, value) ∈ fields ∧ emptyEvidenceValue value = false

omit [PyRuntime] in
theorem QuotesFields.count {fields : List (String × FieldValue)}
    {quotes : List EvidenceQuote} (quoted : QuotesFields fields quotes) :
    (fields.filter (! emptyEvidenceValue ·.2)).countP
        (fun entry => (quoteByField quotes entry.1).isSome) =
      quotes.length := by
  let named := ((fields.filter (! emptyEvidenceValue ·.2)).filter
    fun entry => (quoteByField quotes entry.1).isSome).map Prod.fst
  have isField : ∀ entry : String × FieldValue,
      (quoteByField quotes entry.1).isSome = true →
        ∃ quote ∈ quotes, quote.field = entry.1 := by
    intro entry found
    obtain ⟨quote, isQuote⟩ := Option.isSome_iff_exists.mp found
    exact ⟨quote, quoteByField_eq_some isQuote⟩
  have once : named.Nodup := by
    have part : ((fields.filter (! emptyEvidenceValue ·.2)).filter
        fun entry => (quoteByField quotes entry.1).isSome).Sublist
        (fields.filter fun entry => entry.1 ≠ "confidence_reason") := by
      have kept : ((fields.filter (! emptyEvidenceValue ·.2)).filter
          fun entry => (quoteByField quotes entry.1).isSome) =
          ((fields.filter (! emptyEvidenceValue ·.2)).filter fun entry =>
            (quoteByField quotes entry.1).isSome).filter fun entry =>
              entry.1 ≠ "confidence_reason" := by
        rw [eq_comm, List.filter_eq_self]
        intro entry member
        obtain ⟨quote, isQuote, same⟩ :=
          isField entry (List.mem_filter.mp member).2
        rw [← same]
        exact decide_eq_true (quoted.proper quote isQuote).1.2
      rw [kept]
      exact (List.filter_sublist.trans List.filter_sublist).filter _
    exact (part.map Prod.fst).nodup quoted.distinct
  have same : named.Perm (quotes.map (·.field)) := by
    rw [List.perm_ext_iff_of_nodup once quoted.distinctQuotes]
    intro field
    constructor
    · intro member
      obtain ⟨entry, isEntry, rfl⟩ := List.mem_map.mp member
      obtain ⟨quote, isQuote, same⟩ :=
        isField entry (List.mem_filter.mp isEntry).2
      exact List.mem_map.mpr ⟨quote, isQuote, same⟩
    · intro member
      obtain ⟨quote, isQuote, rfl⟩ := List.mem_map.mp member
      obtain ⟨value, isValue, filled⟩ := quoted.filled quote isQuote
      obtain ⟨proper, text⟩ := quoted.proper quote isQuote
      refine List.mem_map.mpr ⟨(quote.field, value),
        List.mem_filter.mpr ⟨List.mem_filter.mpr ⟨isValue, ?_⟩, ?_⟩, rfl⟩
      · simp [filled]
      · dsimp only
        rw [quoteByField_of_mem quoted.distinctQuotes isQuote proper text]
        rfl
  rw [List.countP_eq_length_filter, ← List.length_map Prod.fst,
    same.length_eq, List.length_map]

variable {brief : ResearchBrief} {page : CapturedPage}
  {extraction : ExtractionResult}

/-- The quotes of an extraction of a page, or of a part of its fields. -/
theorem ExtractedFrom.quotesFields
    (extracted : ExtractedFrom brief page extraction)
    (keep : String → Bool) :
    QuotesFields (keptFields brief page extraction keep).fields
      (keptFields brief page extraction keep).quotes := by
  have wellRead := wellRead_fieldReadings brief page
  obtain ⟨reason, isFields, isReason⟩ := extracted.fields
  have among : ∀ quote ∈ (keptFields brief page extraction keep).quotes,
      keep quote.field = true ∧
        ∃ reading ∈ fieldReadings brief page,
          reading.quote = some (some quote) := by
    intro quote member
    have kept := List.mem_filter.mp (List.mem_of_mem_take member)
    exact ⟨kept.2, mem_acceptableQuotes.mp kept.1⟩
  constructor
  case distinct =>
    have part : ((extraction.fields.filter fun entry => keep entry.1).filter
        fun entry => entry.1 ≠ "confidence_reason").Sublist
        ((fieldReadings brief page).map fun reading =>
          (reading.field, reading.value)) := by
      have noReason : reason.filter (fun entry =>
          entry.1 ≠ "confidence_reason") = [] := by
        rw [List.filter_eq_nil_iff]
        intro entry member
        simp [isReason entry member]
      refine (List.filter_sublist.filter _).trans ?_
      rw [isFields, List.filter_append, noReason, List.append_nil]
      exact List.filter_sublist
    refine (part.map Prod.fst).nodup ?_
    rw [List.map_map]
    exact wellRead.distinct
  case distinctQuotes =>
    have part : (keptFields brief page extraction keep).quotes.Sublist
        (acceptableQuotes (fieldReadings brief page)) :=
      (List.take_sublist _ _).trans List.filter_sublist
    exact (part.map _).nodup wellRead.distinctQuotes
  case proper =>
    intro quote member
    obtain ⟨-, reading, isReading, isQuote⟩ := among quote member
    obtain ⟨isField, acceptable, -⟩ :=
      wellRead.quoted reading isReading quote isQuote
    rw [isField]
    refine ⟨wellRead.named reading isReading, ?_⟩
    rintro empty
    apply filled_of_acceptable acceptable
    rw [empty]
    rfl
  case filled =>
    intro quote member
    obtain ⟨kept, reading, isReading, isQuote⟩ := among quote member
    obtain ⟨isField, -, filled⟩ :=
      wellRead.quoted reading isReading quote isQuote
    refine ⟨reading.value, List.mem_filter.mpr ⟨?_, kept⟩, filled⟩
    rw [isFields, isField]
    exact List.mem_append_left _ (List.mem_map_of_mem isReading)

/-- The quotes of an extraction are acceptable. -/
theorem acceptable_keptFields (keep : String → Bool) :
    ∀ quote ∈ (keptFields brief page extraction keep).quotes,
      quoteQualityProblem quote.text.toList
        (signalDimension brief.dimension) = none := by
  intro quote member
  have kept := List.mem_filter.mp (List.mem_of_mem_take member)
  obtain ⟨reading, isReading, isQuote⟩ := mem_acceptableQuotes.mp kept.1
  exact ((wellRead_fieldReadings brief page).quoted reading isReading quote
    isQuote).2.1

/-- All fields are kept. -/
theorem ExtractedFrom.keptFields_all
    (extracted : ExtractedFrom brief page extraction) :
    keptFields brief page extraction (fun _ => true) = extraction := by
  have fields : extraction.fields.filter (fun _ => true) =
      extraction.fields := List.filter_true _
  have quotes := extracted.quotes
  unfold keptFields
  rw [fields, List.filter_true, ← quotes]

/-- A field that needs no quote and has none among fewer fields has none. -/
theorem ExtractedFrom.count_unquoted_le
    (extracted : ExtractedFrom brief page extraction)
    (keep : String → Bool) :
    ((keptFields brief page extraction keep).fields.filter
        (! emptyEvidenceValue ·.2)).countP (fun entry =>
          (quoteByField (keptFields brief page extraction keep).quotes
            entry.1).isNone && ! requiresFieldQuote extraction entry.1) ≤
      (extraction.fields.filter (! emptyEvidenceValue ·.2)).countP
        fun entry => (quoteByField extraction.quotes entry.1).isNone &&
          ! requiresFieldQuote extraction entry.1 := by
  have kept := extracted.quotesFields keep
  have part : ((keptFields brief page extraction keep).fields.filter
      (! emptyEvidenceValue ·.2)).Sublist
      (extraction.fields.filter (! emptyEvidenceValue ·.2)) :=
    List.filter_sublist.filter _
  refine (List.countP_mono_left ?_).trans part.countP_le
  intro entry member unquoted
  rw [Bool.and_eq_true] at unquoted ⊢
  refine ⟨?_, unquoted.2⟩
  have isKept : keep entry.1 = true :=
    (List.mem_filter.mp (List.mem_filter.mp member).1).2
  cases found : quoteByField extraction.quotes entry.1 with
  | none => rfl
  | some quote =>
      obtain ⟨isQuote, same⟩ := quoteByField_eq_some found
      rw [extracted.quotes] at isQuote
      have stays : quote ∈ (keptFields brief page extraction keep).quotes :=
        mem_take_filter isQuote (by
          rw [same]
          exact isKept)
      obtain ⟨proper, text⟩ := kept.proper quote stays
      have again := quoteByField_of_mem kept.distinctQuotes stays proper text
      rw [← same, again] at unquoted
      cases unquoted.1

/-- With fewer fields no more of them are accepted. -/
theorem ExtractedFrom.monotone
    (extracted : ExtractedFrom brief page extraction)
    (keep : String → Bool) (limits : AdmissionLimits)
    (pages : List CapturedPage) :
    acceptedCount limits pages (keptFields brief page extraction keep) ≤
      acceptedCount limits pages extraction := by
  have isDimension : signalDimension extraction.dimension =
      signalDimension brief.dimension := by
    rw [extracted.dimension]
  by_cases admissible : Admissible limits pages extraction
  · have whole := @acceptable_keptFields _ brief page extraction
      fun _ => true
    have quotesWhole := extracted.quotesFields fun _ => true
    rw [extracted.keptFields_all] at whole quotesWhole
    have part := @acceptedCount_eq _
      (keptFields brief page extraction keep) limits pages _ isDimension
      (acceptable_keptFields keep) admissible
    rw [acceptedCount_eq isDimension whole admissible, quotesWhole.count,
      part, (extracted.quotesFields keep).count]
    apply Nat.add_le_add
    · rw [extracted.quotes]
      unfold keptFields
      dsimp only
      rw [List.length_take, List.length_take]
      have fewer := List.length_filter_le (fun quote : EvidenceQuote =>
        keep quote.field) (acceptableQuotes (fieldReadings brief page))
      omega
    · exact extracted.count_unquoted_le keep
  · have none := @acceptedCount_eq_zero _
      (keptFields brief page extraction keep) limits pages _ isDimension
      (acceptable_keptFields keep) admissible
    rw [none]
    exact Nat.zero_le _

end Fewer

/-! ## All quotes -/

section All

variable {brief : ResearchBrief} {page : CapturedPage}
  {extraction : ExtractionResult}

/-- When the windows are cut, and the quotes are not too many. -/
structure QuotesFit (brief : ResearchBrief) (page : CapturedPage) : Prop where
  near : signalDimension brief.dimension = .pricing →
    ∀ entry ∈ pricingFieldValues brief page, entry.2.filled = true →
      ∀ found ∈ foundTerm page.pageText.toList
          ((termsForField entry.1 entry.2).map String.toList),
        found.2 ≤ page.pageText.toList.length + 140
  spared : signalDimension brief.dimension = .persona ∨
    ∃ reading ∈ fieldReadings brief page, reading.quote = some none

omit [PyRuntime] in
theorem subset_take_iff {α : Type*} {values : List α} (once : values.Nodup)
    (count : Nat) :
    (∀ value ∈ values, value ∈ values.take count) ↔
      values.length ≤ count := by
  constructor
  · intro inside
    have within := (once.subperm inside).length_le
    rw [List.length_take] at within
    omega
  · intro short value member
    rwa [List.take_of_length_le short]

/-- The fields whose quotes are kept are those that have one. -/
theorem ExtractedFrom.quoted_iff
    (extracted : ExtractedFrom brief page extraction) :
    (∀ reading ∈ fieldReadings brief page,
      (reading.field, reading.value) ∈ extraction.fields →
        emptyEvidenceValue reading.value = false →
          ∀ quote, reading.quote = some (some quote) →
            quote ∈ extraction.quotes) ↔
      (acceptableQuotes (fieldReadings brief page)).length ≤
        quoteCap brief := by
  have wellRead := wellRead_fieldReadings brief page
  have once : (acceptableQuotes (fieldReadings brief page)).Nodup :=
    List.Nodup.of_map _ wellRead.distinctQuotes
  rw [← subset_take_iff once, ← extracted.quotes]
  constructor
  · intro quoted quote member
    obtain ⟨reading, isReading, isQuote⟩ := mem_acceptableQuotes.mp member
    obtain ⟨reason, isFields, -⟩ := extracted.fields
    refine quoted reading isReading ?_
      (wellRead.quoted reading isReading quote isQuote).2.2 quote isQuote
    rw [isFields]
    exact List.mem_append_left _ (List.mem_map_of_mem isReading)
  · intro quoted reading isReading _ _ quote isQuote
    exact quoted quote (mem_acceptableQuotes.mpr ⟨reading, isReading, isQuote⟩)

/-- A field whose quote is kept is admitted. -/
theorem ExtractedFrom.admitted
    (extracted : ExtractedFrom brief page extraction)
    {reading : FieldReading} (isReading : reading ∈ fieldReadings brief page)
    {quote : EvidenceQuote} (isQuote : reading.quote = some (some quote))
    (kept : quote ∈ extraction.quotes) {limits : AdmissionLimits}
    {extractions : List ExtractionResult} {pages : List CapturedPage}
    (member : extraction ∈ extractions)
    (admissible : Admissible limits pages extraction) :
    ∃ item ∈ admitEvidenceItems limits extractions pages,
      item.capturedPageId = page.id ∧ item.field = reading.field ∧
        item.value = reading.value ∧ item.quote = quote.text ∧
        item.status = .accepted := by
  have isDimension : signalDimension extraction.dimension =
      signalDimension brief.dimension := by
    rw [extracted.dimension]
  have whole := @acceptable_keptFields _ brief page extraction
    fun _ => true
  have quotes := extracted.quotesFields fun _ => true
  rw [extracted.keptFields_all] at whole quotes
  obtain ⟨isField, -, filled⟩ :=
    (wellRead_fieldReadings brief page).quoted reading isReading quote isQuote
  obtain ⟨reason, isFields, -⟩ := extracted.fields
  obtain ⟨proper, text⟩ := quotes.proper quote kept
  have found := quoteByField_of_mem quotes.distinctQuotes kept proper text
  rw [isField] at found
  refine ⟨evidenceItem limits pages extraction (reading.field, reading.value),
    ?_, extracted.pageId, rfl, rfl, ?_, ?_⟩
  · refine List.mem_flatMap.mpr ⟨extraction, member, List.mem_map_of_mem
      (List.mem_filter.mpr ⟨?_, by simp [filled]⟩)⟩
    rw [isFields]
    exact List.mem_append_left _ (List.mem_map_of_mem isReading)
  · unfold evidenceItem
    dsimp only
    rw [found]
    rfl
  · rw [evidenceItem_accepted_iff isDimension whole, found]
    exact ⟨admissible, fun _ => rfl⟩

theorem foundTerm_nil {terms : List (List Char)} {found : List Char × Nat}
    (isFound : foundTerm [] terms = some found) : found.2 = 0 := by
  induction terms with
  | nil => cases isFound
  | cons term terms induction =>
      rw [foundTerm] at isFound
      split at isFound
      · next index place =>
          cases isFound
          show index = 0
          unfold findChars casefoldChars at place
          rw [List.flatMap_nil, findFrom] at place
          split at place
          · exact (Option.some.inj place).symm
          · cases place
      · exact induction isFound

/-- The windows of an extractor are cut unless a match is too far behind. -/
theorem readings_cut_iff :
    (∀ reading ∈ fieldReadings brief page, reading.quote ≠ none) ↔
      (signalDimension brief.dimension = .pricing →
        ∀ entry ∈ pricingFieldValues brief page, entry.2.filled = true →
          ∀ found ∈ foundTerm page.pageText.toList
              ((termsForField entry.1 entry.2).map String.toList),
            found.2 ≤ page.pageText.toList.length + 140) := by
  unfold fieldReadings
  cases signalDimension brief.dimension with
  | pricing =>
      rw [List.forall_mem_map]
      simp only [true_imp_iff]
      refine forall_congr' fun entry => forall_congr' fun _ => ?_
      rw [pricingQuote]
      by_cases filled : entry.2.filled = true
      · have cut : windowForField page.pageText.toList entry.1 entry.2 ≠ none ↔
            ∀ found ∈ foundTerm page.pageText.toList
              ((termsForField entry.1 entry.2).map String.toList),
            found.2 ≤ page.pageText.toList.length + 140 := by
          rw [ne_eq, windowForField_eq_none_iff]
          constructor
          · intro near found isFound
            by_cases empty : page.pageText.toList = []
            · rw [empty] at isFound ⊢
              rw [foundTerm_nil isFound]
              exact Nat.zero_le _
            · by_contra far
              exact near ⟨found, isFound, empty, by omega⟩
          · rintro near ⟨found, isFound, -, far⟩
            have inside := near found isFound
            omega
        rw [← cut]
        simp only [filled, true_imp_iff, Bool.not_true, Bool.false_eq_true,
          if_false]
        cases windowForField page.pageText.toList entry.1 entry.2 with
        | none => simp
        | some snippet =>
            cases snippet with
            | nil => simp
            | cons char snippet => simp
      · simp [filled]
  | persona =>
      rw [List.forall_mem_map]
      simp [quoteForTerms_ne_none]
  | feature =>
      rw [List.forall_mem_map]
      simp [quoteForTerms_ne_none]

omit [PyRuntime] in
/-- Some reading has no quote just when there are fewer quotes. -/
theorem acceptableQuotes_length_lt_iff {readings : List FieldReading}
    (cut : ∀ reading ∈ readings, reading.quote ≠ none) :
    (acceptableQuotes readings).length < readings.length ↔
      ∃ reading ∈ readings, reading.quote = some none := by
  unfold acceptableQuotes
  induction readings with
  | nil => simp
  | cons reading readings induction =>
      obtain ⟨isCut, rest⟩ := List.forall_mem_cons.mp cut
      have fewer := List.length_filterMap_le
        (fun reading : FieldReading => reading.quote.join) readings
      rw [List.filterMap_cons, List.exists_mem_cons_iff]
      cases read : reading.quote with
      | none => exact absurd read isCut
      | some quote =>
          cases quote with
          | none =>
              simp only [Option.join_some, List.length_cons, true_or, iff_true]
              omega
          | some quote =>
              simp only [Option.join_some, List.length_cons,
                Nat.succ_lt_succ_iff, induction rest, Option.some.injEq,
                reduceCtorEq, false_or]

/-- How many fields an extractor reads. -/
theorem length_fieldReadings :
    (fieldReadings brief page).length =
      match signalDimension brief.dimension with
      | .pricing => 7
      | .persona => 6
      | .feature => 9 := by
  unfold fieldReadings
  cases signalDimension brief.dimension with
  | pricing => rfl
  | persona => rfl
  | feature => rfl

/-- The quotes are not too many just when some field has none. -/
theorem acceptableQuotes_fit_iff
    (cut : ∀ reading ∈ fieldReadings brief page, reading.quote ≠ none) :
    (acceptableQuotes (fieldReadings brief page)).length ≤ quoteCap brief ↔
      signalDimension brief.dimension = .persona ∨
        ∃ reading ∈ fieldReadings brief page, reading.quote = some none := by
  have fewer := acceptableQuotes_length_lt_iff cut
  have count : (acceptableQuotes (fieldReadings brief page)).length ≤
      (fieldReadings brief page).length := List.length_filterMap_le _ _
  have length := @length_fieldReadings _ brief page
  rw [← fewer]
  unfold quoteCap
  cases dimension : signalDimension brief.dimension with
  | pricing =>
      rw [dimension] at length
      dsimp only at length
      simp only [reduceCtorEq, false_or, if_true]
      omega
  | persona =>
      rw [dimension] at length
      dsimp only at length
      simp only [reduceCtorEq, if_false, true_or, iff_true]
      omega
  | feature =>
      rw [dimension] at length
      dsimp only at length
      simp only [reduceCtorEq, if_false, false_or]
      omega

/-- All fields with acceptable quotes are quoted and admitted just when the
windows can be cut and, unless the extractor is that of personas, some field
has no acceptable quote. -/
theorem extractPage_admitsAllFields_iff :
    AdmitsAllFields brief page ↔ QuotesFit brief page := by
  constructor
  · rintro ⟨extraction, isExtraction, admits⟩
    rcases extractPage_spec brief page with
      ⟨cut, other, isOther, extracted⟩ | ⟨-, raised⟩
    · rw [isExtraction] at isOther
      obtain rfl := Option.some.inj isOther
      have fits := extracted.quoted_iff.mp admits.quoted
      exact {
        near := readings_cut_iff.mp cut
        spared := (acceptableQuotes_fit_iff cut).mp fits }
    · rw [isExtraction] at raised
      cases raised
  · rintro ⟨near, spared⟩
    have cut := readings_cut_iff.mpr near
    rcases extractPage_spec brief page with
      ⟨-, extraction, isExtraction, extracted⟩ |
      ⟨⟨reading, isReading, raised⟩, -⟩
    · have quoted := extracted.quoted_iff.mpr
        ((acceptableQuotes_fit_iff cut).mpr spared)
      refine ⟨extraction, isExtraction, quoted, ?_, extracted.monotone⟩
      intro reading isReading isField filled quote isQuote limits extractions
        pages member _ admissible
      exact extracted.admitted isReading isQuote
        (quoted reading isReading isField filled quote isQuote) member
        admissible
    · exact absurd raised (cut reading isReading)

end All

end Quoted

namespace QuotesExample

attribute [local instance] asciiRuntime

def brief : ResearchBrief :=
  { competitor := "W"
    dimension := "feature" }

/-- A page that shows all nine slots. -/
def page : CapturedPage :=
  { id := "page"
    candidateId := "candidate"
    requestedUrl := "https://w.example/"
    finalUrl := "https://w.example/"
    status := .ok
    text := "model, long context, image, tools, agent, ide, sso, sdk, memory"
    contentHash := "hash"
    qualityScore := 1.0 }

theorem richPage_loses_quote : ¬ AdmitsAllFields brief page := by
  rintro ⟨extraction, isExtraction, admits⟩
  have many : ¬ (acceptableQuotes (fieldReadings brief page)).length ≤
      quoteCap brief := by
    decide +kernel
  rcases extractPage_spec brief page with
    ⟨-, other, isOther, extracted⟩ | ⟨-, raised⟩
  · rw [isExtraction] at isOther
    obtain rfl := Option.some.inj isOther
    exact many (extracted.quoted_iff.mp admits.quoted)
  · rw [isExtraction] at raised
    cases raised

end QuotesExample

end CompetiScope
