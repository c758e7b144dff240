import CompetiScope.Research.QuotedFields

/-!
# What a quote shows

A quote is a piece of the page text with single spaces, of bounded length.
Whether it still holds the term it was cut for depends on the piece that is
kept of a long window.
-/

namespace CompetiScope

open Foundation

section Pieces

/-- A text after a run of white space, or not. -/
theorem replaceRuns_true_or (text : List Char) :
    replaceRuns isSpace ' ' false text = replaceRuns isSpace ' ' true text ∨
      replaceRuns isSpace ' ' false text =
        ' ' :: replaceRuns isSpace ' ' true text := by
  cases text with
  | nil => exact .inl rfl
  | cons char text =>
      rw [replaceRuns, replaceRuns]
      by_cases space : isSpace char = true
      · rw [if_pos space, if_pos space]
        exact .inr rfl
      · rw [if_neg space, if_neg space]
        exact .inl rfl

theorem dropWhile_replaceRuns_isQuoteEnd (text : List Char) :
    (replaceRuns isSpace ' ' false text).dropWhile isQuoteEnd =
      (replaceRuns isSpace ' ' true text).dropWhile isQuoteEnd := by
  rcases replaceRuns_true_or text with same | behind
  · rw [same]
  · rw [behind, List.dropWhile_cons_of_pos (by decide)]

/-- A normalised window is a piece of the collapsed text. -/
theorem normalizeWhitespace_isPiece {window text : List Char}
    (isPiece : window <:+: text) :
    normalizeWhitespace window <:+: collapseSpaces text := by
  obtain ⟨front, back, rfl⟩ := isPiece
  obtain ⟨behind, whole⟩ := replaceRuns_append isSpace ' ' false
    (front ++ window) back
  obtain ⟨inRun, isFront⟩ := replaceRuns_append isSpace ' ' false front window
  have same : (collapseSpaces window).dropWhile isQuoteEnd =
      (replaceRuns isSpace ' ' inRun window).dropWhile isQuoteEnd := by
    cases inRun with
    | false => rfl
    | true => exact dropWhile_replaceRuns_isQuoteEnd window
  have inWindow : normalizeWhitespace window <:+:
      replaceRuns isSpace ' ' inRun window := by
    unfold normalizeWhitespace
    rw [same]
    exact (List.rdropWhile_prefix _ _).isInfix.trans
      (List.dropWhile_suffix _).isInfix
  unfold collapseSpaces
  rw [whole, isFront]
  exact inWindow.trans ⟨_, _, rfl⟩

theorem slice_isPiece (text : List Char) (start stop : Nat) :
    slice text start stop <:+: text :=
  (List.drop_suffix _ _).isInfix.trans (List.take_prefix _ _).isInfix

theorem stripChars_isPiece (text : List Char) : stripChars text <:+: text := by
  obtain ⟨before, after, -, -, whole⟩ := exists_stripChars text
  exact ⟨before, after, whole⟩

/-- A clipped text is a piece of its first characters. -/
theorem clipAtWordBoundary_isPiece (text : List Char) (maxChars : Nat) :
    clipAtWordBoundary text maxChars <:+: text.take maxChars := by
  have clipped : stripRightChars (text.take maxChars) <:+:
      text.take maxChars :=
    (List.rdropWhile_prefix _ _).isInfix
  unfold clipAtWordBoundary
  dsimp only
  split
  · exact (stripChars_isPiece _).trans
      ((List.take_prefix _ _).isInfix.trans clipped)
  · split
    · exact (stripChars_isPiece _).trans
        ((List.take_prefix _ _).isInfix.trans clipped)
    · exact (stripChars_isPiece _).trans clipped

theorem length_clipAtWordBoundary_le (text : List Char) (maxChars : Nat) :
    (clipAtWordBoundary text maxChars).length ≤ maxChars :=
  (clipAtWordBoundary_isPiece text maxChars).length_le.trans
    (List.length_take_le _ _)

/-- The sentences are pieces of the text. -/
theorem sentencesFrom_isPiece {part text : List Char} {ended : Bool} :
    ∀ sentence ∈ sentencesFrom part ended text,
      sentence <:+: part ++ text := by
  induction text generalizing part ended with
  | nil =>
      intro sentence member
      rw [sentencesFrom, List.mem_singleton] at member
      rw [member]
      exact (List.prefix_append part []).isInfix
  | cons char text induction =>
      intro sentence member
      rw [sentencesFrom] at member
      split at member
      · rcases List.mem_append.mp member with isPart | later
        · have same : sentence = part := by
            split at isPart
            · cases isPart
            · exact List.mem_singleton.mp isPart
          rw [same]
          exact (List.prefix_append _ _).isInfix
        · refine (induction sentence later).trans ?_
          exact ((List.suffix_cons char text).trans
            (List.suffix_append part _)).isInfix
      · have shifted := induction sentence member
        rwa [List.append_assoc, List.singleton_append] at shifted

end Pieces

section Quotes

variable [PyRuntime]

theorem trimLeadingBoilerplate_isPiece (text : List Char) :
    trimLeadingBoilerplate text <:+: text := by
  unfold trimLeadingBoilerplate
  generalize navigationMarkers = markers
  induction markers generalizing text with
  | nil => exact List.infix_refl _
  | cons marker markers induction =>
      rw [List.foldl_cons]
      refine (induction _).trans ?_
      split
      · dsimp only
        split
        · exact ((List.dropWhile_suffix _).trans
            (List.drop_suffix _ _)).isInfix
        · exact List.infix_refl _
      · exact List.infix_refl _

theorem bestSignalSentence_isPiece (text : List Char)
    (dimension : SignalDimension) :
    bestSignalSentence text dimension 420 <:+: text := by
  unfold bestSignalSentence
  split
  · next sentence found =>
      have isSentence := sentencesFrom_isPiece sentence
        (List.mem_of_find?_eq_some found)
      exact ((clipAtWordBoundary_isPiece _ _).trans
        (List.take_prefix _ _).isInfix).trans isSentence
  · exact List.nil_infix

theorem length_bestSignalSentence_le (text : List Char)
    (dimension : SignalDimension) :
    (bestSignalSentence text dimension 420).length ≤ 420 := by
  unfold bestSignalSentence
  split
  · exact length_clipAtWordBoundary_le _ _
  · exact Nat.zero_le _

/-- The window of a match without white space and boilerplate around it. -/
def trimmedWindow (text : List Char) : List Char :=
  trimLeadingBoilerplate (normalizeWhitespace text)

/-- What is kept of a long window. -/
def keptPart (window : List Char) (dimension : SignalDimension) : List Char :=
  if bestSignalSentence window dimension 420 ≠ [] then
    bestSignalSentence window dimension 420
  else clipAtWordBoundary window 420

theorem keptPart_isPiece (window : List Char) (dimension : SignalDimension) :
    keptPart window dimension <:+: window := by
  unfold keptPart
  split
  · exact bestSignalSentence_isPiece window dimension
  · exact (clipAtWordBoundary_isPiece _ _).trans (List.take_prefix _ _).isInfix

theorem length_keptPart_le (window : List Char)
    (dimension : SignalDimension) : (keptPart window dimension).length ≤ 420 := by
  unfold keptPart
  split
  · exact length_bestSignalSentence_le window dimension
  · exact length_clipAtWordBoundary_le window 420

theorem cleanEvidenceQuote_eq (text : List Char)
    (dimension : SignalDimension) :
    cleanEvidenceQuote text dimension =
      if (trimmedWindow text).length ≤ 420 then trimmedWindow text
      else keptPart (trimmedWindow text) dimension :=
  rfl

/-- A cleaned quote is a piece of the collapsed text, of bounded length. -/
theorem cleanEvidenceQuote_piece {window text : List Char}
    (isPiece : window <:+: text) (dimension : SignalDimension) :
    cleanEvidenceQuote window dimension <:+: collapseSpaces text ∧
      (cleanEvidenceQuote window dimension).length ≤ 420 := by
  have trimmed : trimmedWindow window <:+: collapseSpaces text :=
    (trimLeadingBoilerplate_isPiece _).trans (normalizeWhitespace_isPiece isPiece)
  rw [cleanEvidenceQuote_eq]
  split
  · next short => exact ⟨trimmed, short⟩
  · exact ⟨(keptPart_isPiece _ _).trans trimmed, length_keptPart_le _ _⟩

/-! ## Matches -/

/-- The window of a match, cut at words. -/
def matchWindow (text : List Char) (start stop : Nat) : List Char :=
  slice text ((expandToWordStart text (start - 140)).getD 0)
    (expandToWordEnd text (min text.length (stop + 280)))

/-- The term stands in a text, but for its case. -/
def Shows (text term : List Char) : Prop :=
  casefoldChars term <:+: casefoldChars text

instance (text term : List Char) : Decidable (Shows text term) := by
  unfold Shows
  infer_instance

/-- The part of the page around a match that is kept still holds the term:
the window itself when it is short enough, or else what is kept of it. -/
structure KeepsTerm (text : List Char) (dimension : SignalDimension)
    (term : List Char) (start : Nat) : Prop where
  whole :
    let window := trimmedWindow (matchWindow text start (start + term.length))
    window.length ≤ 420 → Shows window term
  cut :
    let window := trimmedWindow (matchWindow text start (start + term.length))
    420 < window.length → Shows (keptPart window dimension) term

theorem quoteWindowFromMatch_eq {text quote : List Char} {start stop : Nat}
    {dimension : SignalDimension}
    (window : quoteWindowFromMatch text start stop dimension = some quote)
    (filled : quote ≠ []) :
    quote = cleanEvidenceQuote (matchWindow text start stop) dimension := by
  unfold quoteWindowFromMatch at window
  unfold matchWindow
  split at window
  · exact absurd (Option.some.inj window).symm filled
  · split at window
    · cases window
    · next place expanded =>
        rw [expanded, Option.getD_some]
        dsimp only at window
        generalize cleanEvidenceQuote _ dimension = cleaned at window ⊢
        have isQuote := Option.some.inj window
        by_cases fine : quoteQualityProblem cleaned dimension = none
        · rw [if_pos fine] at isQuote
          exact isQuote.symm
        · rw [if_neg fine] at isQuote
          exact absurd isQuote.symm filled

/-- A quote around a match is a piece of the page, and shows its term when
the part that is kept does. -/
theorem quoteWindowFromMatch_supports {text quote term : List Char}
    {start : Nat} {dimension : SignalDimension}
    (window : quoteWindowFromMatch text start (start + term.length)
      dimension = some quote) (filled : quote ≠ []) :
    (quote <:+: collapseSpaces text ∧ quote.length ≤ 420) ∧
      (Shows quote term ↔ KeepsTerm text dimension term start) := by
  rw [quoteWindowFromMatch_eq window filled]
  refine ⟨cleanEvidenceQuote_piece (slice_isPiece _ _ _) dimension, ?_⟩
  rw [cleanEvidenceQuote_eq]
  split
  · next short =>
      constructor
      · intro shown
        exact ⟨fun _ => shown, fun long => absurd short (Nat.not_le.mpr long)⟩
      · intro kept
        exact kept.whole short
  · next long =>
      constructor
      · intro shown
        exact ⟨fun short => absurd short long, fun _ => shown⟩
      · intro kept
        exact kept.cut (Nat.not_le.mp long)

end Quotes

/-! ## Fields -/

section Fields

variable [PyRuntime]

/-- The term of a list that a quote is cut for, and where it was found. -/
def quotedTerm (dimension : SignalDimension) (text : List Char) :
    List String → Option (List Char × Nat)
  | [] => none
  | term :: terms =>
      match findAnyCase term.toList 0 text with
      | none => quotedTerm dimension text terms
      | some start =>
          match quoteWindowFromMatch text start (start + term.length)
              dimension with
          | some (_ :: _) => some (term.toList, start)
          | _ => quotedTerm dimension text terms

/-- What the quote of a field is cut for. -/
def fieldMatch (brief : ResearchBrief) (page : CapturedPage)
    (field : String) : Option (List Char × Nat) :=
  let text := page.pageText.toList
  match signalDimension brief.dimension with
  | .pricing =>
      ((pricingFieldValues brief page).find? (·.1 = field)).bind fun entry =>
        foundTerm text ((termsForField entry.1 entry.2).map String.toList)
  | .persona =>
      ((personaMatches page).find? (·.1 = field)).bind fun entry =>
        quotedTerm .persona text entry.2
  | .feature =>
      ((slotMatches page).find? (·.1 = field)).bind fun entry =>
        quotedTerm .feature text entry.2

/-- A quote supports its field: it is a piece of the page, and shows the term
that it was cut for. -/
structure SupportsField (brief : ResearchBrief) (page : CapturedPage)
    (quote : EvidenceQuote) : Prop where
  piece : quote.text.toList <:+: collapseSpaces page.pageText.toList
  short : quote.text.toList.length ≤ 420
  shown : ∃ found, fieldMatch brief page quote.field = some found ∧
    Shows quote.text.toList found.1

/-- Every quote of an extraction of a page supports its field. -/
def SupportsFields (brief : ResearchBrief) (page : CapturedPage) : Prop :=
  ∀ extraction, extractPage brief page = some extraction →
    ∀ quote ∈ extraction.quotes, SupportsField brief page quote

/-- The matches of the fields that are quoted are kept. -/
def KeepsTerms (brief : ResearchBrief) (page : CapturedPage) : Prop :=
  let readings := fieldReadings brief page
  (∀ reading ∈ readings, reading.quote ≠ none) →
    ∀ quote ∈ (acceptableQuotes readings).take (quoteCap brief),
      ∀ found ∈ fieldMatch brief page quote.field,
        KeepsTerm page.pageText.toList (signalDimension brief.dimension)
          found.1 found.2

variable {brief : ResearchBrief} {page : CapturedPage}

/-- A quote is the window of a match. -/
structure CutAround (page : CapturedPage) (dimension : SignalDimension)
    (quote : EvidenceQuote) (found : List Char × Nat) : Prop where
  window : quoteWindowFromMatch page.pageText.toList found.2
    (found.2 + found.1.length) dimension = some quote.text.toList
  filled : quote.text.toList ≠ []

theorem quoteForTerms_cutAround {dimension : SignalDimension}
    {field : String} {terms : List String} {quote : EvidenceQuote}
    (quoted : quoteForTerms dimension page field terms = some (some quote)) :
    ∃ found, quotedTerm dimension page.pageText.toList terms = some found ∧
      CutAround page dimension quote found := by
  induction terms with
  | nil => cases quoted
  | cons term terms induction =>
      rw [quoteForTerms] at quoted
      rw [quotedTerm]
      cases found : findAnyCase term.toList 0 page.pageText.toList with
      | none =>
          rw [found] at quoted
          exact induction quoted
      | some start =>
          rw [found] at quoted
          dsimp only at quoted ⊢
          cases window : quoteWindowFromMatch page.pageText.toList start
              (start + term.length) dimension with
          | none =>
              rw [window] at quoted
              cases quoted
          | some snippet =>
              rw [window] at quoted
              cases snippet with
              | nil => exact induction quoted
              | cons char snippet =>
                  cases quoted
                  refine ⟨_, rfl, ?_, ?_⟩
                  · rw [String.toList_ofList]
                    exact window
                  · rw [String.toList_ofList]
                    exact List.cons_ne_nil _ _

theorem pricingQuote_cutAround {entry : String × FieldValue}
    {quote : EvidenceQuote}
    (quoted : pricingQuote page entry = some (some quote)) :
    ∃ found, foundTerm page.pageText.toList
        ((termsForField entry.1 entry.2).map String.toList) = some found ∧
      CutAround page .pricing quote found := by
  unfold pricingQuote at quoted
  split at quoted
  · cases quoted
  · split at quoted
    · cases quoted
    · cases quoted
    · next snippet shown window =>
        cases quoted
        unfold windowForField windowAt at window
        split at window
        · exact absurd (Option.some.inj window).symm shown
        · next term index isFound =>
            refine ⟨(term, index), isFound, ?_, ?_⟩
            · rw [String.toList_ofList]
              exact window
            · rw [String.toList_ofList]
              exact shown

omit [PyRuntime] in
/-- The entry of a name, when names do not occur twice. -/
theorem find?_name {Value : Type} {entries : List (String × Value)}
    (distinct : (entries.map Prod.fst).Nodup) {entry : String × Value}
    (member : entry ∈ entries) :
    entries.find? (·.1 = entry.1) = some entry := by
  cases found : entries.find? (·.1 = entry.1) with
  | none =>
      have absent := List.find?_eq_none.mp found entry member
      simp at absent
  | some other =>
      have isFound := List.find?_some found
      have same := of_decide_eq_true isFound
      rw [List.inj_on_of_nodup_map distinct (List.mem_of_find?_eq_some found)
        member same]

/-- The quote of a field is the window of its match. -/
theorem fieldMatch_cutAround {reading : FieldReading}
    (isReading : reading ∈ fieldReadings brief page) {quote : EvidenceQuote}
    (isQuote : reading.quote = some (some quote)) :
    ∃ found, fieldMatch brief page quote.field = some found ∧
      CutAround page (signalDimension brief.dimension) quote found := by
  have wellRead := wellRead_fieldReadings brief page
  rw [(wellRead.quoted reading isReading quote isQuote).1]
  have distinct := wellRead.distinct
  unfold fieldReadings at isReading distinct
  unfold fieldMatch
  cases dimension : signalDimension brief.dimension with
  | pricing =>
      rw [dimension] at isReading distinct
      obtain ⟨entry, member, rfl⟩ := List.mem_map.mp isReading
      rw [List.map_map] at distinct
      dsimp only
      rw [find?_name distinct member, Option.bind_some]
      exact pricingQuote_cutAround isQuote
  | persona =>
      rw [dimension] at isReading distinct
      obtain ⟨entry, member, rfl⟩ := List.mem_map.mp isReading
      rw [List.map_map] at distinct
      dsimp only
      rw [find?_name distinct member, Option.bind_some]
      exact quoteForTerms_cutAround isQuote
  | feature =>
      rw [dimension] at isReading distinct
      obtain ⟨entry, member, rfl⟩ := List.mem_map.mp isReading
      rw [List.map_map] at distinct
      dsimp only
      rw [find?_name distinct member, Option.bind_some]
      exact quoteForTerms_cutAround isQuote

/-- A quote supports its field just when its term is kept. -/
theorem supportsField_iff {reading : FieldReading}
    (isReading : reading ∈ fieldReadings brief page) {quote : EvidenceQuote}
    (isQuote : reading.quote = some (some quote)) :
    SupportsField brief page quote ↔
      ∀ found ∈ fieldMatch brief page quote.field,
        KeepsTerm page.pageText.toList (signalDimension brief.dimension)
          found.1 found.2 := by
  obtain ⟨found, isFound, window, filled⟩ :=
    fieldMatch_cutAround isReading isQuote
  obtain ⟨⟨piece, short⟩, shown⟩ :=
    quoteWindowFromMatch_supports window filled
  constructor
  · rintro ⟨-, -, other, isOther, isShown⟩ again isAgain
    have same := isOther.symm.trans isFound
    obtain rfl := Option.some.inj same
    have same := isFound.symm.trans (Option.mem_def.mp isAgain)
    obtain rfl := Option.some.inj same
    exact shown.mp isShown
  · intro kept
    exact ⟨piece, short, found, isFound, shown.mpr (kept found isFound)⟩

/-- A quote that is returned is the quote of a reading. -/
theorem ExtractedFrom.reading {extraction : ExtractionResult}
    (extracted : ExtractedFrom brief page extraction) {quote : EvidenceQuote}
    (member : quote ∈ extraction.quotes) :
    ∃ reading ∈ fieldReadings brief page,
      reading.quote = some (some quote) := by
  have taken := extracted.quotes ▸ member
  exact mem_acceptableQuotes.mp (List.mem_of_mem_take taken)

theorem ExtractedFrom.supports_iff {extraction : ExtractionResult}
    (extracted : ExtractedFrom brief page extraction) :
    (∀ quote ∈ extraction.quotes, SupportsField brief page quote) ↔
      ∀ quote ∈ extraction.quotes,
        ∀ found ∈ fieldMatch brief page quote.field,
          KeepsTerm page.pageText.toList (signalDimension brief.dimension)
            found.1 found.2 := by
  apply forall₂_congr
  intro quote member
  obtain ⟨reading, isReading, isQuote⟩ := extracted.reading member
  exact supportsField_iff isReading isQuote

end Fields

namespace SupportExample

attribute [local instance] asciiRuntime

def brief : ResearchBrief :=
  { competitor := "W"
    dimension := "feature" }

/-- A page that opens with a navigation text. -/
def page : CapturedPage :=
  { id := "page"
    candidateId := "candidate"
    requestedUrl := "https://w.example/"
    finalUrl := "https://w.example/"
    status := .ok
    text := "Privacy policy | The model of W reads a whole contract at once."
    contentHash := "hash"
    qualityScore := 1.0 }

end SupportExample

end CompetiScope
