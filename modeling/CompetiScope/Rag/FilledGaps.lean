import CompetiScope.Enterprise.ReportSteps
import CompetiScope.Identity.LayeredNormalisation
import CompetiScope.Rag.GapFill

/-!
# What a gap fill leaves in the report

A gap is filled if it has a new candidate and remains if it has no evidence
at all: a gap with old evidence and nothing new is neither.  The section on
the filled gaps is lost when the store rebuilds the text from layers, and a
marker in it when a text in front of it opens a bracket.
-/

namespace CompetiScope

open Foundation

/-! ## Filled and remaining gaps -/

/-- Every gap has a new candidate or no evidence, and the ids of the filled
gaps are their own. -/
structure GapsAccounted (gaps : List EvidenceGapItem) : Prop where
  decided : ∀ gap ∈ gaps, gap.newCandidateIds = [] →
    ∀ id ∈ gap.evidenceIds, id = ""
  named : ∀ gap ∈ gaps, gap.newCandidateIds ≠ [] → gap.id ≠ ""
  distinct : ((gaps.filter (·.newCandidateIds ≠ [])).map (·.id)).Nodup
  apart : ∀ first ∈ gaps, ∀ second ∈ gaps, first.newCandidateIds ≠ [] →
    second.newCandidateIds = [] → first.id ≠ second.id

section Gaps

variable {gaps : List EvidenceGapItem} {gap : EvidenceGapItem}

theorem mem_uniqueIds {values : List String} {value : String} :
    value ∈ uniqueIds values ↔ value ∈ values ∧ value ≠ "" := by
  rw [uniqueIds, mem_orderedUnique, List.mem_filter, decide_eq_true_iff]

theorem ne_empty_of_new {id : String} (isNew : id ∈ gap.newCandidateIds) :
    id ≠ "" :=
  (mem_uniqueIds.mp (List.mem_of_mem_filter isNew)).2

/-- A gap remains without evidence if it had none and got none. -/
theorem linked_evidenceIds_eq_nil :
    gap.linked.evidenceIds = [] ↔
      gap.newCandidateIds = [] ∧ ∀ id ∈ gap.evidenceIds, id = "" := by
  have members : gap.linked.evidenceIds = [] ↔
      ∀ id ∈ gap.evidenceIds ++ gap.newCandidateIds, id = "" := by
    rw [List.eq_nil_iff_forall_not_mem]
    unfold EvidenceGapItem.linked
    simp only [mem_uniqueIds, not_and, ne_eq, not_not]
  rw [members]
  constructor
  · intro blank
    refine ⟨?_, fun id member => blank id (List.mem_append_left _ member)⟩
    rw [List.eq_nil_iff_forall_not_mem]
    intro id isNew
    exact ne_empty_of_new isNew (blank id (List.mem_append_right _ isNew))
  · rintro ⟨nothing, blank⟩ id member
    rw [nothing, List.append_nil] at member
    exact blank id member

/-- The gaps that remain, before the candidates are linked. -/
def openGaps (gaps : List EvidenceGapItem) : List EvidenceGapItem :=
  gaps.filter fun gap =>
    gap.newCandidateIds = [] ∧ ∀ id ∈ gap.evidenceIds, id = ""

theorem remainingGapIds_eq :
    remainingGapIds (filledGaps gaps).updatedGaps =
      (openGaps gaps).map (·.id) := by
  unfold remainingGapIds filledGaps openGaps
  dsimp only
  rw [List.filter_map, List.map_map]
  congr 1
  apply List.filter_congr
  intro gap _
  rw [Function.comp_apply, decide_eq_decide]
  exact linked_evidenceIds_eq_nil

theorem uniqueIds_eq_self {values : List String} (distinct : values.Nodup)
    (filled : ∀ value ∈ values, value ≠ "") : uniqueIds values = values := by
  have sameFilter : values.filter (· ≠ "") = values :=
    List.filter_eq_self.mpr fun value member =>
      decide_eq_true (filled value member)
  rw [uniqueIds, sameFilter, orderedUnique_eq_self distinct]

/-- Ids are all kept if none is empty and none occurs twice. -/
theorem uniqueIds_length_eq_iff {values : List String} :
    (uniqueIds values).length = values.length ↔
      values.Nodup ∧ ∀ value ∈ values, value ≠ "" := by
  constructor
  · intro sameLength
    have shorter := (List.filter_sublist
      (p := fun value : String => decide (value ≠ ""))
      (l := values)).length_le
    have fewer := (orderedUnique_sublist
      (values.filter (· ≠ ""))).length_le
    unfold uniqueIds at sameLength
    have sameFilter : values.filter (· ≠ "") = values :=
      List.filter_sublist.eq_of_length (by omega)
    have filled : ∀ value ∈ values, value ≠ "" := fun value member =>
      of_decide_eq_true (List.filter_eq_self.mp sameFilter value member)
    rw [sameFilter] at sameLength
    have same := (orderedUnique_sublist values).eq_of_length sameLength
    have distinct := orderedUnique_nodup values
    rw [same] at distinct
    exact ⟨distinct, filled⟩
  · rintro ⟨distinct, filled⟩
    rw [uniqueIds_eq_self distinct filled]

/-- Filled and open gaps are disjoint parts of all gaps. -/
theorem filled_open_length :
    (gaps.filter (·.newCandidateIds ≠ [])).length + (openGaps gaps).length ≤
        gaps.length ∧
      ((gaps.filter (·.newCandidateIds ≠ [])).length +
          (openGaps gaps).length = gaps.length ↔
        ∀ gap ∈ gaps, gap.newCandidateIds = [] →
          ∀ id ∈ gap.evidenceIds, id = "") := by
  unfold openGaps
  induction gaps with
  | nil => simp
  | cons gap gaps induction =>
      obtain ⟨bound, exact_⟩ := induction
      by_cases isNew : gap.newCandidateIds = []
      · by_cases blank : ∀ id ∈ gap.evidenceIds, id = ""
        · rw [List.filter_cons_of_neg (by simpa using isNew),
            List.filter_cons_of_pos (by simpa using ⟨isNew, blank⟩),
            List.length_cons, List.length_cons]
          refine ⟨by omega, ?_⟩
          rw [List.forall_mem_cons, ← exact_]
          constructor
          · intro same
            exact ⟨fun _ => blank, by omega⟩
          · rintro ⟨-, same⟩
            omega
        · rw [List.filter_cons_of_neg (by simpa using isNew),
            List.filter_cons_of_neg (by
              rw [decide_eq_true_iff]
              exact fun both => blank both.2), List.length_cons]
          refine ⟨by omega, ?_⟩
          constructor
          · intro same
            omega
          · intro all
            exact (blank (all gap List.mem_cons_self isNew)).elim
      · rw [List.filter_cons_of_pos (by simpa using isNew),
          List.filter_cons_of_neg (by
            rw [decide_eq_true_iff]
            exact fun both => isNew both.1), List.length_cons,
          List.length_cons]
        refine ⟨by omega, ?_⟩
        rw [List.forall_mem_cons, ← exact_]
        constructor
        · intro same
          exact ⟨fun nothing => (isNew nothing).elim, by omega⟩
        · rintro ⟨-, same⟩
          omega

theorem uniqueIds_length_le (values : List String) :
    (uniqueIds values).length ≤ values.length :=
  le_trans (orderedUnique_sublist _).length_le
    List.filter_sublist.length_le

/-- The ids of the filled gaps, as they are listed. -/
def filledIds (gaps : List EvidenceGapItem) : List String :=
  (gaps.filter (·.newCandidateIds ≠ [])).map (·.id)

theorem mem_filledIds {id : String} :
    id ∈ filledIds gaps ↔
      ∃ gap ∈ gaps, gap.newCandidateIds ≠ [] ∧ gap.id = id := by
  simp only [filledIds, List.mem_map, List.mem_filter, decide_eq_true_eq,
    and_assoc]

theorem mem_openIds {id : String} :
    id ∈ (openGaps gaps).map (·.id) ↔
      ∃ gap ∈ gaps, (gap.newCandidateIds = [] ∧
        ∀ id ∈ gap.evidenceIds, id = "") ∧ gap.id = id := by
  simp only [openGaps, List.mem_map, List.mem_filter, decide_eq_true_eq,
    and_assoc]

/-- Accounted gaps are filled or open, and no other are there. -/
theorem GapsAccounted.perm (accounted : GapsAccounted gaps) :
    (gaps.filter (·.newCandidateIds ≠ []) ++ openGaps gaps).Perm gaps := by
  have others : openGaps gaps =
      gaps.filter fun gap => ! decide (gap.newCandidateIds ≠ []) := by
    unfold openGaps
    apply List.filter_congr
    intro gap member
    by_cases isNew : gap.newCandidateIds = []
    · simpa [isNew] using accounted.decided gap member isNew
    · simp [isNew]
  rw [others]
  exact List.filter_append_perm _ gaps

/-- The gaps are split just where each of them is accounted for. -/
theorem split_iff (result : EvidenceGapFillResult)
    (filled : result.filledGapIds = (filledGaps gaps).filledGapIds)
    (remaining : result.remainingGapIds =
      remainingGapIds (filledGaps gaps).updatedGaps) :
    SplitsGaps gaps result ↔ GapsAccounted gaps := by
  have isFilled : (filledGaps gaps).filledGapIds =
      uniqueIds (filledIds gaps) := rfl
  rw [isFilled] at filled
  rw [remainingGapIds_eq] at remaining
  obtain ⟨bound, allDecided⟩ := @filled_open_length gaps
  have filledLength : (filledIds gaps).length =
      (gaps.filter (·.newCandidateIds ≠ [])).length := List.length_map _
  constructor
  · rintro ⟨disjoint, all⟩
    rw [filled, remaining] at disjoint all
    have count := all.length_eq
    rw [List.length_append, List.length_map, List.length_map] at count
    have fewer := uniqueIds_length_le (filledIds gaps)
    have distinct := uniqueIds_length_eq_iff.mp
      (show (uniqueIds (filledIds gaps)).length =
        (filledIds gaps).length by omega)
    constructor
    case decided => exact allDecided.mp (by omega)
    case named =>
      intro gap member isNew
      exact distinct.2 gap.id (mem_filledIds.mpr ⟨gap, member, isNew, rfl⟩)
    case distinct => exact distinct.1
    case apart =>
      intro first firstMember second secondMember isNew nothing same
      have inFilled : first.id ∈ uniqueIds (filledIds gaps) := by
        rw [uniqueIds_eq_self distinct.1 distinct.2]
        exact mem_filledIds.mpr ⟨first, firstMember, isNew, rfl⟩
      have blank := allDecided.mp (by omega) second secondMember nothing
      apply disjoint inFilled
      exact mem_openIds.mpr ⟨second, secondMember, ⟨nothing, blank⟩,
        same.symm⟩
  · intro accounted
    have whole : uniqueIds (filledIds gaps) = filledIds gaps := by
      apply uniqueIds_eq_self accounted.distinct
      intro id member
      obtain ⟨gap, inGaps, isNew, rfl⟩ := mem_filledIds.mp member
      exact accounted.named gap inGaps isNew
    constructor
    case disjoint =>
      rw [filled, remaining, whole]
      intro id inFilled inOpen
      obtain ⟨first, firstMember, isNew, rfl⟩ := mem_filledIds.mp inFilled
      obtain ⟨second, secondMember, ⟨nothing, -⟩, same⟩ :=
        mem_openIds.mp inOpen
      exact accounted.apart first firstMember second secondMember isNew
        nothing same.symm
    case all =>
      rw [filled, remaining, whole, filledIds, ← List.map_append]
      exact accounted.perm.map _

/-- Both counts come to the number of gaps. -/
theorem GapsAccounted.count (accounted : GapsAccounted gaps) :
    (filledGaps gaps).filledGapIds.length +
      (remainingGapIds (filledGaps gaps).updatedGaps).length =
        gaps.length := by
  have isFilled : (filledGaps gaps).filledGapIds =
      uniqueIds (filledIds gaps) := rfl
  have distinct : (uniqueIds (filledIds gaps)).length =
      (filledIds gaps).length := by
    refine uniqueIds_length_eq_iff.mpr ⟨accounted.distinct, ?_⟩
    intro id member
    obtain ⟨gap, inGaps, isNew, rfl⟩ := mem_filledIds.mp member
    exact accounted.named gap inGaps isNew
  have all := accounted.perm.length_eq
  rw [List.length_append] at all
  rw [remainingGapIds_eq, isFilled, distinct, filledIds, List.length_map,
    List.length_map]
  exact all

end Gaps

/-! ## A marker in joined texts -/

section Joined

variable {evidence : List EvidenceRecord} {scopeIds : List String}

theorem standing_literal (text : String)
    (plain : ∀ char ∈ text.toList, closingBracket char = none) :
    Standing evidence scopeIds text.toList :=
  standing_of_plain plain

/-- A text with a marker in it: what is in front of the marker stands for
itself. -/
def HasMarker (evidence : List EvidenceRecord) (scopeIds : List String)
    (token text : List Char) : Prop :=
  ∃ front back, text = front ++ (tokenMarker token ++ back) ∧
    Standing evidence scopeIds front

theorem HasMarker.append {token text : List Char}
    (marked : HasMarker evidence scopeIds token text) (more : List Char) :
    HasMarker evidence scopeIds token (text ++ more) := by
  obtain ⟨front, back, rfl, standing⟩ := marked
  exact ⟨front, back ++ more, by simp only [List.append_assoc], standing⟩

theorem HasMarker.behind {token text first : List Char}
    (marked : HasMarker evidence scopeIds token text)
    (standing : Standing evidence scopeIds first) :
    HasMarker evidence scopeIds token (first ++ text) := by
  obtain ⟨front, back, rfl, behind⟩ := marked
  exact ⟨first ++ front, back, by simp only [List.append_assoc],
    standing.append behind⟩

/-- Texts that stand for themselves may be joined before a marker. -/
theorem HasMarker.intercalate {token separator text : List Char}
    {texts : List (List Char)}
    (standing : ∀ other ∈ texts,
      Standing evidence scopeIds (other ++ separator))
    (member : text ∈ texts)
    (marked : HasMarker evidence scopeIds token text) :
    HasMarker evidence scopeIds token
      (List.intercalate separator texts) := by
  induction texts with
  | nil => cases member
  | cons first texts induction =>
      cases texts with
      | nil =>
          rw [List.mem_singleton.mp member] at marked
          rw [List.intercalate_singleton]
          exact marked
      | cons second texts =>
          rw [List.intercalate_cons_cons]
          rcases List.mem_cons.mp member with rfl | later
          · rw [List.append_assoc]
            exact marked.append _
          · exact (induction (fun other inTexts => standing other
              (List.mem_cons_of_mem _ inTexts)) later).behind
                (standing first List.mem_cons_self)

theorem standing_intercalate {separator : List Char}
    {texts : List (List Char)}
    (between : Standing evidence scopeIds separator)
    (standing : ∀ text ∈ texts, Standing evidence scopeIds text) :
    Standing evidence scopeIds (List.intercalate separator texts) := by
  induction texts with
  | nil => exact standing_nil
  | cons first texts induction =>
      have here := standing first List.mem_cons_self
      cases texts with
      | nil =>
          rw [List.intercalate_singleton]
          exact here
      | cons second texts =>
          rw [List.intercalate_cons_cons]
          exact (here.append between).append
            (induction fun text member =>
              standing text (List.mem_cons_of_mem _ member))

/-- Stripping does not touch a marker. -/
theorem HasMarker.strip {token text : List Char}
    (marked : HasMarker evidence scopeIds token text) :
    HasMarker evidence scopeIds token (stripChars text) := by
  obtain ⟨front, back, rfl, standing⟩ := marked
  have left : ∀ more, stripLeft (front ++ ('[' :: more)) =
      stripLeft front ++ ('[' :: more) := by
    intro more
    induction front with
    | nil => rfl
    | cons char front induction =>
        unfold stripLeft at induction ⊢
        by_cases space : isSpace char
        · rw [List.cons_append, List.dropWhile_cons_of_pos space,
            List.dropWhile_cons_of_pos space]
          apply induction
          exact (standing_cons_iff
            (closingBracket_of_isSpace space)).mp standing
        · rw [List.cons_append, List.dropWhile_cons_of_neg space,
            List.dropWhile_cons_of_neg space]
          rfl
  have right : ∀ inside : List Char, ∃ rest,
      (stripLeft (inside ++ ([']'] ++ back)).reverse).reverse =
        inside ++ ([']'] ++ rest) := by
    intro inside
    have shape : (inside ++ ([']'] ++ back)).reverse =
        back.reverse ++ (']' :: inside.reverse) := by
      simp
    have dropped : ∀ (reversed more : List Char), ∃ rest,
        stripLeft (reversed ++ (']' :: more)) =
          rest ++ (']' :: more) := by
      intro reversed more
      induction reversed with
      | nil => exact ⟨[], rfl⟩
      | cons char reversed induction =>
          obtain ⟨rest, shorter⟩ := induction
          by_cases space : isSpace char
          · refine ⟨rest, ?_⟩
            rw [← shorter, stripLeft, List.cons_append,
              List.dropWhile_cons_of_pos space, stripLeft]
          · refine ⟨char :: reversed, ?_⟩
            rw [stripLeft, List.cons_append,
              List.dropWhile_cons_of_neg space]
    obtain ⟨rest, kept⟩ := dropped back.reverse inside.reverse
    refine ⟨rest.reverse, ?_⟩
    rw [shape, kept]
    simp
  have marker : tokenMarker token = '[' :: ("source:".toList ++ token) ++
      [']'] := rfl
  obtain ⟨rest, kept⟩ := right (stripLeft front ++
    '[' :: ("source:".toList ++ token))
  refine ⟨stripLeft front, rest, ?_, standing.stripLeft⟩
  rw [stripChars, marker, List.append_assoc, List.cons_append, left]
  rw [List.append_assoc] at kept
  rw [List.cons_append] at kept
  rw [kept]
  simp only [List.append_assoc, List.cons_append]

/-- What a marker resolves to is cited once the text is normalised. -/
theorem HasMarker.cited {token : List Char} {text : String}
    (marked : HasMarker evidence scopeIds token text.toList)
    {item : EvidenceRecord}
    (resolved : resolvedRecord evidence scopeIds token = some item)
    (canonical : ∀ item ∈ evidence, isValidSourceToken (reportToken item)) :
    recordMarker item ∈
      sourceMatches (normalizedReportMd evidence scopeIds text) := by
  obtain ⟨front, back, shape, standing⟩ := marked
  have found := @recordMarker_mem_normalised _ _ _ back standing _ _ resolved
    canonical
  rw [← shape, String.ofList_toList] at found
  exact found

end Joined

/-! ## The section -/

/-- A candidate is a valid token, and the only record that answers to it or
to its canonical token is its own. -/
structure CandidateStands (evidence : List EvidenceRecord)
    (evidenceId : String) : Prop where
  valid : isValidSourceToken evidenceId
  known : ∃ item ∈ evidence, item.id = evidenceId
  alone : ∀ item ∈ evidence, item.id = evidenceId → ∀ other ∈ evidence,
    normalizeSourceToken evidenceId ∈ evidenceSourceTokens other ∨
        normalizeSourceToken (reportToken item) ∈
          evidenceSourceTokens other →
      other.id = evidenceId

/-- The report text, the ids of the filled gaps and the contexts that are
quoted open no marker they do not close, also when they are normalised, and
the linked ids are valid tokens. -/
structure SectionStands (evidence : List EvidenceRecord)
    (scopeIds : List String) (reportMd : String)
    (gaps : List EvidenceGapItem) : Prop where
  report : Standing evidence scopeIds (stripRight reportMd ++ "\n").toList
  gapIds : ∀ gap ∈ gaps, gap.newCandidateIds ≠ [] →
    ∀ char ∈ gap.id.toList, closingBracket char = none
  contexts : ∀ gap ∈ gaps, gap.newCandidateIds ≠ [] →
    Standing evidence scopeIds (gap.excerpt ++ "\n").toList
  linked : ∀ gap ∈ gaps, gap.newCandidateIds ≠ [] →
    ∀ id ∈ gap.evidenceIds, id ≠ "" → isValidSourceToken id
  canonical : ∀ item ∈ evidence, isValidSourceToken (reportToken item)
  candidates : ∀ id ∈ (filledGaps gaps).candidateIds,
    CandidateStands evidence id

section Section

variable {evidence : List EvidenceRecord} {scopeIds : List String}
  {reportMd : String} {gaps : List EvidenceGapItem} {gap : EvidenceGapItem}

theorem toList_sourceToken (id : String) :
    ("[source:" ++ id ++ "]").toList = tokenMarker id.toList := by
  have opening : "[source:".toList = '[' :: "source:".toList := by
    decide
  have closing : "]".toList = [']'] := by
    decide
  rw [String.toList_append, String.toList_append, opening, closing]
  rfl

theorem toList_formatTokens {ids : List String} (filled : ids ≠ []) :
    (formatGapFillSourceTokens ids).toList =
      List.intercalate ", ".toList
        (ids.map fun id => tokenMarker id.toList) := by
  rw [formatGapFillSourceTokens, if_neg filled, String.toList_intercalate,
    List.map_map]
  congr 1
  apply List.map_congr_left
  intro id _
  exact toList_sourceToken id

theorem mem_candidateIds {id : String} :
    id ∈ (filledGaps gaps).candidateIds ↔
      ∃ gap ∈ gaps, id ∈ gap.newCandidateIds := by
  have members : id ∈ (filledGaps gaps).candidateIds ↔
      id ∈ (gaps.filter (·.newCandidateIds ≠ [])).flatMap
        (·.newCandidateIds) ∧ id ≠ "" := mem_uniqueIds
  rw [members, List.mem_flatMap]
  constructor
  · rintro ⟨⟨gap, filled, isNew⟩, -⟩
    exact ⟨gap, List.mem_of_mem_filter filled, isNew⟩
  · rintro ⟨gap, inGaps, isNew⟩
    refine ⟨⟨gap, List.mem_filter.mpr ⟨inGaps, ?_⟩, isNew⟩,
      ne_empty_of_new isNew⟩
    exact decide_eq_true (List.ne_nil_of_mem isNew)

/-- Every id on the line of a filled gap is a valid token. -/
theorem SectionStands.validLinked
    (stands : SectionStands evidence scopeIds reportMd gaps)
    (inGaps : gap ∈ gaps) (isNew : gap.newCandidateIds ≠ []) :
    ∀ id ∈ gap.linked.evidenceIds, isValidSourceToken id := by
  intro id member
  obtain ⟨listed, filled⟩ := mem_uniqueIds.mp member
  rcases List.mem_append.mp listed with old | new
  · exact stands.linked gap inGaps isNew id old filled
  · exact (stands.candidates id
      (mem_candidateIds.mpr ⟨gap, inGaps, new⟩)).valid

theorem SectionStands.standingMarker
    (stands : SectionStands evidence scopeIds reportMd gaps) {id : String}
    (valid : isValidSourceToken id) :
    Standing evidence scopeIds (tokenMarker id.toList) := by
  apply standing_marker _ stands.canonical
  rw [String.ofList_toList]
  exact valid

theorem standing_separator :
    Standing evidence scopeIds ", ".toList :=
  standing_literal _ (by decide)

theorem SectionStands.tokens
    (stands : SectionStands evidence scopeIds reportMd gaps)
    (inGaps : gap ∈ gaps) (isNew : gap.newCandidateIds ≠ []) :
    Standing evidence scopeIds
      (formatGapFillSourceTokens gap.linked.evidenceIds).toList := by
  by_cases filled : gap.linked.evidenceIds = []
  · exact (isNew (linked_evidenceIds_eq_nil.mp filled).1).elim
  · rw [toList_formatTokens filled]
    apply standing_intercalate standing_separator
    intro text member
    obtain ⟨id, linked, rfl⟩ := List.mem_map.mp member
    exact stands.standingMarker (stands.validLinked inGaps isNew id linked)

/-- What a line on a filled gap begins with. -/
def linePrefix (gap : EvidenceGapItem) : List Char :=
  "- ".toList ++ gap.id.toList ++ ": linked evidence candidates ".toList

theorem toList_line (gap : EvidenceGapItem) :
    ("- " ++ gap.id ++ ": linked evidence candidates " ++
      formatGapFillSourceTokens gap.evidenceIds ++ ".").toList =
      linePrefix gap ++ ((formatGapFillSourceTokens gap.evidenceIds).toList ++
        ".".toList) := by
  simp only [String.toList_append, linePrefix, List.append_assoc]

theorem SectionStands.standingPrefix
    (stands : SectionStands evidence scopeIds reportMd gaps)
    (inGaps : gap ∈ gaps) (isNew : gap.newCandidateIds ≠ []) :
    Standing evidence scopeIds (linePrefix gap) := by
  have first := @standing_literal evidence scopeIds "- " (by decide)
  have last := @standing_literal evidence scopeIds
    ": linked evidence candidates " (by decide)
  exact (first.append (standing_of_plain
    (stands.gapIds gap inGaps isNew))).append last

/-- The lines on a filled gap stand for themselves. -/
theorem SectionStands.lines
    (stands : SectionStands evidence scopeIds reportMd gaps)
    (inGaps : gap ∈ gaps) (isNew : gap.newCandidateIds ≠ [])
    {line : String} (member : line ∈ gap.linked.lines) :
    Standing evidence scopeIds (line.toList ++ "\n".toList) := by
  have dot := @standing_literal evidence scopeIds "." (by decide)
  have newline := @standing_literal evidence scopeIds "\n" (by decide)
  have intro_ := @standing_literal evidence scopeIds "  - Grounded context: "
    (by decide)
  rcases List.mem_cons.mp member with rfl | later
  · rw [toList_line]
    have front : linePrefix gap.linked = linePrefix gap := rfl
    rw [front]
    exact ((stands.standingPrefix inGaps isNew).append
      ((stands.tokens inGaps isNew).append dot)).append newline
  · split at later
    · cases later
    · rw [List.mem_singleton.mp later, String.toList_append,
        List.append_assoc]
      have context := stands.contexts gap inGaps isNew
      rw [String.toList_append] at context
      exact intro_.append context

/-- The line on a filled gap has the marker of each of its candidates. -/
theorem SectionStands.markedLine
    (stands : SectionStands evidence scopeIds reportMd gaps)
    (inGaps : gap ∈ gaps) {id : String} (isNew : id ∈ gap.newCandidateIds) :
    ∃ line ∈ gap.linked.lines,
      HasMarker evidence scopeIds id.toList line.toList := by
  have filled := List.ne_nil_of_mem isNew
  have linked : id ∈ gap.linked.evidenceIds :=
    mem_uniqueIds.mpr ⟨List.mem_append_right _ isNew, ne_empty_of_new isNew⟩
  refine ⟨_, List.mem_cons_self, ?_⟩
  rw [toList_line, toList_formatTokens (List.ne_nil_of_mem linked)]
  apply HasMarker.behind _ (stands.standingPrefix inGaps filled)
  apply HasMarker.append
  have alone : HasMarker evidence scopeIds id.toList
      (tokenMarker id.toList) :=
    ⟨[], [], by simp, standing_nil⟩
  refine HasMarker.intercalate ?_ (List.mem_map_of_mem linked) alone
  intro other member
  obtain ⟨otherId, otherLinked, rfl⟩ := List.mem_map.mp member
  exact (stands.standingMarker
    (stands.validLinked inGaps filled otherId otherLinked)).append
      standing_separator

/-- The text with the section has the marker of every candidate. -/
theorem SectionStands.marked
    (stands : SectionStands evidence scopeIds reportMd gaps)
    (accounted : GapsAccounted gaps) {id : String}
    (candidate : id ∈ (filledGaps gaps).candidateIds) :
    HasMarker evidence scopeIds id.toList
      (appendGapFillSection reportMd (filledGaps gaps).updatedGaps
        (filledGaps gaps).filledGapIds).toList := by
  obtain ⟨gap, inGaps, isNew⟩ := mem_candidateIds.mp candidate
  have isFilled : ∀ other ∈ gaps, other.newCandidateIds ≠ [] →
      other.id ∈ (filledGaps gaps).filledGapIds := by
    intro other member filled
    have listed : other.id ∈ filledIds gaps :=
      mem_filledIds.mpr ⟨other, member, filled, rfl⟩
    exact mem_uniqueIds.mpr ⟨listed, accounted.named other member filled⟩
  have onlyFilled : ∀ other ∈ gaps,
      other.id ∈ (filledGaps gaps).filledGapIds →
        other.newCandidateIds ≠ [] := by
    intro other member listed nothing
    obtain ⟨first, firstMember, firstNew, same⟩ :=
      mem_filledIds.mp (mem_uniqueIds.mp listed).1
    exact accounted.apart first firstMember other member firstNew nothing
      same
  have someFilled : (filledGaps gaps).filledGapIds ≠ [] :=
    List.ne_nil_of_mem (isFilled gap inGaps (List.ne_nil_of_mem isNew))
  obtain ⟨line, isLine, marked⟩ := stands.markedLine inGaps isNew
  unfold appendGapFillSection
  dsimp only
  rw [if_neg someFilled, String.toList_append, strip, String.toList_ofList,
    String.toList_intercalate]
  apply HasMarker.append
  apply HasMarker.strip
  refine HasMarker.intercalate ?_ (List.mem_map_of_mem ?_) marked
  · intro other member
    obtain ⟨text, inLines, rfl⟩ := List.mem_map.mp member
    rcases List.mem_append.mp inLines with header | inSection
    · have plain : ∀ literal ∈ ["", "## RAG Gap Fill", ""],
          Standing evidence scopeIds (literal.toList ++ "\n".toList) := by
        intro literal inHeader
        apply standing_of_plain
        revert literal
        decide
      rcases List.mem_cons.mp header with rfl | later
      · have report := stands.report
        rw [String.toList_append] at report
        exact report
      · exact plain text later
    · obtain ⟨other, listed, inGap⟩ := List.mem_flatMap.mp inSection
      obtain ⟨inUpdated, isListed⟩ := List.mem_filter.mp listed
      obtain ⟨original, originalMember, rfl⟩ := List.mem_map.mp inUpdated
      exact stands.lines originalMember (onlyFilled original originalMember
        (of_decide_eq_true isListed)) inGap
  · apply List.mem_append_right
    rw [List.mem_flatMap]
    refine ⟨gap.linked, List.mem_filter.mpr
      ⟨List.mem_map_of_mem inGaps, ?_⟩, isLine⟩
    exact decide_eq_true
      (isFilled gap inGaps (List.ne_nil_of_mem isNew))

end Section

/-! ## The stored version -/

section Stored

variable {settings : GapFillSettings} {store : EnterpriseReports}
  {gaps : List EvidenceGapItem} {online : OnlineCollection}
  {source : ReportVersionRecord} {now : Nat}

/-- The text with the section on the filled gaps. -/
def sectionText (gaps : List EvidenceGapItem) (reportMd : String) : String :=
  appendGapFillSection reportMd (filledGaps gaps).updatedGaps
    (filledGaps gaps).filledGapIds

/-- The source has no layers, nothing with layers is stored under the id of
the draft, and the section stands in its text. -/
structure FillStands (settings : GapFillSettings)
    (store : EnterpriseReports) (gaps : List EvidenceGapItem)
    (online : OnlineCollection) (source : ReportVersionRecord) (now : Nat) :
    Prop where
  unlayered : ¬ source.HasLayers
  fresh : ∀ existing, store.versions.get?
      (gapFillDraft settings store gaps online source now).id =
        some existing → ¬ existing.HasPreservableLayers
  stands : SectionStands
    (store.reportScopeEvidence
      (gapFillDraft settings store gaps online source now))
    (gapFillDraft settings store gaps online source now).evidenceIds
    source.reportMd gaps

theorem mem_gapFillDraft_evidenceIds {id : String}
    (candidate : id ∈ (filledGaps gaps).candidateIds) :
    id ∈ (gapFillDraft settings store gaps online source now).evidenceIds := by
  obtain ⟨gap, -, isNew⟩ := mem_candidateIds.mp candidate
  exact mem_uniqueIds.mpr ⟨List.mem_append_right _ candidate,
    ne_empty_of_new isNew⟩

/-- The store writes the draft with its text normalised. -/
theorem FillStands.canonicalVersion
    (fill : FillStands settings store gaps online source now) :
    (store.canonicalVersion
        (gapFillDraft settings store gaps online source now)).reportMd =
        normalizedReportMd
          (store.reportScopeEvidence
            (gapFillDraft settings store gaps online source now))
          (gapFillDraft settings store gaps online source now).evidenceIds
          (sectionText gaps source.reportMd) ∧
      (store.canonicalVersion
        (gapFillDraft settings store gaps online source now)).evidenceIds =
        normalizedEvidenceIds
          (store.reportScopeEvidence
            (gapFillDraft settings store gaps online source now))
          (gapFillDraft settings store gaps online source now).evidenceIds
          (sectionText gaps source.reportMd) := by
  have unlayered :
      ¬ (gapFillDraft settings store gaps online source now).HasLayers :=
    fill.unlayered
  have kept : (gapFillDraft settings store gaps online source
      now).preservingLayers (store.versions.get?
        (gapFillDraft settings store gaps online source now).id) =
      gapFillDraft settings store gaps online source now := by
    cases stored : store.versions.get?
        (gapFillDraft settings store gaps online source now).id with
    | none => rfl
    | some existing =>
        rw [ReportVersionRecord.preservingLayers, if_neg]
        rintro ⟨-, preservable, -⟩
        exact fill.fresh existing stored preservable
  unfold EnterpriseReports.canonicalVersion
  dsimp only
  rw [kept, normalizeReportVersionSources, if_neg unlayered]
  exact ⟨rfl, rfl⟩

/-- A candidate that stands is cited by a text with its marker. -/
theorem CandidateStands.cites {evidence : List EvidenceRecord}
    {version : ReportVersionRecord} {scopeIds : List String} {text : String}
    {id : String} (stands : CandidateStands evidence id) (filled : id ≠ "")
    (canonical : ∀ item ∈ evidence, isValidSourceToken (reportToken item))
    (marked : HasMarker evidence scopeIds id.toList text.toList)
    (reportMd : version.reportMd =
      normalizedReportMd evidence scopeIds text) :
    Cites evidence version id := by
  obtain ⟨known, knownMember, isKnown⟩ := stands.known
  have named : normalizeSourceToken id ∈ evidenceSourceTokens known := by
    apply List.mem_map_of_mem
    rw [List.mem_filter, decide_eq_true_iff, isKnown]
    exact ⟨List.mem_append_left _ List.mem_cons_self, filled⟩
  obtain ⟨item, member, found⟩ :=
    exists_resolveEvidence knownMember named scopeIds
  have sameId : item.id = id := stands.alone known knownMember isKnown item
    member (.inl (mem_of_resolveEvidence found).2)
  have resolved : resolvedRecord evidence scopeIds id.toList = some item := by
    rw [resolvedRecord_eq_some, String.ofList_toList, sameId]
    exact ⟨stands.valid, found, filled⟩
  have inText := marked.cited resolved canonical
  rw [← reportMd] at inText
  obtain ⟨last, lastMember, isLast⟩ := exists_resolveEvidence member
    (@reportToken_named item (by rw [sameId]; exact filled))
    version.evidenceIds
  have lastId : last.id = id := stands.alone item member sameId last
    lastMember (.inr (mem_of_resolveEvidence isLast).2)
  refine ⟨recordMarker item, inText, last, ?_, lastId⟩
  unfold recordMarker
  dsimp only
  rw [resolvedRecord_eq_some, String.ofList_toList, lastId]
  exact ⟨canonical item member, isLast, filled⟩

/-- The entry describes the gaps as the answer does if they are accounted
for. -/
theorem GapsAccounted.describes (accounted : GapsAccounted gaps) :
    Describes (ragGapFill settings gaps online source)
      (finalizeGapFill settings store gaps online (some source) now).2 := by
  have count := accounted.count
  refine ⟨rfl, rfl, rfl, ?_⟩
  show (if (filledGaps gaps).filledGapIds ≠ [] ∨
      remainingGapIds (filledGaps gaps).updatedGaps ≠ [] then
        settings.roundedRatio (filledGaps gaps).filledGapIds.length
          ((filledGaps gaps).filledGapIds.length +
            (remainingGapIds (filledGaps gaps).updatedGaps).length)
      else 0) =
    if gaps.length ≠ 0 then
      settings.roundedRatio (filledGaps gaps).filledGapIds.length gaps.length
    else 0
  have sameTest : ((filledGaps gaps).filledGapIds ≠ [] ∨
      remainingGapIds (filledGaps gaps).updatedGaps ≠ []) ↔
        gaps.length ≠ 0 := by
    rw [← count, ← List.length_pos_iff, ← List.length_pos_iff]
    omega
  rw [count]
  by_cases someGaps : gaps.length ≠ 0
  · rw [if_pos someGaps, if_pos (sameTest.mpr someGaps)]
  · rw [if_neg someGaps, if_neg (mt sameTest.mp someGaps)]

/-- A version with text in its layers is rebuilt from them: the section is
lost. -/
theorem gapFill_text_of_layers (layered : source.HasLayers)
    (filled : ∃ layer ∈ sourceLayers source,
      sourceSkeleton
        (store.reportScopeEvidence
          (gapFillDraft settings store gaps online source now))
        (gapFillDraft settings store gaps online source now).evidenceIds
        layer ≠ "") :
    (store.canonicalVersion
        (gapFillDraft settings store gaps online source now)).reportMd =
      normalizedReportMd
        (store.reportScopeEvidence
          (gapFillDraft settings store gaps online source now))
        (gapFillDraft settings store gaps online source now).evidenceIds
        (joinLayers ((sourceLayers source).map
          (normalizedReportMd
            (store.reportScopeEvidence
              (gapFillDraft settings store gaps online source now))
            (gapFillDraft settings store gaps online source
              now).evidenceIds))) := by
  have isLayered :
      (gapFillDraft settings store gaps online source now).HasLayers :=
    layered
  have kept : (gapFillDraft settings store gaps online source
      now).preservingLayers (store.versions.get?
        (gapFillDraft settings store gaps online source now).id) =
      gapFillDraft settings store gaps online source now := by
    cases store.versions.get?
        (gapFillDraft settings store gaps online source now).id with
    | none => rfl
    | some existing =>
        rw [ReportVersionRecord.preservingLayers, if_neg]
        exact fun taken => taken.2.2 isLayered
  unfold EnterpriseReports.canonicalVersion
  dsimp only
  rw [kept, normalizeReportVersionSources, if_pos isLayered,
    (normalizeLayered_eq _ _).1]
  show normalizedReportMd _ _ (joinedFullReportMd _ _) = _
  rw [joinedFullReportMd_eq, usedLayers, if_neg]
  · rfl
  · intro blank
    obtain ⟨layer, member, nonempty⟩ := filled
    exact nonempty (blank layer member)

end Stored

namespace GapFillExample

def settings : GapFillSettings :=
  { sha256Hex := fun _ => "digest"
    roundedRatio := fun first second => first / second
    dumps := fun entry => String.intercalate "," entry.filledGapIds }

def pricing : EvidenceRecord :=
  { id := "ev-1"
    projectId := "project"
    rawSourceId := "raw-1" }

def store : EnterpriseReports :=
  { evidence := { evidence := (∅ : Table _ _ _).upsert pricing } }

def report (coreReportMd : String) : ReportVersionRecord :=
  { id := "version-1"
    runId := none
    scope :=
      { projectId := "project"
        topicNormalized := "topic"
        competitorLayer := "l1"
        competitorSetHash := "set" }
    versionNumber := 1
    reportMd := "Plans."
    createdAt := 0
    coreReportMd := coreReportMd }

/-- Retrieval found a record for the gap. -/
def gap : EvidenceGapItem :=
  { id := "gap-1"
    retrievalCandidateIds := ["ev-1"] }

theorem evidence_eq : store.reportScopeEvidence
    (gapFillDraft settings store [gap] {} (report "") 1) = [pricing] := by
  decide +kernel

theorem fillStands : FillStands settings store [gap] {} (report "") 1 := by
  constructor
  case unlayered => decide
  case fresh => exact fun _ found => nomatch found
  case stands =>
    rw [evidence_eq]
    constructor
    case report => exact standing_literal _ (by decide +kernel)
    case gapIds => decide
    case contexts =>
      intro other member _
      rw [List.mem_singleton.mp member]
      exact standing_literal _ (by decide +kernel)
    case linked => decide
    case canonical => decide +kernel
    case candidates =>
      intro id candidate
      have isId : id = "ev-1" := by
        have listed : (filledGaps [gap]).candidateIds = ["ev-1"] := by
          decide +kernel
        rw [listed] at candidate
        exact List.mem_singleton.mp candidate
      rw [isId]
      refine ⟨by decide +kernel, ⟨pricing, List.mem_cons_self, rfl⟩, ?_⟩
      intro item _ _ other member _
      rw [List.mem_singleton.mp member]
      rfl

end GapFillExample

end CompetiScope
