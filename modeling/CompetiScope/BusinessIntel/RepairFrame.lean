import CompetiScope.BusinessIntel.ReleaseRepair

/-!
# What the release repair leaves of a report

Removing the section of the follow-up repairs leaves the other sections with
their markers just where the markers around it agree; doing it again changes
nothing.
-/

namespace CompetiScope

open Foundation

/-! ## White space at the end -/

theorem trimRight_append (front text : List Char) :
    trimRight (front ++ text) =
      if trimRight text = [] then trimRight front
      else front ++ trimRight text := by
  unfold trimRight List.rdropWhile
  rw [List.reverse_append, List.dropWhile_append]
  by_cases isBlank : text.reverse.dropWhile isSpace = []
  · simp [isBlank]
  · simp [isBlank]

/-- Texts with one front are trimmed to one text together. -/
theorem trimRight_cancel {front first second : List Char} :
    trimRight (front ++ first) = trimRight (front ++ second) ↔
      trimRight first = trimRight second := by
  have short : trimRight front <+: front := List.rdropWhile_prefix _ _
  have tooLong : ∀ text, trimRight text ≠ [] →
      trimRight front ≠ front ++ trimRight text := by
    intro text filled same
    have lengths := congrArg List.length same
    have le := short.length_le
    rw [List.length_append] at lengths
    exact filled (List.length_eq_zero_iff.mp (by omega))
  rw [trimRight_append, trimRight_append]
  by_cases isFirst : trimRight first = []
  · by_cases isSecond : trimRight second = []
    · rw [if_pos isFirst, if_pos isSecond, isFirst, isSecond]
      exact iff_of_true rfl rfl
    · rw [if_pos isFirst, if_neg isSecond, isFirst]
      exact iff_of_false (tooLong second isSecond) (Ne.symm isSecond)
  · by_cases isSecond : trimRight second = []
    · rw [if_neg isFirst, if_pos isSecond, isSecond]
      exact iff_of_false (Ne.symm (tooLong first isFirst)) isFirst
    · rw [if_neg isFirst, if_neg isSecond]
      exact List.append_right_inj _

theorem trimRight_trimRight (text : List Char) :
    trimRight (trimRight text) = trimRight text :=
  List.rdropWhile_idempotent isSpace text

theorem exists_trimRight (text : List Char) :
    ∃ blank, Blank blank ∧ trimRight text ++ blank = text :=
  ⟨text.rtakeWhile isSpace, fun _ member => List.mem_rtakeWhile_imp member,
    List.rdropWhile_append_rtakeWhile⟩

/-! ## Markers -/

/-- A marker with the blank lines behind it, or nothing. -/
inductive MarkerLines : List Char → Prop where
  | none : MarkerLines []
  | marker {line blank : List Char} (oneLine : '\n' ∉ line)
      (opens : (stripLeft line).head? = some '<')
      (trimmed : trimRight line = line) (isBlank : Blank blank)
      (newline : '\n' ∈ blank) : MarkerLines (line ++ blank)

theorem withoutMarker_append (text : List Char) :
    withoutMarker text ++ markerOf text = text := by
  apply List.suffix_iff_eq_append.mp
  unfold markerOf
  dsimp only
  split
  · have isLine : (trimRight text).rtakeWhile (· ≠ '\n') <:+
        trimRight text := List.rtakeWhile_suffix _ _
    obtain ⟨front, whole⟩ := isLine
    refine ⟨front, ?_⟩
    rw [← List.append_assoc, whole]
    exact List.rdropWhile_append_rtakeWhile
  · exact List.nil_suffix

theorem markerLines_markerOf {text : List Char}
    (closed : text = [] ∨ EndsLine text) : MarkerLines (markerOf text) := by
  rcases closed with rfl | ends
  · exact .none
  unfold markerOf
  dsimp only
  split
  · next isMarker =>
      obtain ⟨marker, parsed⟩ := Option.isSome_iff_exists.mp isMarker
      have opens := marker_opens parsed
      obtain ⟨front, whole⟩ : (trimRight text).rtakeWhile (· ≠ '\n') <:+
        trimRight text := List.rtakeWhile_suffix _ _
      have oneLine : '\n' ∉ (trimRight text).rtakeWhile (· ≠ '\n') := by
        intro member
        simpa using List.mem_rtakeWhile_imp member
      generalize (trimRight text).rtakeWhile (· ≠ '\n') = line at *
      have filled : line ≠ [] := by
        rintro rfl
        cases opens
      apply MarkerLines.marker oneLine opens
      · have trimmed := trimRight_trimRight text
        rw [← whole, trimRight_append] at trimmed
        split at trimmed
        · next isBlank =>
            have short := (List.rdropWhile_prefix isSpace front).length_le
            have lengths := congrArg List.length trimmed
            rw [List.length_append] at lengths
            unfold trimRight at lengths
            exact absurd (List.length_eq_zero_iff.mp (by omega)) filled
        · exact List.append_cancel_left trimmed
      · exact fun _ member => List.mem_rtakeWhile_imp member
      · obtain ⟨before, rfl⟩ := List.getLast?_eq_some_iff.mp ends
        rw [List.rtakeWhile_concat_pos _ _ _ (by decide)]
        exact List.mem_append_right _ List.mem_cons_self
  · exact .none

/-- A marker does not begin like a heading. -/
theorem MarkerLines.head_ne {marker : List Char} (marks : MarkerLines marker)
    (rest : List Char) : (marker ++ rest).head? = some '#' → marker = [] := by
  intro isHead
  cases marks with
  | none => rfl
  | @marker line blank oneLine opens trimmed isBlank newline =>
      cases line with
      | nil => cases opens
      | cons char line =>
          have isMark : char = '#' := by simpa using isHead
          rw [isMark, stripLeft, List.dropWhile_cons_of_neg (by decide)]
            at opens
          simp at opens

/-- No heading begins inside a marker. -/
theorem MarkerLines.no_heading {marker extra : List Char}
    (short : MarkerLines marker) (long : MarkerLines (marker ++ extra))
    (isHead : extra.head? = some '#') : False := by
  have inExtra : '#' ∈ extra := List.mem_of_mem_head? isHead
  cases short with
  | none =>
      have isEmpty := long.head_ne [] (by rwa [List.append_nil])
      rw [List.nil_append] at isEmpty
      rw [isEmpty] at isHead
      cases isHead
  | @marker line blank oneLine opens trimmed isBlank newline =>
      obtain ⟨before, after, rfl⟩ := List.append_of_mem newline
      generalize whole : line ++ (before ++ '\n' :: after) ++ extra = text
        at long
      cases long with
      | none =>
          have filled := congrArg List.length whole
          simp at filled
      | @marker longLine longBlank longOneLine _ _ longIsBlank _ =>
          have same : longLine ++ longBlank =
              (line ++ before) ++ ('\n' :: (after ++ extra)) := by
            rw [← whole]
            simp
          have inBlank : '#' ∈ longBlank := by
            rcases List.append_eq_append_iff.mp same with
              ⟨rest, -, isBlankRest⟩ | ⟨rest, isLine, isRest⟩
            · rw [isBlankRest]
              simp [inExtra]
            · cases rest with
              | nil =>
                  rw [List.nil_append] at isRest
                  rw [← isRest]
                  simp [inExtra]
              | cons char rest =>
                  have isNewline : '\n' = char := (List.cons.inj isRest).1
                  have inLine : '\n' ∈ longLine := by
                    rw [isLine, ← isNewline]
                    simp
                  exact absurd inLine longOneLine
          exact absurd (longIsBlank '#' inBlank) (by decide)

/-- The text of a marker ends where the heading begins. -/
theorem MarkerLines.cancel {first second firstRest secondRest : List Char}
    (isFirst : MarkerLines first) (isSecond : MarkerLines second)
    (firstHead : firstRest.head? = some '#')
    (secondHead : secondRest.head? = some '#')
    (same : first ++ firstRest = second ++ secondRest) :
    first = second ∧ firstRest = secondRest := by
  rcases List.append_eq_append_iff.mp same with
    ⟨extra, rfl, isRest⟩ | ⟨extra, rfl, isRest⟩
  · cases extra with
    | nil => exact ⟨(List.append_nil _).symm, isRest⟩
    | cons char extra =>
        have isHead : (char :: extra).head? = some '#' := by
          rw [isRest] at firstHead
          exact firstHead
        exact (isFirst.no_heading isSecond isHead).elim
  · cases extra with
    | nil => exact ⟨List.append_nil _, isRest.symm⟩
    | cons char extra =>
        have isHead : (char :: extra).head? = some '#' := by
          rw [isRest] at secondHead
          exact secondHead
        exact (isSecond.no_heading isFirst isHead).elim

/-! ## What removing leaves -/

/-- Before a section that follows removed ones, and at the end, stands the
marker that stood before the first one removed.  `pending` is that marker,
and `text` the last section read. -/
def MarkersAgree (pending : Option (List Char)) (text : List Char) :
    List (List Char) → Prop
  | [] => pending.getD [] = []
  | next :: sections =>
      if hasHeading releaseRepairHeading next then
        MarkersAgree (some (pending.getD (markerOf text))) next sections
      else
        pending.getD (markerOf text) = markerOf text ∧
          MarkersAgree none next sections

/-- The text without the sections that are removed. -/
def keptText (isRepair : Bool) (text : List Char)
    (sections : List (List Char)) : List Char :=
  (if isRepair then [] else text) ++
    (sections.filter fun text =>
      !hasHeading releaseRepairHeading text).flatten

/-- The text of the other sections. -/
def othersText (isRepair : Bool) (marker text : List Char)
    (sections : List (List Char)) : List Char :=
  (((markedSections isRepair marker text sections).filter fun entry =>
    !entry.1).map (·.2)).flatten

theorem othersText_cons (isRepair : Bool)
    (marker text next : List Char) (sections : List (List Char)) :
    othersText isRepair marker text (next :: sections) =
      (if isRepair then [] else marker ++ withoutMarker text) ++
        othersText (hasHeading releaseRepairHeading next) (markerOf text)
          next sections := by
  unfold othersText
  rw [markedSections, List.filter_cons]
  cases isRepair with
  | true => rfl
  | false => rfl

theorem othersText_marker (marker text : List Char)
    (sections : List (List Char)) :
    othersText false marker text sections =
      marker ++ othersText false [] text sections := by
  cases sections with
  | nil => simp [othersText, markedSections]
  | cons next sections =>
      rw [othersText_cons, othersText_cons]
      simp

theorem othersText_repair (marker text : List Char)
    (sections : List (List Char)) :
    othersText true marker text sections =
      othersText true [] text sections := by
  cases sections with
  | nil => rfl
  | cons next sections => rw [othersText_cons, othersText_cons]; rfl

theorem keptText_cons (isRepair : Bool) (text next : List Char)
    (sections : List (List Char)) :
    keptText isRepair text (next :: sections) =
      (if isRepair then [] else text) ++
        keptText (hasHeading releaseRepairHeading next) next sections := by
  unfold keptText
  rw [List.filter_cons]
  cases hasHeading releaseRepairHeading next with
  | true => rfl
  | false => rfl

theorem head_of_startsSection {text : List Char}
    (begins : startsSection text = true) : text.head? = some '#' := by
  unfold startsSection at begins
  split at begins
  · next first second third rest =>
      simp only [Bool.and_eq_true, decide_eq_true_eq] at begins
      rw [begins.1.1]
      rfl
  · cases begins

/-- A section begins with its heading, also without the marker behind it. -/
theorem head_withoutMarker {text : List Char} (ends : EndsLine text)
    (begins : startsSection text = true) :
    (withoutMarker text).head? = some '#' := by
  have whole := withoutMarker_append text
  have isHead := head_of_startsSection begins
  cases isFront : withoutMarker text with
  | nil =>
      rw [isFront, List.nil_append] at whole
      have isNone := (markerLines_markerOf (.inr ends)).head_ne [] (by
        rw [whole, List.append_nil]
        exact isHead)
      rw [← whole, isNone] at isHead
      cases isHead
  | cons char rest =>
      rw [isFront] at whole
      rw [← whole] at isHead
      exact isHead

theorem trimRight_head {text : List Char} (isHead : text.head? = some '#') :
    (trimRight text).head? = some '#' := by
  cases text with
  | nil => cases isHead
  | cons char text =>
      have isMark : char = '#' := by simpa using isHead
      rw [isMark, ← List.singleton_append, trimRight_append]
      split
      · rfl
      · rfl

/-- Texts behind two markers, from headings on. -/
theorem trimRight_marks {first second firstRest secondRest : List Char}
    (isFirst : MarkerLines first) (isSecond : MarkerLines second)
    (firstHead : firstRest.head? = some '#')
    (secondHead : secondRest.head? = some '#') :
    trimRight (first ++ firstRest) = trimRight (second ++ secondRest) ↔
      first = second ∧ trimRight firstRest = trimRight secondRest := by
  have firstTrimmed := trimRight_head firstHead
  have secondTrimmed := trimRight_head secondHead
  have filled : ∀ {text : List Char}, text.head? = some '#' → text ≠ [] := by
    rintro text isHead rfl
    cases isHead
  rw [trimRight_append, trimRight_append, if_neg (filled firstTrimmed),
    if_neg (filled secondTrimmed)]
  constructor
  · exact isFirst.cancel isSecond firstTrimmed secondTrimmed
  · rintro ⟨rfl, same⟩
    rw [same]

theorem trimRight_marker {marker : List Char} (marks : MarkerLines marker) :
    trimRight marker = [] ↔ marker = [] := by
  constructor
  · intro isBlank
    cases marks with
    | none => rfl
    | @marker line blank oneLine opens trimmed blankEnd newline =>
        rw [trimRight_append] at isBlank
        have none : trimRight blank = [] :=
          List.rdropWhile_eq_nil_iff.mpr blankEnd
        rw [if_pos none, trimmed] at isBlank
        rw [isBlank] at opens
        cases opens
  · rintro rfl
    rfl

/-- Sections as they stand behind a text. -/
structure Sectioned (text : List Char) (sections : List (List Char)) :
    Prop where
  begins : ∀ next ∈ sections, startsSection next = true
  closed : sections ≠ [] → text = [] ∨ EndsLine text
  ended : sections.Pairwise fun before _ => EndsLine before

theorem Sectioned.tail {text next : List Char} {sections : List (List Char)}
    (sectioned : Sectioned text (next :: sections)) :
    Sectioned next sections :=
  { begins := fun text member =>
      sectioned.begins text (List.mem_cons_of_mem _ member)
    closed := by
      intro filled
      obtain ⟨second, member⟩ := List.exists_mem_of_ne_nil _ filled
      exact .inr ((List.pairwise_cons.mp sectioned.ended).1 second member)
    ended := (List.pairwise_cons.mp sectioned.ended).2 }

/-- Both texts begin with the heading of a section that is kept. -/
theorem heads_kept {next : List Char} {sections : List (List Char)}
    (begins : startsSection next = true)
    (sectioned : Sectioned next sections) :
    (keptText false next sections).head? = some '#' ∧
      (othersText false [] next sections).head? = some '#' := by
  have isHead := head_of_startsSection begins
  cases sections with
  | nil =>
      refine ⟨?_, ?_⟩
      · simpa [keptText] using isHead
      · simpa [othersText, markedSections] using isHead
  | cons second sections =>
      have ends : EndsLine next := by
        rcases sectioned.closed (List.cons_ne_nil _ _) with isEmpty | ends
        · rw [isEmpty] at isHead
          cases isHead
        · exact ends
      have front := head_withoutMarker ends begins
      rw [keptText_cons, othersText_cons]
      refine ⟨?_, ?_⟩
      · simp [List.head?_append, isHead]
      · simp [List.head?_append, front]

theorem keptText_iff (sections : List (List Char)) :
    ∀ text : List Char, Sectioned text sections →
      (trimRight (keptText false text sections) =
          trimRight (othersText false [] text sections) ↔
        MarkersAgree none text sections) ∧
      ∀ marker, MarkerLines marker →
        (trimRight (marker ++ keptText true text sections) =
            trimRight (othersText true [] text sections) ↔
          MarkersAgree (some marker) text sections) := by
  induction sections with
  | nil =>
      intro text sectioned
      constructor
      · exact iff_of_true (by simp [keptText, othersText, markedSections])
          rfl
      · intro marker marks
        have empty : marker ++ keptText true text [] = marker :=
          List.append_nil marker
        rw [empty]
        exact trimRight_marker marks
  | cons next sections induction =>
      intro text sectioned
      have begins := sectioned.begins next List.mem_cons_self
      have own := markerLines_markerOf (sectioned.closed (List.cons_ne_nil _ _))
      obtain ⟨kept, removed⟩ := induction next sectioned.tail
      have whole := withoutMarker_append text
      constructor
      · rw [keptText_cons, othersText_cons, MarkersAgree]
        conv =>
          lhs
          rw [if_neg Bool.false_ne_true, if_neg Bool.false_ne_true,
            List.nil_append]
          arg 1
          rw [← whole, List.append_assoc]
        rw [trimRight_cancel]
        by_cases isRepair : hasHeading releaseRepairHeading next = true
        · rw [if_pos isRepair, isRepair, othersText_repair]
          exact removed _ own
        · rw [if_neg isRepair, Bool.eq_false_iff.mpr isRepair,
            othersText_marker, trimRight_cancel, kept]
          exact (and_iff_right rfl).symm
      · intro marker marks
        rw [keptText_cons, othersText_cons, MarkersAgree, if_pos rfl,
          if_pos rfl, List.nil_append, List.nil_append]
        by_cases isRepair : hasHeading releaseRepairHeading next = true
        · rw [if_pos isRepair, isRepair, othersText_repair]
          exact removed marker marks
        · obtain ⟨keptHead, othersHead⟩ := heads_kept begins sectioned.tail
          rw [if_neg isRepair, Bool.eq_false_iff.mpr isRepair,
            othersText_marker, trimRight_marks marks own keptHead othersHead,
            kept]
          rfl

/-! ## Sections of a report -/

theorem linewise_startsSection : Linewise startsSection := by
  refine ⟨rfl, ?_⟩
  intro front rest ends
  match front, ends with
  | [first], ends =>
      have newline : first = '\n' := by simpa [EndsLine] using ends
      rw [newline]
      cases rest with
      | nil => rfl
      | cons second rest =>
          cases rest with
          | nil => rfl
          | cons third rest => rfl
  | [first, second], ends =>
      have newline : second = '\n' := by simpa [EndsLine] using ends
      rw [newline]
      cases rest with
      | nil => rfl
      | cons third rest =>
          simp [startsSection]
  | first :: second :: third :: front, _ => rfl

theorem pieces_report (text : List Char) :
    Pieces startsSection true (reportPieces text).1 (reportPieces text).2 :=
  pieces_sectionsFrom linewise_startsSection text true

theorem reportPieces_flatten (text : List Char) :
    (reportPieces text).1 ++ (reportPieces text).2.flatten = text :=
  sectionsFrom_flatten text true

theorem sectioned_report (text : List Char) :
    Sectioned (reportPieces text).1 (reportPieces text).2 :=
  { begins := fun next member => ((pieces_report text).single next member).1
    closed := by
      intro filled
      rcases (pieces_report text).follows filled with ⟨isEmpty, -⟩ | ends
      · exact .inl isEmpty
      · exact .inr ends
    ended := (pieces_report text).ended }

/-- Removing leaves the text of the other sections just where the markers
around the removed ones agree. -/
theorem remove_eq_iff (reportMd : List Char) :
    removeReleaseRepairSection reportMd =
        trimRight (otherSections reportMd).flatten ↔
      MarkersAgree none (reportPieces (trimRight reportMd)).1
        (reportPieces (trimRight reportMd)).2 :=
  (keptText_iff _ _ (sectioned_report _)).1

/-! ## Removing again -/

/-- A heading on one line. -/
structure PlainHeading (heading : List Char) : Prop where
  filled : heading ≠ []
  unmarked : '#' ∉ heading
  oneLine : '\n' ∉ heading

theorem startsSection_append {text : List Char}
    (begins : startsSection text = true) (rest : List Char) :
    startsSection (text ++ rest) = true := by
  unfold startsSection at begins
  split at begins
  · exact begins
  · cases begins

theorem drop_two_append {text : List Char}
    (begins : startsSection text = true) (rest : List Char) :
    (text ++ rest).drop 2 = text.drop 2 ++ rest := by
  unfold startsSection at begins
  split at begins
  · rfl
  · cases begins

/-- White space behind a section leaves its heading. -/
theorem hasHeading_append_blank {heading text blank : List Char}
    (plain : PlainHeading heading) (isBlank : Blank blank)
    (headed : hasHeading heading text = true) :
    hasHeading heading (text ++ blank) = true := by
  unfold hasHeading at headed ⊢
  dsimp only at headed ⊢
  simp only [Bool.and_eq_true] at headed ⊢
  obtain ⟨⟨begins, isPrefix⟩, ends⟩ := headed
  rw [drop_two_append begins]
  generalize text.drop 2 = tail at *
  rw [List.isPrefixOf_iff_prefix] at isPrefix
  have visible : (tail.dropWhile isSpace).isEmpty = false := by
    rw [List.isEmpty_eq_false_iff]
    intro none
    rw [stripLeft, none, List.prefix_nil] at isPrefix
    exact plain.filled isPrefix
  have strips : stripLeft (tail ++ blank) = stripLeft tail ++ blank := by
    rw [stripLeft, List.dropWhile_append, visible]
    rfl
  rw [strips]
  obtain ⟨behind, whole⟩ := isPrefix
  rw [← whole] at ends ⊢
  rw [List.drop_left] at ends
  refine ⟨⟨startsSection_append begins _, ?_⟩, ?_⟩
  · rw [List.isPrefixOf_iff_prefix, List.append_assoc]
    exact List.prefix_append _ _
  · rw [List.append_assoc, List.drop_left]
    unfold endsLine at ends ⊢
    rw [Bool.or_eq_true] at ends ⊢
    rcases ends with newline | isAll
    · left
      have inside := of_decide_eq_true newline
      apply decide_eq_true
      rw [List.takeWhile_append]
      split
      · exact List.mem_append_left _ (List.takeWhile_prefix _ |>.subset inside)
      · exact inside
    · right
      rw [List.all_append, isAll, Bool.true_and]
      exact List.all_eq_true.mpr isBlank

theorem endsLine_append {text : List Char} (ends : EndsLine text)
    (rest : List Char) : endsLine (text ++ rest) = endsLine text := by
  have last : '\n' ∈ text := List.mem_of_getLast? ends
  unfold endsLine
  by_cases isAll : text.all isSpace = true
  · have all : ∀ char ∈ text, isSpace char = true :=
      List.all_eq_true.mp isAll
    have inside : '\n' ∈ (text ++ rest).takeWhile isSpace := by
      rw [List.takeWhile_append_of_pos all]
      exact List.mem_append_left _ last
    rw [isAll, Bool.or_true, decide_eq_true inside, Bool.true_or]
  · have short : (text.takeWhile isSpace).length ≠ text.length := by
      intro same
      apply isAll
      have whole : text.takeWhile isSpace = text :=
        (List.takeWhile_prefix isSpace).eq_of_length same
      exact List.all_eq_true.mpr (List.takeWhile_eq_self_iff.mp whole)
    have notAll : ¬ (text ++ rest).all isSpace = true := by
      rw [List.all_append, Bool.and_eq_true]
      exact fun both => isAll both.1
    rw [List.takeWhile_append, if_neg short, Bool.eq_false_iff.mpr isAll,
      Bool.eq_false_iff.mpr notAll]

theorem endsLine_of_append {front back : List Char}
    (ends : EndsLine (front ++ back)) (filled : back ≠ []) :
    EndsLine back := by
  unfold EndsLine at ends ⊢
  rw [List.getLast?_append] at ends
  cases last : back.getLast? with
  | none => exact absurd (List.getLast?_eq_none_iff.mp last) filled
  | some char =>
      rw [last] at ends
      exact ends

/-- A heading on one line does not reach into what follows the line. -/
theorem isPrefixOf_append {heading text : List Char}
    (plain : PlainHeading heading) (ends : EndsLine text)
    (rest : List Char) :
    heading.isPrefixOf (text ++ rest) = heading.isPrefixOf text := by
  rw [Bool.eq_iff_iff, List.isPrefixOf_iff_prefix,
    List.isPrefixOf_iff_prefix]
  constructor
  · intro isPrefix
    rcases Nat.le_total heading.length text.length with short | long
    · exact List.prefix_of_prefix_length_le isPrefix
        (List.prefix_append _ _) short
    · have inHeading : text <+: heading :=
        List.prefix_of_prefix_length_le (List.prefix_append _ _) isPrefix
          long
      exact absurd (inHeading.subset (List.mem_of_getLast? ends))
        plain.oneLine
  · exact fun isPrefix => isPrefix.trans (List.prefix_append _ _)

/-- A heading is behind white space or not, whatever follows the lines. -/
theorem hasHeading_tail {heading tail rest : List Char}
    (plain : PlainHeading heading) (ends : EndsLine tail)
    (isHead : rest.head? = some '#') :
    (heading.isPrefixOf (stripLeft (tail ++ rest)) &&
        endsLine ((stripLeft (tail ++ rest)).drop heading.length)) =
      (heading.isPrefixOf (stripLeft tail) &&
        endsLine ((stripLeft tail).drop heading.length)) := by
  have whole : tail.takeWhile isSpace ++ stripLeft tail = tail :=
    List.takeWhile_append_dropWhile
  have strips : stripLeft (tail ++ rest) =
      if (stripLeft tail).isEmpty then stripLeft rest
      else stripLeft tail ++ rest := List.dropWhile_append
  rw [strips]
  by_cases isBlank : stripLeft tail = []
  · -- a heading does not begin like the section that follows
    rw [isBlank, List.isEmpty_nil, if_pos rfl]
    have nothing : heading.isPrefixOf ([] : List Char) = false := by
      rw [Bool.eq_false_iff, ne_eq, List.isPrefixOf_iff_prefix,
        List.prefix_nil]
      exact plain.filled
    have notRest : heading.isPrefixOf (stripLeft rest) = false := by
      cases rest with
      | nil => cases isHead
      | cons char rest =>
          have isMark : char = '#' := by simpa using isHead
          rw [Bool.eq_false_iff, ne_eq, List.isPrefixOf_iff_prefix, isMark,
            stripLeft, List.dropWhile_cons_of_neg (by decide)]
          rintro isPrefix
          obtain ⟨first, later, isHeading⟩ :=
            List.exists_cons_of_ne_nil plain.filled
          rw [isHeading, List.cons_prefix_cons] at isPrefix
          apply plain.unmarked
          rw [isHeading, isPrefix.1]
          exact List.mem_cons_self
    rw [nothing, notRest, Bool.false_and, Bool.false_and]
  · have coreEnds : EndsLine (stripLeft tail) := by
      rw [← whole] at ends
      exact endsLine_of_append ends isBlank
    rw [List.isEmpty_eq_false_iff.mpr isBlank, if_neg Bool.false_ne_true,
      isPrefixOf_append plain coreEnds]
    cases isPrefix : heading.isPrefixOf (stripLeft tail) with
    | false => rfl
    | true =>
        obtain ⟨behind, isCore⟩ := List.isPrefixOf_iff_prefix.mp isPrefix
        rw [← isCore] at coreEnds ⊢
        have filled : behind ≠ [] := by
          rintro rfl
          rw [List.append_nil] at coreEnds
          exact plain.oneLine (List.mem_of_getLast? coreEnds)
        rw [List.append_assoc, List.drop_left, List.drop_left,
          endsLine_append (endsLine_of_append coreEnds filled)]

/-- A section that follows does not change the heading. -/
theorem hasHeading_append {heading text rest : List Char}
    (plain : PlainHeading heading) (ends : EndsLine text)
    (isHead : rest.head? = some '#') :
    hasHeading heading (text ++ rest) = hasHeading heading text := by
  unfold hasHeading
  dsimp only
  rw [linewise_startsSection.2 text rest ends]
  cases begins : startsSection text with
  | false => rfl
  | true =>
      have tailEnds : EndsLine (text.drop 2) := by
        unfold startsSection at begins
        split at begins
        · exact ends
        · cases begins
      rw [drop_two_append begins, Bool.true_and, Bool.true_and,
        hasHeading_tail plain tailEnds isHead]

/-- Some line of a text is the heading of a section. -/
def findsHeading (heading : List Char) : Bool → List Char → Bool
  | _, [] => false
  | lineStart, char :: text =>
      lineStart && hasHeading heading (char :: text) ||
        findsHeading heading (char = '\n') text

theorem findsHeading_append_blank {heading blank : List Char}
    (plain : PlainHeading heading) (isBlank : Blank blank)
    (text : List Char) : ∀ lineStart : Bool,
      findsHeading heading lineStart text = true →
        findsHeading heading lineStart (text ++ blank) = true := by
  induction text with
  | nil => exact fun _ found => nomatch found
  | cons char text induction =>
      intro lineStart found
      rw [List.cons_append, findsHeading, Bool.or_eq_true, Bool.and_eq_true]
      rw [findsHeading, Bool.or_eq_true, Bool.and_eq_true] at found
      rcases found with ⟨isStart, headed⟩ | later
      · exact .inl ⟨isStart, hasHeading_append_blank plain isBlank headed⟩
      · exact .inr (induction _ later)

/-- The headings are found in the sections. -/
theorem findsHeading_eq {heading : List Char} (plain : PlainHeading heading)
    (text : List Char) : ∀ lineStart : Bool,
      findsHeading heading lineStart text =
        (sectionsFrom startsSection lineStart text).2.any
          (hasHeading heading) := by
  induction text with
  | nil => exact fun _ => rfl
  | cons char text induction =>
      intro lineStart
      have whole := @sectionsFrom_flatten startsSection text
        (char = '\n')
      have pieces := pieces_sectionsFrom linewise_startsSection text
        (char = '\n')
      rw [findsHeading, induction, sectionsFrom]
      generalize sectionsFrom startsSection (char = '\n') text = rest at *
      obtain ⟨first, sections⟩ := rest
      dsimp only at whole pieces ⊢
      have same : hasHeading heading (char :: text) =
          hasHeading heading (char :: first) := by
        rw [← whole]
        cases sections with
        | nil => rw [List.flatten_nil, List.append_nil]
        | cons second sections =>
            have ends := (pieces.follows (List.cons_ne_nil _ _)).cons
            exact hasHeading_append plain ends (head_of_startsSection
              (pieces.starts_flatten linewise_startsSection))
      by_cases isStart :
          (lineStart && startsSection (char :: text)) = true
      · obtain ⟨start, -⟩ := Bool.and_eq_true_iff.mp isStart
        rw [if_pos isStart, List.any_cons, same, start, Bool.true_and]
      · have notHeaded :
            (lineStart && hasHeading heading (char :: text)) = false := by
          rw [Bool.eq_false_iff, ne_eq, Bool.and_eq_true]
          rintro ⟨start, headed⟩
          unfold hasHeading at headed
          simp only [Bool.and_eq_true] at headed
          exact isStart (Bool.and_eq_true_iff.mpr ⟨start, headed.1.1⟩)
        rw [if_neg isStart, notHeaded, Bool.false_or]

theorem plain_releaseRepairHeading : PlainHeading releaseRepairHeading := by
  constructor
  case filled => decide
  case unmarked => decide
  case oneLine => decide

/-- Removing the section again changes nothing. -/
theorem remove_remove (reportMd : List Char) :
    removeReleaseRepairSection (removeReleaseRepairSection reportMd) =
      removeReleaseRepairSection reportMd := by
  have pieces := pieces_report (trimRight reportMd)
  have isKept : removeReleaseRepairSection reportMd =
      trimRight ((reportPieces (trimRight reportMd)).1 ++
        ((reportPieces (trimRight reportMd)).2.filter fun text =>
          !hasHeading releaseRepairHeading text).flatten) := rfl
  generalize reportPieces (trimRight reportMd) = cut at *
  obtain ⟨front, sections⟩ := cut
  dsimp only at pieces isKept
  generalize isList : sections.filter (fun text =>
    !hasHeading releaseRepairHeading text) = kept at isKept
  have isSublist : kept.Sublist sections := isList ▸ List.filter_sublist
  have keptCut := (pieces.sublist isSublist).cut linewise_startsSection
  rw [isKept]
  obtain ⟨blank, isBlank, whole⟩ := exists_trimRight (front ++ kept.flatten)
  have trimmed := trimRight_trimRight (front ++ kept.flatten)
  generalize trimRight (front ++ kept.flatten) = text at *
  -- a heading of the trimmed text is one of the text
  have none : (reportPieces text).2.any (hasHeading releaseRepairHeading) =
      false := by
    rw [Bool.eq_false_iff, ne_eq, reportPieces,
      ← findsHeading_eq plain_releaseRepairHeading]
    intro found
    have inWhole := findsHeading_append_blank plain_releaseRepairHeading
      isBlank text true found
    rw [whole, findsHeading_eq plain_releaseRepairHeading, keptCut,
      ← isList, List.any_eq_true] at inWhole
    obtain ⟨headed, member, isHeaded⟩ := inWhole
    have notHeaded := (List.mem_filter.mp member).2
    rw [isHeaded] at notHeaded
    cases notHeaded
  have all : (reportPieces text).2.filter (fun text =>
      !hasHeading releaseRepairHeading text) = (reportPieces text).2 := by
    apply List.filter_eq_self.mpr
    intro headed member
    rw [List.any_eq_false.mp none headed member |> Bool.eq_false_iff.mpr]
    rfl
  unfold removeReleaseRepairSection
  dsimp only
  rw [trimmed, all, reportPieces_flatten, trimmed]

/-- The attached text is the repaired one. -/
theorem attachedReport_eq (shouldRecordStatus afterGate : Bool)
    (reportMd : List Char) :
    attachedReport shouldRecordStatus afterGate reportMd =
      if shouldRecordStatus then removeReleaseRepairSection reportMd
      else reportMd := by
  unfold attachedReport applyWarningReportRepair
  cases shouldRecordStatus with
  | false => simp
  | true =>
      dsimp only
      rw [if_pos rfl, if_pos rfl, remove_remove]
      split
      · rfl
      · rfl

end CompetiScope
