import CompetiScope.Foundation.Words
import CompetiScope.I18n.Mojibake
import CompetiScope.Identity.SourceTokens

/-!
# The section index of a report

The headings of a Markdown text, the markers before them and the layer each
section belongs to.  Texts are lists of characters here, and the positions of
a section count the characters of the repaired text.
-/

namespace CompetiScope

open Foundation

inductive SectionLayer where
  | core
  | support
  | audit
  deriving DecidableEq

/-! ## Headings

The pattern is `^\s*(#{1,6})\s+(.+?)\s*#*\s*$` in multi-line mode. -/

/-- The place of the last line break in white space. -/
def lastNewline (blank : List Char) : Option Nat :=
  match blank.reverse.dropWhile (· ≠ '\n') with
  | [] => none
  | _ :: before => some before.length

/-- The length of `\s*#*\s*$` at the front of a text. -/
def headingTail (text : List Char) : Option Nat :=
  let blank := text.takeWhile isSpace
  let afterBlank := text.drop blank.length
  let marks := afterBlank.takeWhile (· = '#')
  let afterMarks := afterBlank.drop marks.length
  let trailing := afterMarks.takeWhile isSpace
  if afterMarks.drop trailing.length = [] then
    some (blank.length + marks.length + trailing.length)
  else
    match lastNewline trailing with
    | some index => some (blank.length + marks.length + index)
    | none => lastNewline blank

/-- The text of a heading of which `taken` has been read, and the length of
the match from there. -/
def headingTextFrom (taken : List Char) (text : List Char) :
    Option (List Char × Nat) :=
  match headingTail text with
  | some length => some (taken, taken.length + length)
  | none =>
      match text with
      | [] => none
      | char :: rest =>
          if char = '\n' then none else headingTextFrom (taken ++ [char]) rest

/-- `(.+?)\s*#*\s*$`. -/
def headingText : List Char → Option (List Char × Nat)
  | [] => none
  | char :: text => if char = '\n' then none else headingTextFrom [char] text

/-- `\s+(.+?)\s*#*\s*$`, with at most `count` characters for the white
space. -/
def headingAfterBlank (text : List Char) : Nat → Option (List Char × Nat)
  | 0 => none
  | count + 1 =>
      match headingText (text.drop (count + 1)) with
      | some (heading, length) => some (heading, count + 1 + length)
      | none => headingAfterBlank text count

/-- A heading at the start of a line: its level, its text and the length of
the match.  White space has to follow the marks, so all of them count. -/
def headingAt (text : List Char) : Option (Nat × List Char × Nat) :=
  let blank := text.takeWhile isSpace
  let afterBlank := text.drop blank.length
  let marks := afterBlank.takeWhile (· = '#')
  let afterMarks := afterBlank.drop marks.length
  if 1 ≤ marks.length ∧ marks.length ≤ 6 then
    match headingAfterBlank afterMarks
        (afterMarks.takeWhile isSpace).length with
    | some (heading, length) =>
        some (marks.length, heading, blank.length + marks.length + length)
    | none => none
  else none

structure HeadingMatch where
  start : Nat
  level : Nat
  heading : List Char
  deriving DecidableEq

/-- `re.finditer`, at a place of the text; `skip` characters belong to the
match already reported. -/
def headingMatchesFrom (place skip : Nat) (lineStart : Bool) :
    List Char → List HeadingMatch
  | [] => []
  | char :: text =>
      match skip with
      | skip + 1 => headingMatchesFrom (place + 1) skip (char = '\n') text
      | 0 =>
          match if lineStart then headingAt (char :: text) else none with
          | some (level, heading, length) =>
              { start := place
                level := level
                heading := heading } ::
                headingMatchesFrom (place + 1) (length - 1) (char = '\n') text
          | none => headingMatchesFrom (place + 1) 0 (char = '\n') text

def headingMatches (text : List Char) : List HeadingMatch :=
  headingMatchesFrom 0 0 true text

/-! ## Markers -/

structure SectionMarker where
  sectionKey : Option String
  layer : Option SectionLayer
  deriving DecidableEq

/-- `[A-Za-z_]`. -/
def isAttributeStart (char : Char) : Bool :=
  char.isAlpha || char = '_'

/-- `[A-Za-z0-9_-]`. -/
def isAttributeChar (char : Char) : Bool :=
  char.isAlphanum || char = '_' || char = '-'

/-- `[A-Za-z0-9_:-]`. -/
def isAttributeValue (char : Char) : Bool :=
  isAttributeChar char || char = ':'

/-- `key=value` at the front of a text: both, and the length. -/
def attributeAt : List Char → Option (List Char × List Char × Nat)
  | [] => none
  | char :: text =>
      if isAttributeStart char then
        let key := char :: text.takeWhile isAttributeChar
        match text.drop (key.length - 1) with
        | '=' :: rest =>
            let value := rest.takeWhile isAttributeValue
            if value = [] then none
            else some (key, value, key.length + 1 + value.length)
        | _ => none
      else none

/-- The `re.findall` of the attributes. -/
def attributesFrom (skip : Nat) : List Char → List (List Char × List Char)
  | [] => []
  | char :: text =>
      match skip with
      | skip + 1 => attributesFrom skip text
      | 0 =>
          match attributeAt (char :: text) with
          | some (key, value, length) =>
              (key, value) :: attributesFrom (length - 1) text
          | none => attributesFrom 0 text

/-- The value of an attribute; keys are ASCII, and a later one counts. -/
def attributeValue (attributes : List (List Char × List Char)) (key : String) :
    Option (List Char) :=
  (attributes.reverse.find? fun entry =>
    entry.1.map Char.toLower = key.toList).map Prod.snd

/-- `[a-z0-9_:-]`. -/
def isKeyPart (char : Char) : Bool :=
  char.isLower || char.isDigit || char ∈ ['_', ':', '-']

/-- `report-section` comment with its attributes, between the colon and the
closing arrow. -/
def markerAttributes (line : List Char) : Option (List Char) :=
  let comment := stripChars line
  let body := stripLeft (comment.drop 4)
  let attributes := body.drop "report-section:".length
  let content := attributes.take (attributes.length - 3)
  if "<!--".toList.isPrefixOf comment ∧
      "report-section:".toList.isPrefixOf body ∧
        "-->".toList.isSuffixOf attributes ∧ '>' ∉ content then
    some content
  else none

/-- `parse_report_section_marker`. -/
def parseReportSectionMarker (line : List Char) : Option SectionMarker :=
  match markerAttributes line with
  | none => none
  | some content =>
      let attributes := attributesFrom 0 content
      let layerText := attributeValue attributes "layer"
      let layer : Option SectionLayer :=
        if layerText = some "core".toList then some .core
        else if layerText = some "support".toList then some .support
        else if layerText = some "audit".toList then some .audit
        else none
      let key := ((attributeValue attributes "key").getD []).map Char.toLower
      let safeKey := key.filter isKeyPart
      let sectionKey :=
        if safeKey = [] then none else some (String.ofList safeKey)
      if sectionKey = none ∧ layer = none then none
      else
        some
          { sectionKey := sectionKey
            layer := layer }

/-- The text that the line before a place ends. -/
def frontBefore (text : List Char) (place : Nat) : List Char :=
  let front := text.take place
  if front.getLast? = some '\n' then front.dropLast else front

/-- The line before a heading: where it starts, and the line. -/
def lineBefore (markdown : List Char) (headingStart : Nat) :
    Nat × List Char :=
  let front := frontBefore markdown headingStart
  let line := front.rtakeWhile (· ≠ '\n')
  (front.length - line.length, line)

/-- `_marker_before_heading`. -/
def markerBeforeHeading (markdown : List Char) (headingStart : Nat) :
    Nat × Option SectionMarker :=
  match parseReportSectionMarker (lineBefore markdown headingStart).2 with
  | none => (headingStart, none)
  | some marker => ((lineBefore markdown headingStart).1, some marker)

/-! ## Layers of headings -/

/-- `clean_heading`. -/
def cleanHeading (heading : List Char) : List Char :=
  replaceRuns isSpace ' ' false
    (stripChars (trimMarks '#' (stripChars heading)))

/-- `char` matches a lower-case letter of a pattern under `re.IGNORECASE`. -/
def matchesFolded (letter char : Char) : Bool :=
  matchesIgnoreCase letter char ||
    (letter = 'i' && char.toNat ∈ [0x130, 0x131])

/-- The rest after a word of a pattern under `re.IGNORECASE`. -/
def afterFolded : List Char → List Char → Option (List Char)
  | [], text => some text
  | _ :: _, [] => none
  | letter :: letters, char :: text =>
      if matchesFolded letter char then afterFolded letters text else none

/-- `(?:section\s+)?`. -/
def afterSectionWord (text : List Char) : List Char :=
  match afterFolded "section".toList text with
  | some (char :: rest) => if isSpace char then stripLeft rest else text
  | _ => text

/-- `[ivxlcdm]`. -/
def isRomanDigit (char : Char) : Bool :=
  "ivxlcdm".toList.any fun letter => matchesFolded letter char

section Numbers

variable [PyRuntime]

/-- The rest after `(?:\d+(?:\.\d+)*)[\.)]`, from within a number; `afterDot`
tells that a dot has been read, and `given` is the rest after it. -/
def afterDottedNumber (afterDot : Bool) (given : Option (List Char)) :
    List Char → Option (List Char)
  | [] => given
  | char :: text =>
      if PyRuntime.isDecimal char then afterDottedNumber false given text
      else if afterDot then given
      else if char = ')' then some text
      else if char = '.' then afterDottedNumber true (some text) text
      else given

/-- The rest after `(?:\d+(?:\.\d+)*|[ivxlcdm]+)[\.)]`. -/
def afterNumber (text : List Char) : Option (List Char) :=
  match text with
  | [] => none
  | char :: _ =>
      if PyRuntime.isDecimal char then afterDottedNumber false none text
      else if isRomanDigit char then
        match text.dropWhile isRomanDigit with
        | mark :: rest =>
            if mark = '.' ∨ mark = ')' then some rest else none
        | [] => none
      else none

/-- `normalize_heading`. -/
def normalizeHeading (heading : List Char) : List Char :=
  let cleaned := cleanHeading heading
  casefoldChars
    (match afterNumber (afterSectionWord cleaned) with
    | some rest => stripLeft rest
    | none => cleaned)

end Numbers

/-- `_contains_any`. -/
def containsAny (value : List Char) (needles : List String) : Bool :=
  needles.any fun needle =>
    hasInfix needle.toList value ||
      hasInfix (needle.toList.filter (! isSpace ·))
        (value.filter (! isSpace ·))

/-- `SUPPORT_LAYER_NEEDLES`. -/
def supportLayerNeedles : List String :=
  ["support layer", "audit layer", "support / audit", "support and audit",
    "supporting evidence and qa", "支撑材料", "支持/审计", "支持层", "审计层",
    "支撑层"]

/-- `SUPPORT_HEADING_NEEDLES`. -/
def supportHeadingNeedles : List String :=
  ["rag gap fill", "evidence gap fill", "retrieval", "source quality",
    "source coverage", "source appendix", "evidence appendix",
    "evidence support", "knowledge coverage", "confidence notes",
    "memory context", "user research evidence", "next collection",
    "verification plan", "buyer research", "支撑材料", "证据与 qa 支撑",
    "证据与qa支撑", "rag 缺口补全", "rag缺口补全", "证据缺口补全", "证据附录",
    "来源附录", "来源质量", "证据支撑", "知识覆盖", "置信度说明", "下一步采集",
    "建议检索", "rag 缂哄彛琛ュ叏", "璇佹嵁缂哄彛琛ュ叏", "璇佹嵁闄勫綍",
    "鏉ユ簮闄勫綍"]

/-- `AUDIT_HEADING_NEEDLES`. -/
def auditHeadingNeedles : List String :=
  ["final qa gate status", "qa gate", "release gate", "follow-up repairs",
    "follow up repairs", "repair", "generation notes", "claim validation",
    "claim risk", "evidence risk", "scenario qa", "scenario checklist",
    "qa status", "final qa", "声明校验", "证据风险", "声明校验与证据风险",
    "场景 qa", "场景qa", "场景 qa 清单", "场景qa清单", "场景清单", "最终 qa",
    "最终qa", "修复记录", "发布门禁", "生成说明", "澹版槑鏍￠獙", "璇佹嵁椋庨櫓",
    "鍦烘櫙 qa", "鍦烘櫙娓呭崟"]

/-- `classify_section_layer`. -/
def classifySectionLayer (normalizedHeading : List Char)
    (stickySupport : Bool) : SectionLayer :=
  if stickySupport then .audit
  else if containsAny normalizedHeading auditHeadingNeedles then .audit
  else if containsAny normalizedHeading supportHeadingNeedles then .support
  else .core

/-- `is_support_layer_heading`. -/
def isSupportLayerHeading (normalizedHeading : List Char) : Bool :=
  containsAny normalizedHeading supportLayerNeedles

/-! ## The index -/

/-- A heading with its marker, and where its section starts. -/
structure SectionEntry where
  heading : HeadingMatch
  marker : Option SectionMarker
  start : Nat
  deriving DecidableEq

/-- `_section_entry_for_heading`. -/
def sectionEntryForHeading (markdown : List Char) (heading : HeadingMatch) :
    SectionEntry :=
  let before := markerBeforeHeading markdown heading.start
  { heading := heading
    marker := before.2
    start := before.1 }

def sectionEntries (markdown : List Char) : List SectionEntry :=
  (headingMatches markdown).map (sectionEntryForHeading markdown)

structure ReportSection where
  heading : List Char
  normalizedHeading : List Char
  level : Nat
  start : Nat
  stop : Nat
  layer : SectionLayer
  sectionKey : Option String
  deriving DecidableEq

section Index

variable [PyRuntime]

/-- The layer of a heading, and whether the ones after it are audit. -/
def entryLayer (stickySupport : Bool) (entry : SectionEntry) :
    SectionLayer × Bool :=
  let normalized := normalizeHeading (cleanHeading entry.heading.heading)
  match entry.marker with
  | some marker =>
      match marker.layer with
      | some layer => (layer, layer ≠ .core)
      | none => (classifySectionLayer normalized stickySupport, stickySupport)
  | none =>
      if isSupportLayerHeading normalized then (.audit, true)
      else (classifySectionLayer normalized stickySupport, stickySupport)

/-- The sections of the entries of a text of the given length. -/
def reportSectionsFrom (stickySupport : Bool) (length : Nat) :
    List SectionEntry → List ReportSection
  | [] => []
  | entry :: entries =>
      let heading := cleanHeading entry.heading.heading
      let layer := entryLayer stickySupport entry
      { heading := heading
        normalizedHeading := normalizeHeading heading
        level := entry.heading.level
        start := entry.start
        stop := (entries.head?.map (·.start)).getD length
        layer := layer.1
        sectionKey := entry.marker.bind (·.sectionKey) } ::
        reportSectionsFrom layer.2 length entries

/-- The sections of `build_report_section_index`. -/
def buildReportSectionIndex (markdown : List Char) : List ReportSection :=
  let reportMd := repairMojibake markdown
  reportSectionsFrom false reportMd.length (sectionEntries reportMd)

end Index

/-! ## Where the sections start -/

/-- A place at the start of a line. -/
def AtLineStart (text : List Char) (place : Nat) : Prop :=
  place = 0 ∨ text[place - 1]? = some '\n'

/-- A place from where the first visible character is a heading mark. -/
def MarksFollow (text : List Char) (place : Nat) : Prop :=
  (stripLeft (text.drop place)).head? = some '#'

/-- The place of the first mark of a heading. -/
def markPlace (text : List Char) (place : Nat) : Nat :=
  place + ((text.drop place).takeWhile isSpace).length

theorem drop_takeWhile_length {α : Type*} (keep : α → Bool)
    (values : List α) :
    values.drop (values.takeWhile keep).length = values.dropWhile keep := by
  nth_rewrite 2 [← List.takeWhile_append_dropWhile (p := keep) (l := values)]
  rw [List.drop_left]

/-- A heading opens with its marks, and its match goes beyond the first. -/
theorem headingAt_spec {text heading : List Char} {level length : Nat}
    (found : headingAt text = some (level, heading, length)) :
    (stripLeft text).head? = some '#' ∧
      (text.takeWhile isSpace).length < length := by
  unfold headingAt at found
  dsimp only at found
  rw [drop_takeWhile_length] at found
  split at found
  · next marked =>
      split at found
      · next after afterLength _ =>
          cases found
          refine ⟨?_, by omega⟩
          rw [stripLeft]
          cases rest : text.dropWhile isSpace with
          | nil =>
              rw [rest] at marked
              simp at marked
          | cons char others =>
              rw [rest, List.takeWhile_cons] at marked
              by_cases isMark : char = '#'
              · rw [isMark]
                rfl
              · simp [isMark] at marked
      · cases found
  · cases found

/-- What is known of the matches found in the rest of a text. -/
structure FoundFrom (text : List Char) (place : Nat)
    (found : List HeadingMatch) : Prop where
  after : ∀ heading ∈ found, place ≤ heading.start
  inside : ∀ heading ∈ found, heading.start < text.length
  lineStart : ∀ heading ∈ found, AtLineStart text heading.start
  marked : ∀ heading ∈ found, MarksFollow text heading.start
  disjoint : found.Pairwise fun first second =>
    markPlace text first.start < second.start

theorem headingMatchesFrom_found (rest : List Char) :
    ∀ (front : List Char) (skip : Nat) (lineStart : Bool),
      (lineStart = true → AtLineStart (front ++ rest) front.length) →
        FoundFrom (front ++ rest) (front.length + skip)
          (headingMatchesFrom front.length skip lineStart rest) := by
  induction rest with
  | nil =>
      intro front skip lineStart _
      exact
        { after := nofun
          inside := nofun
          lineStart := nofun
          marked := nofun
          disjoint := List.Pairwise.nil }
  | cons char text induction =>
      intro front skip lineStart starts
      have assoc : front ++ [char] ++ text = front ++ char :: text := by simp
      have grown : (front ++ [char]).length = front.length + 1 := by simp
      have nextStarts : decide (char = '\n') = true →
          AtLineStart (front ++ [char] ++ text) (front ++ [char]).length := by
        intro isNewline
        right
        rw [assoc, grown, Nat.add_sub_cancel, List.getElem?_append_right
          (Nat.le_refl _), Nat.sub_self, List.getElem?_cons_zero,
          of_decide_eq_true isNewline]
      have later := fun skip =>
        induction (front ++ [char]) skip (char = '\n') nextStarts
      rw [assoc, grown] at later
      cases skip with
      | succ skip =>
          have found := later skip
          rw [show front.length + (skip + 1) = front.length + 1 + skip by
            omega]
          exact found
      | zero =>
          unfold headingMatchesFrom
          dsimp only
          split
          · next level heading length isHeading =>
              split at isHeading
              · next isStart =>
                  have spec := headingAt_spec isHeading
                  have found := later (length - 1)
                  have here : (front ++ char :: text).drop front.length =
                      char :: text := List.drop_left
                  constructor
                  case after =>
                    intro other member
                    rcases List.mem_cons.mp member with rfl | member
                    · exact Nat.le_refl _
                    · have := found.after other member
                      omega
                  case inside =>
                    intro other member
                    rcases List.mem_cons.mp member with rfl | member
                    · simp
                    · exact found.inside other member
                  case lineStart =>
                    intro other member
                    rcases List.mem_cons.mp member with rfl | member
                    · exact starts isStart
                    · exact found.lineStart other member
                  case marked =>
                    intro other member
                    rcases List.mem_cons.mp member with rfl | member
                    · show (stripLeft _).head? = _
                      rw [here]
                      exact spec.1
                    · exact found.marked other member
                  case disjoint =>
                    refine List.pairwise_cons.mpr ⟨?_, found.disjoint⟩
                    intro other member
                    have bound := found.after other member
                    have blank := spec.2
                    show front.length + (((front ++ char :: text).drop
                      front.length).takeWhile isSpace).length < other.start
                    rw [here]
                    omega
              · cases isHeading
          · have found := later 0
            exact
              { after := fun other member => by
                  have := found.after other member
                  omega
                inside := found.inside
                lineStart := found.lineStart
                marked := found.marked
                disjoint := found.disjoint }

theorem headingMatches_found (text : List Char) :
    FoundFrom text 0 (headingMatches text) :=
  headingMatchesFrom_found text [] 0 true fun _ => .inl rfl

/-! ## Where the markers stand -/

theorem markerBeforeHeading_cases (markdown : List Char)
    (headingStart : Nat) :
    markerBeforeHeading markdown headingStart = (headingStart, none) ∨
      ∃ marker, parseReportSectionMarker
          (lineBefore markdown headingStart).2 = some marker ∧
        markerBeforeHeading markdown headingStart =
          ((lineBefore markdown headingStart).1, some marker) := by
  unfold markerBeforeHeading
  cases parsed : parseReportSectionMarker
      (lineBefore markdown headingStart).2 with
  | none => exact .inl rfl
  | some marker => exact .inr ⟨marker, rfl, rfl⟩

/-- The line of a marker opens with a comment. -/
theorem marker_opens {line : List Char} {marker : SectionMarker}
    (parsed : parseReportSectionMarker line = some marker) :
    (stripLeft line).head? = some '<' := by
  unfold parseReportSectionMarker at parsed
  split at parsed
  · cases parsed
  · next content found =>
      unfold markerAttributes at found
      dsimp only at found
      split at found
      · next isComment =>
          have opens : "<!--".toList <+: stripChars line := by
            simpa using isComment.1
          have inLine : stripChars line <+: stripLeft line :=
            List.rdropWhile_prefix isSpace (stripLeft line)
          obtain ⟨rest, whole⟩ := opens.trans inLine
          rw [← whole]
          rfl
      · cases found

theorem frontBefore_spec {text : List Char} {place : Nat}
    (inside : place ≤ text.length) :
    frontBefore text place <+: text ∧
      (frontBefore text place).length ≤ place ∧
        place ≤ (frontBefore text place).length + 1 := by
  have size : (text.take place).length = place := by
    simp [inside]
  unfold frontBefore
  dsimp only
  split
  · refine ⟨(List.dropLast_prefix _).trans (List.take_prefix _ _), ?_, ?_⟩
    · rw [List.length_dropLast, size]
      omega
    · rw [List.length_dropLast, size]
      omega
  · refine ⟨List.take_prefix _ _, ?_, ?_⟩
    · rw [size]
    · rw [size]
      omega

/-- The line before a place stands before it and begins with a line of the
text, and no other line begins between the two. -/
theorem lineBefore_spec {text : List Char} {place : Nat}
    (inside : place ≤ text.length) :
    (lineBefore text place).1 ≤ place ∧
      (lineBefore text place).2 <+: text.drop (lineBefore text place).1 ∧
        ∀ start, start < place → AtLineStart text start →
          start ≤ (lineBefore text place).1 := by
  obtain ⟨⟨rest, whole⟩, notBeyond, upTo⟩ := frontBefore_spec inside
  obtain ⟨before, split⟩ :=
    List.rtakeWhile_suffix (· ≠ '\n') (frontBefore text place)
  have size := congrArg List.length split
  rw [List.length_append] at size
  have isLine : lineBefore text place = (before.length,
      (frontBefore text place).rtakeWhile (· ≠ '\n')) := by
    have starts : (frontBefore text place).length -
        ((frontBefore text place).rtakeWhile (· ≠ '\n')).length =
          before.length := by
      omega
    unfold lineBefore
    dsimp only
    rw [starts]
  have noNewline : ∀ char ∈ (frontBefore text place).rtakeWhile (· ≠ '\n'),
      char ≠ '\n' := by
    intro char member
    simpa using List.mem_rtakeWhile_imp member
  rw [isLine]
  clear isLine
  generalize frontBefore text place = front at *
  generalize front.rtakeWhile (· ≠ '\n') = line at *
  subst whole split
  refine ⟨by omega, ⟨rest, ?_⟩, ?_⟩
  · rw [List.append_assoc, List.drop_left]
  · intro start early atStart
    by_contra late
    rcases atStart with first | newline
    · omega
    · rw [List.append_assoc, List.getElem?_append_right (by omega),
        List.getElem?_append_left (by omega)] at newline
      exact noNewline _ (List.mem_of_getElem? newline) rfl

/-! ## Sections follow each other -/

/-- Where the section of a heading starts. -/
def sectionStart (markdown : List Char) (heading : HeadingMatch) : Nat :=
  (markerBeforeHeading markdown heading.start).1

theorem head?_stripLeft_of_isPrefix {line text : List Char}
    (isPrefix : line <+: text) (visible : stripLeft line ≠ []) :
    (stripLeft line).head? = (stripLeft text).head? := by
  obtain ⟨rest, rfl⟩ := isPrefix
  rw [stripLeft, stripLeft, List.dropWhile_append]
  have filled : (line.dropWhile isSpace).isEmpty = false := by
    simpa [stripLeft] using visible
  rw [filled]
  cases found : line.dropWhile isSpace with
  | nil => exact absurd found visible
  | cons char others => rfl

theorem stripLeft_drop_blank {text : List Char} {ahead : Nat}
    (inBlank : ahead ≤ (text.takeWhile isSpace).length) :
    stripLeft (text.drop ahead) = stripLeft text := by
  induction text generalizing ahead with
  | nil => rw [List.drop_nil]
  | cons char text induction =>
      cases ahead with
      | zero => rfl
      | succ ahead =>
          rw [List.takeWhile_cons] at inBlank
          split at inBlank
          · next blank =>
              rw [List.drop_succ_cons, induction (by
                simpa using inBlank), stripLeft, stripLeft,
                List.dropWhile_cons_of_pos blank]
          · simp at inBlank

/-- Every section starts behind the marks of the heading before it. -/
theorem sectionStart_after {text : List Char} {first second : HeadingMatch}
    (inside : second.start < text.length)
    (firstLine : AtLineStart text first.start)
    (firstMarked : MarksFollow text first.start)
    (disjoint : markPlace text first.start < second.start) :
    markPlace text first.start < sectionStart text second := by
  unfold sectionStart
  rcases markerBeforeHeading_cases text second.start with
    noMarker | ⟨marker, parsed, isMarker⟩
  · rw [noMarker]
    exact disjoint
  · rw [isMarker]
    obtain ⟨_, isPrefix, latest⟩ := lineBefore_spec (Nat.le_of_lt inside)
    by_contra early
    have opens := marker_opens parsed
    have visible : stripLeft (lineBefore text second.start).2 ≠ [] := by
      intro blank
      rw [blank] at opens
      cases opens
    rw [head?_stripLeft_of_isPrefix isPrefix visible] at opens
    -- from the start of the line, the marks of the first heading come first
    have fromFirst := latest first.start (by
      unfold markPlace at disjoint
      omega) firstLine
    obtain ⟨ahead, isAhead⟩ := Nat.exists_eq_add_of_le fromFirst
    have inBlank : ahead ≤
        ((text.drop first.start).takeWhile isSpace).length := by
      unfold markPlace at early
      omega
    rw [isAhead, ← List.drop_drop, stripLeft_drop_blank inBlank] at opens
    unfold MarksFollow at firstMarked
    rw [opens] at firstMarked
    cases firstMarked

theorem markPlace_isMark {text : List Char} {place : Nat}
    (marked : MarksFollow text place) :
    text[markPlace text place]? = some '#' := by
  unfold MarksFollow stripLeft at marked
  rw [← drop_takeWhile_length, List.head?_drop, List.getElem?_drop] at marked
  exact marked

/-- Sections begin before the marks of their headings, and the next one begins
behind them. -/
structure EntriesInOrder (text : List Char) (entries : List SectionEntry) :
    Prop where
  begins : ∀ entry ∈ entries, entry.start ≤ markPlace text entry.heading.start
  marked : ∀ entry ∈ entries,
    text[markPlace text entry.heading.start]? = some '#'
  apart : entries.Pairwise fun first second =>
    markPlace text first.heading.start < second.start

theorem sectionEntries_inOrder (text : List Char) :
    EntriesInOrder text (sectionEntries text) := by
  have found := headingMatches_found text
  unfold sectionEntries
  constructor
  case begins =>
    intro entry member
    rcases List.mem_map.mp member with ⟨heading, known, rfl⟩
    have notBehind : sectionStart text heading ≤ heading.start := by
      unfold sectionStart
      rcases markerBeforeHeading_cases text heading.start with
        noMarker | ⟨marker, _, isMarker⟩
      · rw [noMarker]
      · rw [isMarker]
        exact (lineBefore_spec
          (Nat.le_of_lt (found.inside heading known))).1
    exact Nat.le_trans notBehind (Nat.le_add_right _ _)
  case marked =>
    intro entry member
    rcases List.mem_map.mp member with ⟨heading, known, rfl⟩
    exact markPlace_isMark (found.marked heading known)
  case apart =>
    rw [List.pairwise_map]
    apply found.disjoint.imp_of_mem
    intro first second firstKnown secondKnown disjoint
    exact sectionStart_after (found.inside second secondKnown)
      (found.lineStart first firstKnown) (found.marked first firstKnown)
      disjoint

end CompetiScope
