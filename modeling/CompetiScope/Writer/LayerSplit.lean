import CompetiScope.Foundation.Slices
import CompetiScope.Writer.HeadingKeys

/-!
# The layers of a report

A report is cut at its headings, and every block goes to the core, the support
or the audit layer.  Nothing gets lost, and no section is torn apart, if
repairing the text changes nothing and every subsection is bound for the layer
of its section.
-/

namespace CompetiScope

open Foundation

/-- The blocks of each layer. -/
abbrev LayerBlocks := SectionLayer → List (List Char)

namespace LayerBlocks

def empty : LayerBlocks :=
  fun _ => []

def append (blocks : LayerBlocks) (layer : SectionLayer)
    (block : List Char) : LayerBlocks :=
  fun other => if other = layer then blocks other ++ [block] else blocks other

end LayerBlocks

/-- `_layer_for_section_key`. -/
def layerForSectionKey (sectionKey : String) : SectionLayer :=
  if sectionKey ∈ supportHeadingKeys then .support
  else if "audit_".toList.isPrefixOf sectionKey.toList ∨
      sectionKey ∈ ["audit_log"] then .audit
  else if sectionKey ∈ coreHeadingKeys then .core
  else .core

section Split

variable [PyRuntime] [PyLowercase]

/-- `_section_layer`. -/
def sectionLayer (reportSection : ReportSection) (outputLanguage : String) :
    SectionLayer :=
  if reportSection.layer = .audit then .audit
  else
    match reportSection.sectionKey with
    | some sectionKey => layerForSectionKey sectionKey
    | none =>
        match headingKeyFor reportSection.heading outputLanguage with
        | some headingKey => layerForSectionKey headingKey
        | none => reportSection.layer

/-- The block of a section, cut out of the text. -/
def sectionBlock (stripped : List Char) (reportSection : ReportSection) :
    List Char :=
  stripChars (slice stripped reportSection.start reportSection.stop)

/-- The loop of `_split_markdown_by_layers`. -/
def appendSections (stripped : List Char) (outputLanguage : String)
    (layerBlocks : LayerBlocks) : List ReportSection → LayerBlocks
  | [] => layerBlocks
  | reportSection :: sections =>
      let block := sectionBlock stripped reportSection
      appendSections stripped outputLanguage
        (if block = [] then layerBlocks
        else layerBlocks.append (sectionLayer reportSection outputLanguage)
          block)
        sections

/-- The blocks that `_split_markdown_by_layers` collects. -/
def splitLayerBlocks (markdown : List Char) (outputLanguage : String) :
    LayerBlocks :=
  let stripped := stripChars markdown
  if stripped = [] then .empty
  else
    match buildReportSectionIndex stripped with
    | [] => LayerBlocks.empty.append .core stripped
    | firstSection :: sections =>
        let preamble := stripChars (stripped.take firstSection.start)
        appendSections stripped outputLanguage
          (if preamble = [] then .empty
          else LayerBlocks.empty.append .core preamble)
          (firstSection :: sections)

/-! ## What a split is for -/

/-- The sections of the text that is split. -/
def sectionsOf (markdown : List Char) : List ReportSection :=
  buildReportSectionIndex (stripChars markdown)

/-- A text cut into a preamble and a piece for each section, with every piece
in the layer of its section. -/
structure CutIntoBlocks (markdown : List Char) (outputLanguage : String)
    (preamble : List Char) (pieces : List (List Char)) : Prop where
  whole : preamble ++ pieces.flatten = stripChars markdown
  onePerHeading : pieces.length = (sectionsOf markdown).length
  visible : ∀ piece ∈ pieces, stripChars piece ≠ []
  /-- The places of the index are places of the repaired text. -/
  opens : repairMojibake (stripChars markdown) = stripChars markdown →
    startsFrom preamble.length pieces =
      (sectionsOf markdown).map (·.start)
  placed : ∀ layer, splitLayerBlocks markdown outputLanguage layer =
    (if layer = .core ∧ stripChars preamble ≠ [] then [stripChars preamble]
      else []) ++
      (((sectionsOf markdown).zip pieces).filter fun entry =>
        sectionLayer entry.1 outputLanguage = layer).map
          fun entry => stripChars entry.2

/-- A heading of level two, and one below it. -/
def Encloses (levels : List Nat) (outer inner : Nat) : Prop :=
  outer < inner ∧ levels[outer]? = some 2 ∧
    ∀ place, outer < place → place ≤ inner →
      ∃ level, levels[place]? = some level ∧ 3 ≤ level

/-- Nothing gets lost, and no section is torn apart. -/
structure LayerSplitSound (markdown : List Char) (outputLanguage : String) :
    Prop where
  lossless : ∃ preamble pieces,
    CutIntoBlocks markdown outputLanguage preamble pieces
  together : ∀ outer inner outerSection innerSection,
    (sectionsOf markdown)[outer]? = some outerSection →
      (sectionsOf markdown)[inner]? = some innerSection →
        Encloses ((sectionsOf markdown).map (·.level)) outer inner →
          sectionLayer innerSection outputLanguage =
            sectionLayer outerSection outputLanguage

/-! ## The layer of a section -/

/-- The heading that is compared with the word lists. -/
def entryHeading (entry : SectionEntry) : List Char :=
  normalizeHeading (cleanHeading entry.heading.heading)

/-- The marker of a section names its layer. -/
def SetsLayer (entry : SectionEntry) (layer : SectionLayer) : Prop :=
  ∃ marker, entry.marker = some marker ∧ marker.layer = some layer

/-- A section without marker whose heading opens the support material. -/
def OpensSupport (entry : SectionEntry) : Prop :=
  entry.marker = none ∧ isSupportLayerHeading (entryHeading entry) = true

/-- Headings after this one are audit headings. -/
def RaisesFlag (entry : SectionEntry) : Prop :=
  SetsLayer entry .support ∨ SetsLayer entry .audit ∨ OpensSupport entry

/-- A section behind support or audit material, with no core marker since. -/
def FlagRaised (before : List SectionEntry) : Prop :=
  ∃ earlier entry later, before = earlier ++ entry :: later ∧
    RaisesFlag entry ∧ ∀ other ∈ later, ¬ SetsLayer other .core

/-- A section that counts as audit in the index. -/
def CountsAsAudit (before : List SectionEntry) (entry : SectionEntry) :
    Prop :=
  SetsLayer entry .audit ∨
    (∀ layer, ¬ SetsLayer entry layer) ∧
      (OpensSupport entry ∨ FlagRaised before ∨
        containsAny (entryHeading entry) auditHeadingNeedles = true)

/-- The key of a section: of its marker, else of its heading. -/
def entryKey (outputLanguage : String) (entry : SectionEntry) :
    Option String :=
  (entry.marker.bind (·.sectionKey)).or
    (headingKeyFor (cleanHeading entry.heading.heading) outputLanguage)

def BoundForAudit (outputLanguage : String) (before : List SectionEntry)
    (entry : SectionEntry) : Prop :=
  CountsAsAudit before entry ∨
    ∃ sectionKey, entryKey outputLanguage entry = some sectionKey ∧
      sectionKey ∉ supportHeadingKeys ∧
        ("audit_".toList <+: sectionKey.toList ∨ sectionKey = "audit_log")

def BoundForSupport (outputLanguage : String) (before : List SectionEntry)
    (entry : SectionEntry) : Prop :=
  ¬ CountsAsAudit before entry ∧
    ((∃ sectionKey ∈ supportHeadingKeys,
        entryKey outputLanguage entry = some sectionKey) ∨
      entryKey outputLanguage entry = none ∧
        (SetsLayer entry .support ∨
          (∀ layer, ¬ SetsLayer entry layer) ∧
            containsAny (entryHeading entry) supportHeadingNeedles = true))

/-- Every heading below a heading of level two is bound for its layer. -/
def SubsectionsFollow (outputLanguage : String)
    (entries : List SectionEntry) : Prop :=
  ∀ outer inner outerEntry innerEntry,
    entries[outer]? = some outerEntry → entries[inner]? = some innerEntry →
      Encloses (entries.map (·.heading.level)) outer inner →
        (BoundForAudit outputLanguage (entries.take inner) innerEntry ↔
          BoundForAudit outputLanguage (entries.take outer) outerEntry) ∧
        (BoundForSupport outputLanguage (entries.take inner) innerEntry ↔
          BoundForSupport outputLanguage (entries.take outer) outerEntry)

/-- Repairing the text changes nothing, unless there is no heading, and
subsections follow the section they belong to. -/
def LayersIntact (markdown : List Char) (outputLanguage : String) : Prop :=
  let stripped := stripChars markdown
  let repaired := repairMojibake stripped
  (repaired = stripped ∨ headingMatches repaired = []) ∧
    SubsectionsFollow outputLanguage (sectionEntries repaired)

end Split

/-! ## The flag of the index -/

section Flag

variable [PyRuntime]

theorem entryLayer_flag (stickySupport : Bool) (entry : SectionEntry) :
    (entryLayer stickySupport entry).2 = true ↔
      RaisesFlag entry ∨ stickySupport = true ∧ ¬ SetsLayer entry .core := by
  unfold entryLayer RaisesFlag SetsLayer OpensSupport entryHeading
  cases marker : entry.marker with
  | none =>
      dsimp only
      split <;> simp_all
  | some found =>
      dsimp only
      cases isLayer : found.layer with
      | none => simp [isLayer]
      | some named => cases named <;> simp_all

theorem entryLayer_audit (stickySupport : Bool) (entry : SectionEntry) :
    (entryLayer stickySupport entry).1 = .audit ↔
      SetsLayer entry .audit ∨
        (∀ layer, ¬ SetsLayer entry layer) ∧
          (OpensSupport entry ∨ stickySupport = true ∨
            containsAny (entryHeading entry) auditHeadingNeedles = true) := by
  have unmarked : classifySectionLayer (entryHeading entry) stickySupport =
      .audit ↔ stickySupport = true ∨
        containsAny (entryHeading entry) auditHeadingNeedles = true := by
    unfold classifySectionLayer
    repeat' split
    all_goals simp_all
  unfold entryLayer SetsLayer OpensSupport entryHeading at *
  cases marker : entry.marker with
  | none =>
      dsimp only
      split
      · simp_all
      · simp_all
  | some found =>
      dsimp only
      cases isLayer : found.layer with
      | none => simp_all
      | some named => cases named <;> simp_all

/-- The flag behind a list of headings. -/
def stickyAfter (stickySupport : Bool) : List SectionEntry → Bool
  | [] => stickySupport
  | entry :: entries => stickyAfter (entryLayer stickySupport entry).2 entries

theorem flagRaised_cons (entry : SectionEntry) (entries : List SectionEntry) :
    FlagRaised (entry :: entries) ↔ FlagRaised entries ∨
      RaisesFlag entry ∧ ∀ other ∈ entries, ¬ SetsLayer other .core := by
  constructor
  · rintro ⟨earlier, raising, later, whole, raises, kept⟩
    cases earlier with
    | nil =>
        rw [List.nil_append, List.cons.injEq] at whole
        obtain ⟨rfl, rfl⟩ := whole
        exact .inr ⟨raises, kept⟩
    | cons first earlier =>
        rw [List.cons_append, List.cons.injEq] at whole
        exact .inl ⟨earlier, raising, later, whole.2, raises, kept⟩
  · rintro (⟨earlier, raising, later, whole, raises, kept⟩ | ⟨raises, kept⟩)
    · exact ⟨entry :: earlier, raising, later, by rw [whole]; rfl, raises,
        kept⟩
    · exact ⟨[], entry, entries, rfl, raises, kept⟩

theorem stickyAfter_iff (stickySupport : Bool) (entries : List SectionEntry) :
    stickyAfter stickySupport entries = true ↔ FlagRaised entries ∨
      stickySupport = true ∧
        ∀ other ∈ entries, ¬ SetsLayer other .core := by
  induction entries generalizing stickySupport with
  | nil =>
      have noFlag : ¬ FlagRaised [] := by
        rintro ⟨earlier, raising, later, whole, _⟩
        simp at whole
      simp [stickyAfter, noFlag]
  | cons entry entries induction =>
      rw [stickyAfter, induction, entryLayer_flag, flagRaised_cons,
        List.forall_mem_cons]
      tauto

/-- What the index says of the heading at a place. -/
theorem reportSectionsFrom_at {stickySupport : Bool} {length place : Nat}
    {entries : List SectionEntry} {reportSection : ReportSection}
    (found : (reportSectionsFrom stickySupport length entries)[place]? =
      some reportSection) :
    ∃ entry, entries[place]? = some entry ∧
      reportSection.heading = cleanHeading entry.heading.heading ∧
      reportSection.sectionKey = entry.marker.bind (·.sectionKey) ∧
      reportSection.layer =
        (entryLayer (stickyAfter stickySupport (entries.take place))
          entry).1 := by
  induction entries generalizing stickySupport place with
  | nil => simp [reportSectionsFrom] at found
  | cons entry entries induction =>
      unfold reportSectionsFrom at found
      cases place with
      | zero =>
          cases found
          exact ⟨entry, rfl, rfl, rfl, rfl⟩
      | succ place => exact induction found

theorem reportSectionsFrom_levels (stickySupport : Bool) (length : Nat)
    (entries : List SectionEntry) :
    (reportSectionsFrom stickySupport length entries).map (·.level) =
      entries.map (·.heading.level) := by
  induction entries generalizing stickySupport with
  | nil => rfl
  | cons entry entries induction =>
      rw [reportSectionsFrom, List.map_cons, List.map_cons, induction]

theorem reportSectionsFrom_starts (stickySupport : Bool) (length : Nat)
    (entries : List SectionEntry) :
    (reportSectionsFrom stickySupport length entries).map (·.start) =
      entries.map (·.start) := by
  induction entries generalizing stickySupport with
  | nil => rfl
  | cons entry entries induction =>
      rw [reportSectionsFrom, List.map_cons, List.map_cons, induction]

theorem reportSectionsFrom_slices (text : List Char) (stickySupport : Bool)
    (length : Nat) (entries : List SectionEntry) :
    ((reportSectionsFrom stickySupport length entries).map fun part =>
        slice text part.start part.stop) =
      slicesAt text length (entries.map (·.start)) := by
  induction entries generalizing stickySupport with
  | nil => rfl
  | cons entry entries induction =>
      rw [reportSectionsFrom, List.map_cons, List.map_cons, induction,
        slicesAt, List.head?_map]

theorem countsAsAudit_iff (entries : List SectionEntry) (place : Nat)
    (entry : SectionEntry) :
    (entryLayer (stickyAfter false (entries.take place)) entry).1 = .audit ↔
      CountsAsAudit (entries.take place) entry := by
  rw [entryLayer_audit, stickyAfter_iff]
  simp [CountsAsAudit]

/-- A section that is not audit material is support material if its marker or
its heading says so. -/
theorem entryLayer_support {stickySupport : Bool} {entry : SectionEntry}
    (notAudit : (entryLayer stickySupport entry).1 ≠ .audit) :
    (entryLayer stickySupport entry).1 = .support ↔
      SetsLayer entry .support ∨
        (∀ layer, ¬ SetsLayer entry layer) ∧
          containsAny (entryHeading entry) supportHeadingNeedles = true := by
  have unmarked : classifySectionLayer (entryHeading entry) stickySupport ≠
      .audit →
      (classifySectionLayer (entryHeading entry) stickySupport = .support ↔
        containsAny (entryHeading entry) supportHeadingNeedles = true) := by
    unfold classifySectionLayer
    repeat' split
    all_goals simp_all
  unfold entryLayer SetsLayer entryHeading at *
  cases marker : entry.marker with
  | none =>
      rw [marker] at notAudit
      dsimp only at notAudit ⊢
      split at notAudit
      · exact absurd rfl notAudit
      · simp_all
  | some found =>
      rw [marker] at notAudit
      dsimp only at notAudit ⊢
      cases isLayer : found.layer with
      | none => simp_all
      | some named => cases named <;> simp_all

end Flag

/-! ## Subsections in the layer of their section -/

theorem layerForSectionKey_audit (sectionKey : String) :
    layerForSectionKey sectionKey = .audit ↔
      sectionKey ∉ supportHeadingKeys ∧
        ("audit_".toList <+: sectionKey.toList ∨
          sectionKey = "audit_log") := by
  unfold layerForSectionKey
  simp only [List.isPrefixOf_iff_prefix, List.mem_singleton]
  repeat' split
  all_goals simp_all

theorem layerForSectionKey_support (sectionKey : String) :
    layerForSectionKey sectionKey = .support ↔
      sectionKey ∈ supportHeadingKeys := by
  unfold layerForSectionKey
  repeat' split
  all_goals simp_all

section Together

variable [PyRuntime] [PyLowercase]

theorem sectionLayer_eq (reportSection : ReportSection)
    (outputLanguage : String) :
    sectionLayer reportSection outputLanguage =
      if reportSection.layer = .audit then .audit
      else
        match reportSection.sectionKey.or
            (headingKeyFor reportSection.heading outputLanguage) with
        | some sectionKey => layerForSectionKey sectionKey
        | none => reportSection.layer := by
  unfold sectionLayer
  cases reportSection.sectionKey with
  | some sectionKey => rfl
  | none =>
      cases headingKeyFor reportSection.heading outputLanguage <;> rfl

/-- The layer of a section, from the headings of the text. -/
theorem sectionLayer_iff (outputLanguage : String) {length place : Nat}
    {entries : List SectionEntry} {reportSection : ReportSection}
    {entry : SectionEntry}
    (found : (reportSectionsFrom false length entries)[place]? =
      some reportSection)
    (isEntry : entries[place]? = some entry) :
    (sectionLayer reportSection outputLanguage = .audit ↔
      BoundForAudit outputLanguage (entries.take place) entry) ∧
    (sectionLayer reportSection outputLanguage = .support ↔
      BoundForSupport outputLanguage (entries.take place) entry) := by
  obtain ⟨known, isKnown, heading, sectionKey, layer⟩ :=
    reportSectionsFrom_at found
  obtain rfl : known = entry :=
    Option.some.inj (isKnown.symm.trans isEntry)
  have audit := countsAsAudit_iff entries place known
  rw [← layer] at audit
  have key : reportSection.sectionKey.or
      (headingKeyFor reportSection.heading outputLanguage) =
        entryKey outputLanguage known := by
    rw [sectionKey, heading]
    rfl
  rw [sectionLayer_eq, key]
  unfold BoundForAudit BoundForSupport
  rw [← audit]
  split
  · next isAudit => simp [isAudit]
  · next notAudit =>
      have support := entryLayer_support (layer ▸ notAudit)
      rw [← layer] at support
      cases entryKey outputLanguage known with
      | some given =>
          simp [notAudit, layerForSectionKey_audit,
            layerForSectionKey_support]
      | none => simp [notAudit, support]

theorem sectionLayer_same {outputLanguage : String}
    {first second : ReportSection} :
    sectionLayer first outputLanguage = sectionLayer second outputLanguage ↔
      (sectionLayer first outputLanguage = .audit ↔
        sectionLayer second outputLanguage = .audit) ∧
      (sectionLayer first outputLanguage = .support ↔
        sectionLayer second outputLanguage = .support) := by
  cases sectionLayer first outputLanguage <;>
    cases sectionLayer second outputLanguage <;> simp

theorem together_iff (outputLanguage : String) (length : Nat)
    (entries : List SectionEntry) :
    (∀ outer inner outerSection innerSection,
      (reportSectionsFrom false length entries)[outer]? = some outerSection →
        (reportSectionsFrom false length entries)[inner]? =
            some innerSection →
          Encloses ((reportSectionsFrom false length entries).map (·.level))
              outer inner →
            sectionLayer innerSection outputLanguage =
              sectionLayer outerSection outputLanguage) ↔
      SubsectionsFollow outputLanguage entries := by
  rw [reportSectionsFrom_levels]
  have sameLength : (reportSectionsFrom false length entries).length =
      entries.length := by
    rw [← List.length_map (f := (·.level)), reportSectionsFrom_levels,
      List.length_map]
  constructor
  · intro together outer inner outerEntry innerEntry isOuter isInner encloses
    obtain ⟨outerSection, foundOuter⟩ :
        ∃ found, (reportSectionsFrom false length entries)[outer]? =
          some found :=
      Option.isSome_iff_exists.mp (by
        have inside := (List.getElem?_eq_some_iff.mp isOuter).1
        simp [sameLength, inside])
    obtain ⟨innerSection, foundInner⟩ :
        ∃ found, (reportSectionsFrom false length entries)[inner]? =
          some found :=
      Option.isSome_iff_exists.mp (by
        have inside := (List.getElem?_eq_some_iff.mp isInner).1
        simp [sameLength, inside])
    have same := sectionLayer_same.mp (together outer inner outerSection
      innerSection foundOuter foundInner encloses)
    obtain ⟨outerAudit, outerSupport⟩ :=
      sectionLayer_iff outputLanguage foundOuter isOuter
    obtain ⟨innerAudit, innerSupport⟩ :=
      sectionLayer_iff outputLanguage foundInner isInner
    rw [← outerAudit, ← outerSupport, ← innerAudit, ← innerSupport]
    exact same
  · intro follow outer inner outerSection innerSection foundOuter foundInner
      encloses
    obtain ⟨outerEntry, isOuter, _⟩ := reportSectionsFrom_at foundOuter
    obtain ⟨innerEntry, isInner, _⟩ := reportSectionsFrom_at foundInner
    obtain ⟨outerAudit, outerSupport⟩ :=
      sectionLayer_iff outputLanguage foundOuter isOuter
    obtain ⟨innerAudit, innerSupport⟩ :=
      sectionLayer_iff outputLanguage foundInner isInner
    have same := follow outer inner outerEntry innerEntry isOuter isInner
      encloses
    rw [← outerAudit, ← outerSupport, ← innerAudit, ← innerSupport] at same
    exact sectionLayer_same.mpr same

end Together

/-! ## Characters that are not white space -/

def visibleCount (text : List Char) : Nat :=
  text.countP (! isSpace ·)

theorem visibleCount_append (first second : List Char) :
    visibleCount (first ++ second) =
      visibleCount first + visibleCount second :=
  List.countP_append

theorem visibleCount_stripLeft (text : List Char) :
    visibleCount (stripLeft text) = visibleCount text := by
  have blank : visibleCount (text.takeWhile isSpace) = 0 := by
    rw [visibleCount, List.countP_eq_zero]
    intro char member
    simpa using List.mem_takeWhile_imp member
  calc visibleCount (stripLeft text)
      = visibleCount (text.takeWhile isSpace) +
          visibleCount (text.dropWhile isSpace) := by rw [blank, Nat.zero_add]; rfl
    _ = visibleCount text := by
        rw [← visibleCount_append, List.takeWhile_append_dropWhile]

theorem visibleCount_stripChars (text : List Char) :
    visibleCount (stripChars text) = visibleCount text := by
  unfold stripChars
  rw [visibleCount, List.countP_reverse]
  change visibleCount _ = _
  rw [visibleCount_stripLeft, visibleCount, List.countP_reverse]
  exact visibleCount_stripLeft text

theorem stripChars_ne_nil {text : List Char} {char : Char}
    (member : char ∈ text) (visible : isSpace char = false) :
    stripChars text ≠ [] := by
  intro blank
  have none : visibleCount text = 0 := by
    rw [← visibleCount_stripChars, blank]
    rfl
  have isBlank := List.countP_eq_zero.mp none char member
  simp [visible] at isBlank

/-- A stripped text that is not empty ends with a visible character. -/
theorem getLast_stripChars {text : List Char} (filled : stripChars text ≠ []) :
    isSpace ((stripChars text).getLast filled) = false := by
  unfold stripChars at *
  rw [List.getLast_reverse]
  have head := List.head?_dropWhile_not isSpace (stripLeft text).reverse
  unfold stripLeft at *
  generalize List.dropWhile isSpace (List.dropWhile isSpace text).reverse =
    rest at *
  cases rest with
  | nil => exact absurd rfl filled
  | cons char rest => simpa using head

/-- Cutting off the end of a stripped text loses a visible character. -/
theorem visibleCount_take_lt {text : List Char} {stop : Nat}
    (shorter : stop < (stripChars text).length) :
    visibleCount ((stripChars text).take stop) <
      visibleCount (stripChars text) := by
  have filled : stripChars text ≠ [] := by
    intro blank
    rw [blank] at shorter
    exact absurd shorter (Nat.not_lt_zero _)
  have visible := getLast_stripChars filled
  generalize stripChars text = stripped at *
  have isLast : stripped.getLast filled ∈ stripped.drop stop := by
    have rest : stripped.drop stop ≠ [] := by
      simpa using shorter
    rw [← List.getLast_drop rest]
    exact List.getLast_mem rest
  have counted : 0 < visibleCount (stripped.drop stop) := by
    rw [visibleCount, List.countP_pos_iff]
    exact ⟨_, isLast, by simp [visible]⟩
  have whole := visibleCount_append (stripped.take stop) (stripped.drop stop)
  rw [List.take_append_drop] at whole
  omega

/-- The visible characters of all layers. -/
def layersVisible (blocks : LayerBlocks) : Nat :=
  visibleCount (blocks .core).flatten +
    visibleCount (blocks .support).flatten +
      visibleCount (blocks .audit).flatten

theorem layersVisible_congr {blocks others : LayerBlocks}
    (same : ∀ layer, (blocks layer).flatten = (others layer).flatten) :
    layersVisible blocks = layersVisible others := by
  unfold layersVisible
  rw [same, same, same]

theorem layersVisible_append (blocks others : LayerBlocks) :
    layersVisible (fun layer => blocks layer ++ others layer) =
      layersVisible blocks + layersVisible others := by
  unfold layersVisible
  simp only [List.flatten_append, visibleCount_append]
  omega

theorem layersVisible_core (block : List Char) :
    layersVisible (fun layer =>
        if layer = .core ∧ block ≠ [] then [block] else []) =
      visibleCount block := by
  unfold layersVisible
  by_cases blank : block = []
  · simp [blank, visibleCount]
  · simp [blank, visibleCount]

theorem layersVisible_cons {blocks others : LayerBlocks}
    (layer : SectionLayer) {block : List Char}
    (consed : ∀ other, blocks other =
      if layer = other then block :: others other else others other) :
    layersVisible blocks = visibleCount block + layersVisible others := by
  unfold layersVisible
  rw [consed, consed, consed]
  cases layer
  all_goals
    simp only [reduceCtorEq, if_true, if_false, List.flatten_cons,
      visibleCount_append]
    omega

/-- Sorting blocks by layer keeps their characters. -/
theorem layersVisible_sorted {α : Type*} (layerOf : α → SectionLayer)
    (textOf : α → List Char) (items : List α) :
    layersVisible (fun layer =>
        (items.filter fun item => layerOf item = layer).map fun item =>
          stripChars (textOf item)) =
      visibleCount (items.map textOf).flatten := by
  induction items with
  | nil => rfl
  | cons item items induction =>
      rw [List.map_cons, List.flatten_cons, visibleCount_append, ← induction,
        ← visibleCount_stripChars (textOf item)]
      apply layersVisible_cons (layerOf item)
      intro other
      by_cases same : layerOf item = other
      · simp [same]
      · simp [same]

theorem sectionStarts_ascending {text : List Char}
    {entries : List SectionEntry} (inOrder : EntriesInOrder text entries) :
    (entries.map (·.start)).Pairwise (· ≤ ·) ∧
      ∀ place ∈ entries.map (·.start), place ≤ text.length := by
  constructor
  · rw [List.pairwise_map]
    apply inOrder.apart.imp_of_mem
    intro first second member _ apart
    exact Nat.le_of_lt (Nat.lt_of_le_of_lt (inOrder.begins first member) apart)
  · intro place member
    rcases List.mem_map.mp member with ⟨entry, known, rfl⟩
    have inside := (List.getElem?_eq_some_iff.mp
      (inOrder.marked entry known)).1
    have begins := inOrder.begins entry known
    omega

/-- Every piece has the marks of its heading. -/
theorem slicesAt_visible {text : List Char} {entries : List SectionEntry}
    (inOrder : EntriesInOrder text entries) :
    ∀ piece ∈ slicesAt text text.length (entries.map (·.start)),
      stripChars piece ≠ [] := by
  obtain ⟨begins, marked, apart⟩ := inOrder
  induction entries with
  | nil => nofun
  | cons entry entries induction =>
      rw [List.map_cons, slicesAt, List.forall_mem_cons]
      obtain ⟨apartHere, apartLater⟩ := List.pairwise_cons.mp apart
      constructor
      · have isMark := marked entry List.mem_cons_self
        have inside := (List.getElem?_eq_some_iff.mp isMark).1
        have beforeNext : markPlace text entry.heading.start <
            (entries.map (·.start)).head?.getD text.length := by
          cases entries with
          | nil => exact inside
          | cons next entries => exact apartHere next List.mem_cons_self
        have begun := begins entry List.mem_cons_self
        have member : '#' ∈ slice text entry.start
            ((entries.map (·.start)).head?.getD text.length) := by
          unfold slice
          apply List.mem_of_getElem?
            (i := markPlace text entry.heading.start - entry.start)
          rw [List.getElem?_drop, Nat.add_sub_cancel' begun,
            List.getElem?_take_of_lt beforeNext]
          exact isMark
        exact stripChars_ne_nil member (by decide)
      · exact induction
          (fun other member => begins other (List.mem_cons_of_mem _ member))
          (fun other member => marked other (List.mem_cons_of_mem _ member))
          apartLater

section SectionsOf

variable [PyRuntime]

theorem sectionsOf_starts (markdown : List Char) :
    (sectionsOf markdown).map (·.start) =
      (sectionEntries (repairMojibake (stripChars markdown))).map (·.start) :=
  reportSectionsFrom_starts _ _ _

theorem sectionsOf_slices (text markdown : List Char) :
    ((sectionsOf markdown).map fun part => slice text part.start part.stop) =
      slicesAt text (repairMojibake (stripChars markdown)).length
        ((sectionsOf markdown).map (·.start)) := by
  rw [sectionsOf_starts]
  exact reportSectionsFrom_slices text _ _ _

theorem sectionsOf_eq_nil {markdown : List Char} :
    sectionsOf markdown = [] ↔
      headingMatches (repairMojibake (stripChars markdown)) = [] := by
  have starts := congrArg List.length (sectionsOf_starts markdown)
  rw [List.length_map, List.length_map] at starts
  rw [← List.length_eq_zero_iff, starts, List.length_eq_zero_iff,
    sectionEntries, List.map_eq_nil_iff]

end SectionsOf

section Lossless

variable [PyRuntime] [PyLowercase]

theorem appendSections_spec (stripped : List Char) (outputLanguage : String)
    (sections : List ReportSection) (layerBlocks : LayerBlocks)
    (layer : SectionLayer) :
    appendSections stripped outputLanguage layerBlocks sections layer =
      layerBlocks layer ++
        ((sections.filter fun part =>
          sectionLayer part outputLanguage = layer).map
            (sectionBlock stripped)).filter (· ≠ []) := by
  induction sections generalizing layerBlocks with
  | nil => simp [appendSections]
  | cons part sections induction =>
      unfold appendSections
      dsimp only
      rw [induction]
      by_cases blank : sectionBlock stripped part = []
      · rw [if_pos blank]
        by_cases here : sectionLayer part outputLanguage = layer
        · simp [here, blank]
        · simp [here]
      · rw [if_neg blank]
        unfold LayerBlocks.append
        by_cases here : sectionLayer part outputLanguage = layer
        · simp [here, blank]
        · simp [here, Ne.symm here]

/-- The blocks of a text with headings. -/
theorem splitLayerBlocks_spec {markdown : List Char} (outputLanguage : String)
    (filled : sectionsOf markdown ≠ []) (layer : SectionLayer) :
    splitLayerBlocks markdown outputLanguage layer =
      (if layer = .core ∧ stripChars ((stripChars markdown).take
          (((sectionsOf markdown).map (·.start)).head?.getD 0)) ≠ [] then
        [stripChars ((stripChars markdown).take
          (((sectionsOf markdown).map (·.start)).head?.getD 0))]
      else []) ++
      (((sectionsOf markdown).filter fun part =>
        sectionLayer part outputLanguage = layer).map
          (sectionBlock (stripChars markdown))).filter (· ≠ []) := by
  have notEmpty : stripChars markdown ≠ [] := by
    intro blank
    apply filled
    unfold sectionsOf
    rw [blank]
    rfl
  unfold splitLayerBlocks
  dsimp only
  rw [if_neg notEmpty]
  unfold sectionsOf at *
  generalize buildReportSectionIndex (stripChars markdown) = sections at *
  cases sections with
  | nil => exact absurd rfl filled
  | cons first sections =>
      dsimp only
      rw [appendSections_spec, List.map_cons, List.head?_cons,
        Option.getD_some]
      congr 1
      split
      · next blank => simp [LayerBlocks.empty, blank]
      · next visible =>
          unfold LayerBlocks.append
          by_cases isCore : layer = .core
          · simp [isCore, visible, LayerBlocks.empty]
          · simp [isCore, LayerBlocks.empty]

theorem cutIntoBlocks_of_noHeadings {markdown : List Char}
    (outputLanguage : String) (noHeadings : sectionsOf markdown = []) :
    CutIntoBlocks markdown outputLanguage (stripChars markdown) [] := by
  constructor
  case whole => simp
  case onePerHeading =>
    rw [noHeadings]
    rfl
  case visible => nofun
  case opens =>
    intro _
    rw [noHeadings]
    rfl
  case placed =>
    intro layer
    rw [noHeadings, stripChars_stripChars]
    unfold splitLayerBlocks
    dsimp only
    unfold sectionsOf at noHeadings
    rw [noHeadings]
    split
    · next blank => simp [blank, LayerBlocks.empty]
    · next visible =>
        unfold LayerBlocks.append
        by_cases isCore : layer = .core
        · simp [isCore, visible, LayerBlocks.empty]
        · simp [isCore, LayerBlocks.empty]

theorem cutIntoBlocks_of_intact {markdown : List Char}
    (outputLanguage : String)
    (intact : repairMojibake (stripChars markdown) = stripChars markdown)
    (filled : sectionsOf markdown ≠ []) :
    CutIntoBlocks markdown outputLanguage
      ((stripChars markdown).take
        (((sectionsOf markdown).map (·.start)).head?.getD 0))
      ((sectionsOf markdown).map fun part =>
        slice (stripChars markdown) part.start part.stop) := by
  have inOrder := sectionEntries_inOrder (stripChars markdown)
  have slices := sectionsOf_slices (stripChars markdown) markdown
  have starts := sectionsOf_starts markdown
  rw [intact] at slices starts
  obtain ⟨ascending, inside⟩ := sectionStarts_ascending inOrder
  have visible := slicesAt_visible inOrder
  rw [← starts] at ascending inside visible
  rw [← slices] at visible
  have first : ((sectionsOf markdown).map (·.start)).head?.getD 0 =
      ((sectionsOf markdown).map (·.start)).head?.getD
        (stripChars markdown).length := by
    cases found : sectionsOf markdown with
    | nil => exact absurd found filled
    | cons part sections => rfl
  constructor
  case whole =>
    rw [slices, first, take_append_flatten_slicesAt _ ascending inside,
      List.take_length]
  case onePerHeading => rw [List.length_map]
  case visible => exact visible
  case opens =>
    intro _
    have size : ((stripChars markdown).take
        (((sectionsOf markdown).map (·.start)).head?.getD 0)).length =
          ((sectionsOf markdown).map (·.start)).head?.getD
            (stripChars markdown).length := by
      rw [List.length_take, first]
      apply Nat.min_eq_left
      cases found : ((sectionsOf markdown).map (·.start)).head? with
      | none => exact Nat.le_refl _
      | some place => exact inside place (List.mem_of_head? found)
    rw [size, slices]
    exact startsFrom_slicesAt _ _ ascending inside (Nat.le_refl _)
  case placed =>
    intro layer
    have noneDropped : (((sectionsOf markdown).filter fun part =>
        sectionLayer part outputLanguage = layer).map
          (sectionBlock (stripChars markdown))).filter (· ≠ []) =
        ((sectionsOf markdown).filter fun part =>
          sectionLayer part outputLanguage = layer).map
            (sectionBlock (stripChars markdown)) := by
      apply List.filter_eq_self.mpr
      intro block member
      rcases List.mem_map.mp member with ⟨part, known, rfl⟩
      have isPiece := visible _
        (List.mem_map_of_mem (List.mem_of_mem_filter known))
      exact decide_eq_true isPiece
    rw [splitLayerBlocks_spec outputLanguage filled layer, noneDropped,
      ← List.map_prod_left_eq_zip, List.filter_map, List.map_map]
    rfl

/-- A split without loss keeps every visible character. -/
theorem CutIntoBlocks.layersVisible {markdown preamble : List Char}
    {outputLanguage : String} {pieces : List (List Char)}
    (cut : CutIntoBlocks markdown outputLanguage preamble pieces) :
    layersVisible (splitLayerBlocks markdown outputLanguage) =
      visibleCount (stripChars markdown) := by
  have pieceTexts : ((sectionsOf markdown).zip pieces).map Prod.snd =
      pieces :=
    List.map_snd_zip (Nat.le_of_eq cut.onePerHeading)
  have sorted := layersVisible_sorted
    (fun entry : ReportSection × List Char =>
      sectionLayer entry.1 outputLanguage) Prod.snd
    ((sectionsOf markdown).zip pieces)
  rw [pieceTexts] at sorted
  calc CompetiScope.layersVisible (splitLayerBlocks markdown outputLanguage)
      = visibleCount (stripChars preamble) + visibleCount pieces.flatten := by
        rw [funext cut.placed, layersVisible_append, layersVisible_core,
          sorted]
    _ = visibleCount (stripChars markdown) := by
        rw [visibleCount_stripChars, ← visibleCount_append, cut.whole]

/-- The blocks stop where the repaired text ends. -/
theorem layersVisible_split {markdown : List Char} (outputLanguage : String)
    (filled : sectionsOf markdown ≠ []) :
    layersVisible (splitLayerBlocks markdown outputLanguage) =
      visibleCount ((stripChars markdown).take
        (repairMojibake (stripChars markdown)).length) := by
  obtain ⟨ascending, inside⟩ := sectionStarts_ascending
    (sectionEntries_inOrder (repairMojibake (stripChars markdown)))
  rw [← sectionsOf_starts] at ascending inside
  have whole := take_append_flatten_slicesAt (stripChars markdown) ascending
    inside
  rw [← sectionsOf_slices] at whole
  have first : ((sectionsOf markdown).map (·.start)).head?.getD 0 =
      ((sectionsOf markdown).map (·.start)).head?.getD
        (repairMojibake (stripChars markdown)).length := by
    cases found : sectionsOf markdown with
    | nil => exact absurd found filled
    | cons part sections => rfl
  have sorted := layersVisible_sorted
    (fun part => sectionLayer part outputLanguage)
    (fun part => slice (stripChars markdown) part.start part.stop)
    (sectionsOf markdown)
  have noBlanks : layersVisible (fun layer =>
      (((sectionsOf markdown).filter fun part =>
        sectionLayer part outputLanguage = layer).map
          (sectionBlock (stripChars markdown))).filter (· ≠ [])) =
      layersVisible (fun layer =>
        ((sectionsOf markdown).filter fun part =>
          sectionLayer part outputLanguage = layer).map
            (sectionBlock (stripChars markdown))) :=
    layersVisible_congr fun layer => List.flatten_filter_ne_nil
  rw [funext (splitLayerBlocks_spec outputLanguage filled),
    layersVisible_append, layersVisible_core, visibleCount_stripChars, first,
    noBlanks, ← whole, visibleCount_append, ← sorted]
  rfl

/-- Nothing gets lost if and only if the repaired text is the text itself, or
has no heading. -/
theorem lossless_iff (markdown : List Char) (outputLanguage : String) :
    (∃ preamble pieces,
      CutIntoBlocks markdown outputLanguage preamble pieces) ↔
    repairMojibake (stripChars markdown) = stripChars markdown ∨
      headingMatches (repairMojibake (stripChars markdown)) = [] := by
  rw [← sectionsOf_eq_nil]
  constructor
  · rintro ⟨preamble, pieces, cut⟩
    by_contra broken
    obtain ⟨changed, filled⟩ := not_or.mp broken
    have shorter := (repairMojibake_shrinks (stripChars markdown)).length_lt
      changed
    have kept := cut.layersVisible
    rw [layersVisible_split outputLanguage filled] at kept
    exact absurd kept (Nat.ne_of_lt (visibleCount_take_lt shorter))
  · intro intact
    by_cases noHeadings : sectionsOf markdown = []
    · exact ⟨_, _, cutIntoBlocks_of_noHeadings outputLanguage noHeadings⟩
    · exact ⟨_, _, cutIntoBlocks_of_intact outputLanguage
        (intact.resolve_right noHeadings) noHeadings⟩

/-- The split loses nothing and tears no section apart if and only if repairing
the text changes nothing, unless there is no heading, and every subsection is
bound for the layer of its section. -/
theorem splitMarkdownByLayers_sound_iff (markdown : List Char)
    (outputLanguage : String) :
    LayerSplitSound markdown outputLanguage ↔
      LayersIntact markdown outputLanguage := by
  unfold LayersIntact
  dsimp only
  rw [← lossless_iff markdown outputLanguage, ← together_iff outputLanguage
    (repairMojibake (stripChars markdown)).length]
  constructor
  · intro sound
    exact ⟨sound.lossless, sound.together⟩
  · rintro ⟨lossless, together⟩
    exact
      { lossless := lossless
        together := together }

end Lossless

namespace LayerSplitExample

@[reducible] local instance layerSplitRuntime : PyRuntime :=
  asciiRuntime

@[reducible] local instance layerSplitLowercase : PyLowercase :=
  asciiLowercase

/-- A quotation mark that was decoded with the wrong code page. -/
def misread : List Char :=
  "# Buyer\u00e2\u0080\u0099s view\n\nNotion wins.".toList

/-- Support material as the structured report renders it. -/
def supportMaterial : List Char :=
  ("<!-- report-section:key=evidence_support layer=support -->\n" ++
    "## Support Materials\n### Evidence Appendix\n| Source ID |").toList

theorem supportMaterial_layers :
    (sectionsOf supportMaterial).map
        (fun part => (part.level, sectionLayer part "en-US")) =
      [(2, .support), (3, .audit)] := by
  decide +kernel

/-- The end of the misread text is cut off, and the evidence appendix is torn
out of the support material. -/
theorem end_lost_and_appendix_torn :
    ¬ LayerSplitSound misread "en-US" ∧
      ¬ LayerSplitSound supportMaterial "en-US" := by
  constructor
  · intro sound
    have intact := (lossless_iff misread "en-US").mp sound.lossless
    revert intact
    decide +kernel
  · intro sound
    have layers := supportMaterial_layers
    obtain ⟨outerSection, others, isOuter, isSupport, isOthers⟩ :=
      List.map_eq_cons_iff.mp layers
    obtain ⟨innerSection, rest, isInner, isAudit, _⟩ :=
      List.map_eq_cons_iff.mp isOthers
    have levels : (sectionsOf supportMaterial).map (·.level) = [2, 3] := by
      calc (sectionsOf supportMaterial).map (·.level)
          = ((sectionsOf supportMaterial).map (fun part =>
              (part.level, sectionLayer part "en-US"))).map Prod.fst := by
            rw [List.map_map]
            rfl
        _ = [2, 3] := by rw [layers]; rfl
    have together := sound.together 0 1 outerSection innerSection
      (by rw [isOuter]; rfl) (by rw [isOuter, isInner]; rfl)
    rw [levels] at together
    have same := together ⟨by omega, rfl, by
      intro place after notBehind
      obtain rfl : place = 1 := by omega
      exact ⟨3, rfl, by omega⟩⟩
    rw [(Prod.mk.inj isSupport).2, (Prod.mk.inj isAudit).2] at same
    cases same

end LayerSplitExample

end CompetiScope
