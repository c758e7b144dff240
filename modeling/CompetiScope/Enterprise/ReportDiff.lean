import CompetiScope.Enterprise.ReportLifecycle
import CompetiScope.Foundation.Slices

/-!
# Report version diffs

Two reports are compared line by line.  A matcher tells which runs of lines are
equal, deleted, inserted or replaced; whatever it answers, the lines of the
diff hold both reports, as long as its runs cover them.
-/

namespace CompetiScope

open Foundation

/-! ## Lines -/

/-- The line boundaries of `str.splitlines`. -/
def isLineBoundary (char : Char) : Bool :=
  let code := char.toNat
  (10 ≤ code && code ≤ 13) || (28 ≤ code && code ≤ 30) || code == 0x85 ||
    code == 0x2028 || code == 0x2029

/-- `line` has been read of the current line. -/
def splitLinesFrom (line : List Char) : List Char → List (List Char)
  | [] => if line = [] then [] else [line]
  | '\r' :: '\n' :: text => line :: splitLinesFrom [] text
  | char :: text =>
      if isLineBoundary char then line :: splitLinesFrom [] text
      else splitLinesFrom (line ++ [char]) text

/-- `str.splitlines`. -/
def splitLines (text : String) : List String :=
  (splitLinesFrom [] text.toList).map String.ofList

example : splitLines "a\r\nb\n\nc\n" = ["a", "b", "", "c"] := by
  decide +kernel

/-! ## Opcodes -/

inductive OpcodeTag where
  | equal
  | delete
  | insert
  | replace
  deriving DecidableEq

/-- An opcode of `difflib.SequenceMatcher`. -/
structure Opcode where
  tag : OpcodeTag
  baseStart : Nat
  baseEnd : Nat
  targetStart : Nat
  targetEnd : Nat
  deriving DecidableEq

/-- What a tag says of the lines of an opcode. -/
def Opcode.Fits {α : Type*} (opcode : Opcode) (base target : List α) :
    Prop :=
  match opcode.tag with
  | .equal =>
      slice base opcode.baseStart opcode.baseEnd =
        slice target opcode.targetStart opcode.targetEnd
  | .delete => opcode.targetStart = opcode.targetEnd
  | .insert => opcode.baseStart = opcode.baseEnd
  | .replace => True

/-- The opcodes cover both sequences from the given places to the end. -/
inductive Tiles {α : Type*} (base target : List α) :
    Nat → Nat → List Opcode → Prop where
  | done : Tiles base target base.length target.length []
  | step {opcode : Opcode} {opcodes : List Opcode}
      (inBase : opcode.baseStart ≤ opcode.baseEnd)
      (inTarget : opcode.targetStart ≤ opcode.targetEnd)
      (fits : opcode.Fits base target)
      (rest : Tiles base target opcode.baseEnd opcode.targetEnd opcodes) :
      Tiles base target opcode.baseStart opcode.targetStart
        (opcode :: opcodes)

/-! ## The diff -/

inductive DiffLineKind where
  | unchanged
  | added
  | removed
  deriving DecidableEq

structure ReportDiffLine where
  kind : DiffLineKind
  text : String
  deriving DecidableEq

structure ReportVersionDiff where
  baseVersion : Option ReportVersionRecord
  targetVersion : ReportVersionRecord
  addedLines : Nat
  removedLines : Nat
  unchangedLines : Nat
  lines : List ReportDiffLine

def diffLines (kind : DiffLineKind) (texts : List String) :
    List ReportDiffLine :=
  texts.map fun text =>
    { kind := kind
      text := text }

/-- What an opcode adds to the lines of a diff. -/
def opcodeLines (baseLines targetLines : List String) (opcode : Opcode) :
    List ReportDiffLine :=
  let ofBase := slice baseLines opcode.baseStart opcode.baseEnd
  let ofTarget := slice targetLines opcode.targetStart opcode.targetEnd
  match opcode.tag with
  | .equal => diffLines .unchanged ofTarget
  | .delete => diffLines .removed ofBase
  | .insert => diffLines .added ofTarget
  | .replace => diffLines .removed ofBase ++ diffLines .added ofTarget

/-- `build_report_version_diff`; `getOpcodes` stands for the matcher. -/
def buildReportVersionDiff
    (getOpcodes : List String → List String → List Opcode)
    (targetVersion : ReportVersionRecord)
    (baseVersion : Option ReportVersionRecord) : ReportVersionDiff :=
  let baseLines :=
    match baseVersion with
    | some version => splitLines version.reportMd
    | none => []
  let targetLines := splitLines targetVersion.reportMd
  let lines := (getOpcodes baseLines targetLines).flatMap
    (opcodeLines baseLines targetLines)
  { baseVersion := baseVersion
    targetVersion := targetVersion
    addedLines := lines.countP (·.kind = .added)
    removedLines := lines.countP (·.kind = .removed)
    unchangedLines := lines.countP (·.kind = .unchanged)
    lines := lines }

/-- The lines of a diff without those of one kind. -/
def ReportVersionDiff.without (diff : ReportVersionDiff)
    (kind : DiffLineKind) : List String :=
  (diff.lines.filter (·.kind ≠ kind)).map (·.text)

/-- A diff that holds both texts, and counts its lines. -/
structure HoldsBoth (diff : ReportVersionDiff)
    (baseLines targetLines : List String) : Prop where
  base : diff.without .added = baseLines
  target : diff.without .removed = targetLines
  added : diff.addedLines =
    (diff.lines.filter (·.kind = .added)).length
  removed : diff.removedLines =
    (diff.lines.filter (·.kind = .removed)).length
  unchanged : diff.unchangedLines =
    (diff.lines.filter (·.kind = .unchanged)).length

/-! ## Both sides of a diff -/

theorem Tiles.inside {α : Type*} {base target : List α}
    {baseStart targetStart : Nat} {opcodes : List Opcode}
    (tiles : Tiles base target baseStart targetStart opcodes) :
    baseStart ≤ base.length ∧ targetStart ≤ target.length := by
  induction tiles with
  | done => exact ⟨Nat.le_refl _, Nat.le_refl _⟩
  | step inBase inTarget fits rest induction =>
      exact ⟨Nat.le_trans inBase induction.1,
        Nat.le_trans inTarget induction.2⟩

theorem filter_diffLines (kind dropped : DiffLineKind)
    (texts : List String) :
    ((diffLines kind texts).filter (·.kind ≠ dropped)).map (·.text) =
      if kind = dropped then [] else texts := by
  induction texts with
  | nil => simp [diffLines]
  | cons text texts induction =>
      unfold diffLines at *
      by_cases same : kind = dropped
      · simp [same]
      · rw [if_neg same] at induction ⊢
        rw [List.map_cons, List.filter_cons_of_pos (by simpa using same),
          List.map_cons, induction]

/-- Without added lines an opcode gives its lines of the base, and without
removed ones its lines of the target. -/
theorem opcodeLines_sides {baseLines targetLines : List String}
    {opcode : Opcode} (fits : opcode.Fits baseLines targetLines) :
    ((opcodeLines baseLines targetLines opcode).filter
        (·.kind ≠ .added)).map (·.text) =
      slice baseLines opcode.baseStart opcode.baseEnd ∧
    ((opcodeLines baseLines targetLines opcode).filter
        (·.kind ≠ .removed)).map (·.text) =
      slice targetLines opcode.targetStart opcode.targetEnd := by
  have nothing : ∀ (lines : List String) (place : Nat),
      slice lines place place = [] := by
    intro lines place
    exact List.drop_eq_nil_of_le (List.length_take_le place lines)
  unfold Opcode.Fits at fits
  unfold opcodeLines
  dsimp only
  cases tag : opcode.tag with
  | equal =>
      rw [tag] at fits
      dsimp only at fits ⊢
      rw [filter_diffLines, filter_diffLines, fits]
      exact ⟨rfl, rfl⟩
  | delete =>
      rw [tag] at fits
      dsimp only at fits ⊢
      rw [filter_diffLines, filter_diffLines, fits, nothing]
      exact ⟨rfl, rfl⟩
  | insert =>
      rw [tag] at fits
      dsimp only at fits ⊢
      rw [filter_diffLines, filter_diffLines, fits, nothing]
      exact ⟨rfl, rfl⟩
  | replace =>
      dsimp only
      rw [List.filter_append, List.filter_append, List.map_append,
        List.map_append, filter_diffLines, filter_diffLines,
        filter_diffLines, filter_diffLines]
      simp

theorem tiles_sides {baseLines targetLines : List String}
    {baseStart targetStart : Nat} {opcodes : List Opcode}
    (tiles : Tiles baseLines targetLines baseStart targetStart opcodes) :
    ((opcodes.flatMap (opcodeLines baseLines targetLines)).filter
        (·.kind ≠ .added)).map (·.text) =
      slice baseLines baseStart baseLines.length ∧
    ((opcodes.flatMap (opcodeLines baseLines targetLines)).filter
        (·.kind ≠ .removed)).map (·.text) =
      slice targetLines targetStart targetLines.length := by
  induction tiles with
  | done => simp [slice]
  | step inBase inTarget fits rest induction =>
      obtain ⟨ofBase, ofTarget⟩ := opcodeLines_sides fits
      obtain ⟨baseInside, targetInside⟩ := rest.inside
      rw [List.flatMap_cons, List.filter_append, List.filter_append,
        List.map_append, List.map_append, ofBase, ofTarget, induction.1,
        induction.2, slice_append_slice _ inBase baseInside,
        slice_append_slice _ inTarget targetInside]
      exact ⟨rfl, rfl⟩

/-- A diff holds the lines of both versions and counts its lines, if the
opcodes of the matcher cover them. -/
theorem buildReportVersionDiff_holdsBoth
    (getOpcodes : List String → List String → List Opcode)
    (targetVersion : ReportVersionRecord)
    (baseVersion : Option ReportVersionRecord)
    (tiles : ∀ base target : List String,
      Tiles base target 0 0 (getOpcodes base target)) :
    HoldsBoth
      (buildReportVersionDiff getOpcodes targetVersion baseVersion)
      ((baseVersion.map fun version => splitLines version.reportMd).getD [])
      (splitLines targetVersion.reportMd) := by
  have isBase : (match baseVersion with
      | some version => splitLines version.reportMd
      | none => []) =
        (baseVersion.map fun version =>
          splitLines version.reportMd).getD [] := by
    cases baseVersion <;> rfl
  unfold buildReportVersionDiff
  rw [isBase]
  generalize (baseVersion.map fun version =>
    splitLines version.reportMd).getD [] = baseLines
  obtain ⟨base, target⟩ := tiles_sides
    (tiles baseLines (splitLines targetVersion.reportMd))
  constructor
  case base =>
    rw [ReportVersionDiff.without, base]
    simp [slice]
  case target =>
    rw [ReportVersionDiff.without, target]
    simp [slice]
  case added => exact List.countP_eq_length_filter
  case removed => exact List.countP_eq_length_filter
  case unchanged => exact List.countP_eq_length_filter

namespace ReportDiffExample

/-- A matcher that is exact on sequences that are equal or share no line. -/
def wholeOpcodes (base target : List String) : List Opcode :=
  let opcode (tag : OpcodeTag) : Opcode :=
    { tag := tag
      baseStart := 0
      baseEnd := base.length
      targetStart := 0
      targetEnd := target.length }
  if base = target then if base = [] then [] else [opcode .equal]
  else if base = [] then [opcode .insert]
  else if target = [] then [opcode .delete]
  else [opcode .replace]

theorem wholeOpcodes_tiles (base target : List String) :
    Tiles base target 0 0 (wholeOpcodes base target) := by
  have one : ∀ tag, Opcode.Fits
      { tag := tag
        baseStart := 0
        baseEnd := base.length
        targetStart := 0
        targetEnd := target.length } base target →
      Tiles base target 0 0
        [{ tag := tag
           baseStart := 0
           baseEnd := base.length
           targetStart := 0
           targetEnd := target.length }] :=
    fun tag fits => Tiles.step (Nat.zero_le _) (Nat.zero_le _) fits .done
  unfold wholeOpcodes
  dsimp only
  split
  · next same =>
      subst same
      split
      · next empty =>
          subst empty
          exact .done
      · exact one .equal rfl
  · split
    · next empty => exact one .insert (by subst empty; rfl)
    · split
      · next empty => exact one .delete (by subst empty; rfl)
      · exact one .replace trivial

def version (id reportMd : String) : ReportVersionRecord :=
  { id := id
    runId := none
    scope :=
      { projectId := "project"
        topicNormalized := "agents"
        competitorLayer := "L1"
        competitorSetHash := "hash" }
    versionNumber := 1
    reportMd := reportMd
    createdAt := 0 }

theorem buildReportVersionDiff_holdsBoth_replaced :
    HoldsBoth
      (buildReportVersionDiff wholeOpcodes (version "second" "c")
        (some (version "first" "a\nb"))) ["a", "b"] ["c"] :=
  buildReportVersionDiff_holdsBoth wholeOpcodes (version "second" "c")
    (some (version "first" "a\nb")) wholeOpcodes_tiles

end ReportDiffExample

end CompetiScope
