import CompetiScope.BusinessIntel.ReportSections
import CompetiScope.Foundation.Blocks
import CompetiScope.Foundation.LineSections

/-!
# The release repair section of a report

A report is cut at the lines that start a section of level two.  The section
of the follow-up repairs is removed; the comment that marks a section stands
in front of its heading.
-/

namespace CompetiScope

open Foundation

/-- `RELEASE_REPAIR_HEADING`. -/
def releaseRepairHeading : List Char :=
  "Release Gate Follow-up Repairs".toList

/-- `str.rstrip()`. -/
def trimRight (text : List Char) : List Char :=
  text.rdropWhile isSpace

/-! ## Sections of level two -/

/-- `^##\s+` at the start of a line. -/
def startsSection : List Char → Bool
  | first :: second :: third :: _ =>
      first = '#' && second = '#' && isSpace third
  | _ => false

/-- `\s*$`. -/
def endsLine (text : List Char) : Bool :=
  '\n' ∈ text.takeWhile isSpace || text.all isSpace

/-- `^##\s+`, a heading without white space in front, and `\s*$`. -/
def hasHeading (heading text : List Char) : Bool :=
  let rest := stripLeft (text.drop 2)
  startsSection text && heading.isPrefixOf rest &&
    endsLine (rest.drop heading.length)

/-- The text in front of the sections, and the sections. -/
def reportPieces (text : List Char) : List Char × List (List Char) :=
  sectionsFrom startsSection true text

/-! ## Removing the section -/

/-- `remove_release_repair_section`.  A match of the pattern is a section: it
ends where the next one starts. -/
def removeReleaseRepairSection (reportMd : List Char) : List Char :=
  let pieces := reportPieces (trimRight reportMd)
  trimRight (pieces.1 ++
    (pieces.2.filter fun text =>
      !hasHeading releaseRepairHeading text).flatten)

/-- The report of `apply_release_gate_warning_report_repair`, for a gate that
is not passed or has targets. -/
def applyWarningReportRepair (shouldRecordStatus : Bool)
    (reportMd : List Char) : List Char :=
  if shouldRecordStatus then removeReleaseRepairSection reportMd
  else reportMd

/-- The text that `_attach_release_gate_quality_metadata` leaves in a version
without an artifact: the gate is evaluated again after a change. -/
def attachedReport (shouldRecordStatus afterGate : Bool)
    (reportMd : List Char) : List Char :=
  let repaired := applyWarningReportRepair shouldRecordStatus reportMd
  if repaired ≠ reportMd ∧ afterGate = true then
    applyWarningReportRepair shouldRecordStatus repaired
  else repaired

/-! ## Sections with their markers -/

/-- The end of a text that marks the section behind it: the last line, if it
is a marker, with the blank lines behind it. -/
def markerOf (text : List Char) : List Char :=
  let visible := trimRight text
  let line := visible.rtakeWhile (· ≠ '\n')
  if (parseReportSectionMarker line).isSome then
    line ++ text.rtakeWhile isSpace
  else []

def withoutMarker (text : List Char) : List Char :=
  text.take (text.length - (markerOf text).length)

/-- The preamble and the sections, each behind its marker, and whether it is
the one of the follow-up repairs. -/
def markedSections (isRepair : Bool) (marker text : List Char) :
    List (List Char) → List (Bool × List Char)
  | [] => [(isRepair, marker ++ text)]
  | next :: sections =>
      (isRepair, marker ++ withoutMarker text) ::
        markedSections (hasHeading releaseRepairHeading next) (markerOf text)
          next sections

/-- All of a report but the sections of the follow-up repairs. -/
def otherSections (reportMd : List Char) : List (List Char) :=
  let pieces := reportPieces (trimRight reportMd)
  ((markedSections false [] pieces.1 pieces.2).filter fun entry =>
    !entry.1).map (·.2)

end CompetiScope
