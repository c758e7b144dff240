import CompetiScope.Enterprise.ReportDiff
import CompetiScope.Foundation.Lines

/-!
# Joined lines

What splitting at line boundaries gives back of lines that are joined by line
feeds.
-/

namespace CompetiScope

open Foundation

/-- No line boundary. -/
def OneLine (line : List Char) : Prop :=
  ∀ char ∈ line, isLineBoundary char = false

instance (line : List Char) : Decidable (OneLine line) := by
  unfold OneLine
  infer_instance

theorem splitLinesFrom_cons {char : Char} (inner : isLineBoundary char = false)
    (line text : List Char) :
    splitLinesFrom line (char :: text) = splitLinesFrom (line ++ [char]) text := by
  have notReturn : char ≠ '\r' := by
    rintro rfl
    exact absurd inner (by decide)
  rw [splitLinesFrom.eq_3 line char text
    fun _ isReturn => absurd isReturn notReturn, inner]
  rfl

theorem splitLinesFrom_append {rest : List Char} (oneLine : OneLine rest)
    (line text : List Char) :
    splitLinesFrom line (rest ++ text) = splitLinesFrom (line ++ rest) text := by
  induction rest generalizing line with
  | nil => rw [List.nil_append, List.append_nil]
  | cons char rest induction =>
      unfold OneLine at oneLine
      rw [List.forall_mem_cons] at oneLine
      rw [List.cons_append, splitLinesFrom_cons oneLine.1,
        induction oneLine.2, List.append_assoc]
      rfl

/-- A line feed ends a line. -/
theorem splitLinesFrom_newline (line text : List Char) :
    splitLinesFrom line ('\n' :: text) = line :: splitLinesFrom [] text := by
  rw [splitLinesFrom.eq_3 line '\n' text fun _ isReturn => by cases isReturn]
  rfl

/-- Lines that are joined are the lines of the text, unless the last of them
is empty. -/
theorem splitLinesFrom_joinLines {lines : List (List Char)}
    (oneLine : ∀ line ∈ lines, OneLine line)
    (filled : ∀ line ∈ lines.getLast?, line ≠ []) :
    splitLinesFrom [] (joinLines lines) = lines := by
  induction lines with
  | nil => rfl
  | cons line lines induction =>
      rw [List.forall_mem_cons] at oneLine
      cases lines with
      | nil =>
          have whole := splitLinesFrom_append oneLine.1 [] []
          rw [List.append_nil, List.nil_append] at whole
          rw [joinLines_singleton, whole, splitLinesFrom,
            if_neg (filled line rfl)]
      | cons second lines =>
          rw [joinLines_cons_cons, splitLinesFrom_append oneLine.1,
            List.nil_append, splitLinesFrom_newline,
            induction oneLine.2 fun last isLast =>
              filled last (by rw [List.getLast?_cons_cons]; exact isLast)]

/-- An empty line at the end is lost. -/
theorem splitLinesFrom_joinLines_empty {lines : List (List Char)}
    (oneLine : ∀ line ∈ lines, OneLine line) :
    splitLinesFrom [] (joinLines (lines ++ [[]])) = lines := by
  induction lines with
  | nil => rfl
  | cons line lines induction =>
      rw [List.forall_mem_cons] at oneLine
      obtain ⟨second, rest, isRest⟩ : ∃ second rest,
          lines ++ [[]] = second :: rest :=
        List.exists_cons_of_ne_nil (by simp)
      have later := induction oneLine.2
      rw [isRest] at later
      rw [List.cons_append, isRest, joinLines_cons_cons,
        splitLinesFrom_append oneLine.1, List.nil_append,
        splitLinesFrom_newline, later]

theorem oneLine_of_splitLinesFrom {line text part : List Char}
    (oneLine : OneLine line) (member : part ∈ splitLinesFrom line text) :
    OneLine part := by
  have ofNil : OneLine [] := List.forall_mem_nil _
  induction line, text using splitLinesFrom.induct with
  | case1 => cases member
  | case2 line filled =>
      rw [splitLinesFrom, if_neg filled] at member
      rwa [List.mem_singleton.mp member]
  | case3 line text induction =>
      rw [splitLinesFrom] at member
      rcases List.mem_cons.mp member with rfl | later
      · exact oneLine
      · exact induction ofNil later
  | case4 line char text notReturn boundary induction =>
      rw [splitLinesFrom.eq_3 _ _ _ notReturn, if_pos boundary] at member
      rcases List.mem_cons.mp member with rfl | later
      · exact oneLine
      · exact induction ofNil later
  | case5 line char text notReturn inner induction =>
      rw [splitLinesFrom.eq_3 _ _ _ notReturn, if_neg inner] at member
      apply induction _ member
      intro other isOther
      rcases List.mem_append.mp isOther with early | late
      · exact oneLine other early
      · rw [List.mem_singleton.mp late]
        exact Bool.eq_false_of_not_eq_true inner

end CompetiScope
