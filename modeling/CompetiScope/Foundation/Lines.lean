import CompetiScope.Foundation.Blocks

/-!
# Lines of a text

Lines are joined by line feeds.  Where the white space around the whole text
goes depends on its first and on its last line only.
-/

namespace Foundation

/-- `"\n".join(lines)`. -/
def joinLines (lines : List (List Char)) : List Char :=
  List.intercalate ['\n'] lines

variable {line first : List Char} {lines : List (List Char)} {char : Char}

theorem joinLines_cons_cons (second : List Char) :
    joinLines (first :: second :: lines) =
      first ++ '\n' :: joinLines (second :: lines) := by
  unfold joinLines
  rw [List.intercalate_cons_cons, List.append_assoc]
  rfl

theorem joinLines_singleton : joinLines [line] = line := by
  simp [joinLines, List.intercalate]

end Foundation
