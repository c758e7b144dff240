import Mathlib.Data.List.TakeWhile

/-!
# Decimal numerals in names

Names are made of numbers and marks.  A number can be read off its numeral,
also when a mark that is no digit and any text follow.
-/

namespace Foundation

theorem toString_injective {first second : Nat}
    (same : toString first = toString second) : first = second := by
  have digits := congrArg (Nat.ofDigitChars 10 ·.toList 0) same
  simpa using digits

theorem notMem_numeral {mark : Char} (isMark : mark.isDigit = false)
    (number : Nat) : mark ∉ (toString number).toList := by
  intro member
  rw [Nat.toString_eq_ofList_toDigits, String.toList_ofList] at member
  have digit := Nat.isDigit_of_mem_toDigits (by decide) (by decide) member
  rw [isMark] at digit
  exact Bool.noConfusion digit

/-- The numeral ends at the mark. -/
theorem numeral_of_marked {mark : Char} (isMark : mark.isDigit = false)
    {first second : Nat} {rest more : List Char}
    (same : (toString first).toList ++ mark :: rest =
      (toString second).toList ++ mark :: more) :
    first = second := by
  have front : ∀ (number : Nat) (text : List Char),
      ((toString number).toList ++ mark :: text).takeWhile (· ≠ mark) =
        (toString number).toList := by
    intro number text
    have before : ∀ char ∈ (toString number).toList,
        decide (char ≠ mark) = true := by
      intro char member
      refine decide_eq_true fun equal => ?_
      exact notMem_numeral isMark number (equal ▸ member)
    rw [List.takeWhile_append_of_pos before,
      List.takeWhile_cons_of_neg (by simp), List.append_nil]
  have numerals := congrArg (List.takeWhile (· ≠ mark)) same
  rw [front first rest, front second more] at numerals
  exact toString_injective (String.toList_inj.mp numerals)

end Foundation
