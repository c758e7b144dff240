import CompetiScope.Foundation.Slices
import CompetiScope.Foundation.Text

/-!
# Blocks of a text

Texts without white space around them, joined by a gap.  Joining is
associative, and a text that is cut inside its gaps is joined again from the
stripped slices.
-/

namespace Foundation

/-- White space only. -/
def Blank (text : List Char) : Prop :=
  ∀ char ∈ text, isSpace char = true

/-- No white space at the front and none at the end. -/
def Stripped (text : List Char) : Prop :=
  stripChars text = text

theorem stripped_stripChars (text : List Char) : Stripped (stripChars text) :=
  stripChars_stripChars text

theorem Blank.append {first second : List Char} (isFirst : Blank first)
    (isSecond : Blank second) : Blank (first ++ second) := by
  intro char member
  rcases List.mem_append.mp member with inFirst | inSecond
  · exact isFirst char inFirst
  · exact isSecond char inSecond

theorem stripped_nil : Stripped [] :=
  rfl

theorem stripLeft_blank_append {blank : List Char} (isBlank : Blank blank)
    (text : List Char) : stripLeft (blank ++ text) = stripLeft text :=
  List.dropWhile_append_of_pos isBlank

/-- The white space around a text, and the text between. -/
theorem exists_stripChars (text : List Char) :
    ∃ before after, Blank before ∧ Blank after ∧
      before ++ stripChars text ++ after = text := by
  refine ⟨text.takeWhile isSpace, (stripLeft text).rtakeWhile isSpace,
    fun char member => List.mem_takeWhile_imp member,
    fun char member => List.mem_rtakeWhile_imp member, ?_⟩
  have back : stripChars text ++ (stripLeft text).rtakeWhile isSpace =
      stripLeft text :=
    List.rdropWhile_append_rtakeWhile
  rw [List.append_assoc, back]
  exact List.takeWhile_append_dropWhile

/-- Two visible ends. -/
theorem stripped_iff {text : List Char} :
    Stripped text ↔ (∀ char ∈ text.head?, isSpace char = false) ∧
      ∀ char ∈ text.getLast?, isSpace char = false := by
  constructor
  · intro stripped
    constructor
    · intro char isHead
      have isPrefix : text <+: stripLeft text := by
        have cut : stripChars text <+: stripLeft text :=
          List.rdropWhile_prefix isSpace (stripLeft text)
        rwa [stripped] at cut
      have visible := List.head?_dropWhile_not isSpace text
      obtain ⟨rest, whole⟩ := isPrefix
      have same : (stripLeft text).head? = some char := by
        rw [← whole, List.head?_append, isHead]
        rfl
      unfold stripLeft at same
      rw [same] at visible
      exact visible
    · intro char isLast
      have visible := List.head?_dropWhile_not isSpace (stripLeft text).reverse
      rw [← stripped, stripChars, List.getLast?_reverse] at isLast
      unfold stripLeft at isLast visible
      rw [isLast] at visible
      exact visible
  · rintro ⟨front, back⟩
    have left : stripLeft text = text := by
      cases text with
      | nil => rfl
      | cons first text =>
          exact List.dropWhile_cons_of_neg (by simp [front first rfl])
    unfold Stripped stripChars
    rw [left]
    have right : stripLeft text.reverse = text.reverse := by
      rw [← List.head?_reverse] at back
      cases reversed : text.reverse with
      | nil => rfl
      | cons last text =>
          rw [reversed] at back
          exact List.dropWhile_cons_of_neg (by simp [back last rfl])
    rw [right, List.reverse_reverse]

theorem blank_of_stripChars {text : List Char} (none : stripChars text = []) :
    Blank text := by
  obtain ⟨before, after, isBefore, isAfter, whole⟩ := exists_stripChars text
  rw [none, List.append_nil] at whole
  rw [← whole]
  exact isBefore.append isAfter

/-- White space around a stripped text is what stripping removes. -/
theorem stripChars_around {before text after : List Char}
    (isBefore : Blank before) (isAfter : Blank after)
    (stripped : Stripped text) :
    stripChars (before ++ text ++ after) = text := by
  cases text with
  | nil =>
      have left : stripLeft (before ++ [] ++ after) = [] := by
        apply List.dropWhile_eq_nil_iff.mpr
        rw [List.append_nil]
        exact isBefore.append isAfter
      unfold stripChars
      rw [left]
      rfl
  | cons first text =>
      have ends := stripped_iff.mp stripped
      have left : stripLeft (before ++ (first :: text) ++ after) =
          (first :: text) ++ after := by
        rw [List.append_assoc, stripLeft_blank_append isBefore]
        exact List.dropWhile_cons_of_neg (by simp [ends.1 first rfl])
      have right : stripLeft (first :: text).reverse =
          (first :: text).reverse := by
        have fixed : stripLeft (first :: text) = first :: text :=
          List.dropWhile_cons_of_neg (by simp [ends.1 first rfl])
        unfold Stripped stripChars at stripped
        rw [fixed] at stripped
        rw [← List.reverse_inj, stripped, List.reverse_reverse]
      unfold stripChars
      rw [left, List.reverse_append, stripLeft_blank_append
        (fun char member => isAfter char (List.mem_reverse.mp member)), right,
        List.reverse_reverse]

/-- What is stripped around a stripped text is cut off its surroundings. -/
theorem exists_stripChars_core {core : List Char} (stripped : Stripped core)
    (filled : core ≠ []) (front back : List Char) :
    ∃ before after, before <:+ front ∧ after <+: back ∧
      stripChars (front ++ core ++ back) = before ++ core ++ after := by
  refine ⟨stripLeft front, back.rdropWhile isSpace,
    List.dropWhile_suffix isSpace, List.rdropWhile_prefix isSpace back, ?_⟩
  have ends := stripped_iff.mp stripped
  have inner : Stripped
      (stripLeft front ++ core ++ back.rdropWhile isSpace) := by
    apply stripped_iff.mpr
    constructor
    · intro char isHead
      rw [List.append_assoc, List.head?_append] at isHead
      have visible := List.head?_dropWhile_not isSpace front
      unfold stripLeft at isHead
      cases found : (front.dropWhile isSpace).head? with
      | some first =>
          rw [found] at isHead visible
          cases isHead
          exact visible
      | none =>
          rw [found, Option.none_or,
            List.head?_append_of_ne_nil _ filled] at isHead
          exact ends.1 char isHead
    · intro char isLast
      rw [List.getLast?_append] at isLast
      cases found : (back.rdropWhile isSpace).getLast? with
      | some last =>
          rw [found] at isLast
          cases isLast
          have visible := List.head?_dropWhile_not isSpace back.reverse
          rw [List.rdropWhile, List.getLast?_reverse] at found
          rw [found] at visible
          exact visible
      | none =>
          rw [found, Option.none_or,
            List.getLast?_append_of_ne_nil _ filled] at isLast
          exact ends.2 char isLast
  have whole : front ++ core ++ back = front.takeWhile isSpace ++
      (stripLeft front ++ core ++ back.rdropWhile isSpace) ++
      back.rtakeWhile isSpace := by
    calc front ++ core ++ back
        = (front.takeWhile isSpace ++ front.dropWhile isSpace) ++ core ++
            (back.rdropWhile isSpace ++ back.rtakeWhile isSpace) := by
          rw [List.takeWhile_append_dropWhile,
            List.rdropWhile_append_rtakeWhile]
      _ = _ := by simp only [stripLeft, List.append_assoc]
  rw [whole]
  exact stripChars_around (fun char member => List.mem_takeWhile_imp member)
    (fun char member => List.mem_rtakeWhile_imp member) inner

end Foundation
