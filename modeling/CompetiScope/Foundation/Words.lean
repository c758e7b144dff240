import Mathlib.Data.List.DropRight
import Mathlib.Data.List.Induction
import Mathlib.Data.List.TakeWhile

/-!
# Words and their joined form

The words of a text are its maximal runs of kept values.  Replacing every run
of other values by one mark and trimming the marks at the ends spells the
words out, joined by marks, and the spelling can be taken apart again.
-/

namespace Foundation

universe u

variable {α : Type u}

/-- Every run of dropped values becomes one mark; `inRun` tells that the mark
of the current run is already there. -/
def replaceRuns (drop : α → Bool) (mark : α) (inRun : Bool) :
    List α → List α
  | [] => []
  | value :: text =>
      if drop value then
        if inRun then replaceRuns drop mark true text
        else mark :: replaceRuns drop mark true text
      else value :: replaceRuns drop mark false text

/-- The maximal runs of values that are not dropped. -/
def wordsOf (drop : α → Bool) (text : List α) : List (List α) :=
  (text.splitOnP drop).filter fun word => !word.isEmpty

/-- Without the marks at both ends. -/
def trimMarks [DecidableEq α] (mark : α) (text : List α) : List α :=
  (text.dropWhile (· == mark)).rdropWhile (· == mark)

variable {drop : α → Bool} {mark : α}

/-- A value of the text, or the mark. -/
theorem mem_replaceRuns {inRun : Bool} {text : List α} {value : α}
    (member : value ∈ replaceRuns drop mark inRun text) :
    value = mark ∨ value ∈ text ∧ drop value = false := by
  induction text generalizing inRun with
  | nil => cases member
  | cons first text induction =>
      have later : ∀ inRun, value ∈ replaceRuns drop mark inRun text →
          value = mark ∨ value ∈ first :: text ∧ drop value = false :=
        fun inRun inside => (induction inside).imp_right fun known =>
          ⟨List.mem_cons_of_mem first known.1, known.2⟩
      rw [replaceRuns] at member
      split at member
      · split at member
        · exact later true member
        · rcases List.mem_cons.mp member with isMark | inside
          · exact .inl isMark
          · exact later true inside
      · next kept =>
          rcases List.mem_cons.mp member with rfl | inside
          · exact .inr ⟨List.mem_cons_self, Bool.of_not_eq_true kept⟩
          · exact later false inside

theorem wordsOf_nil : wordsOf drop ([] : List α) = [] := by
  simp [wordsOf]

theorem wordsOf_append_cons {value : α} (dropped : drop value = true)
    (front back : List α) :
    wordsOf drop (front ++ value :: back) =
      wordsOf drop front ++ wordsOf drop back := by
  rw [wordsOf, List.splitOnP_append_cons front back dropped,
    List.filter_append]
  rfl

theorem wordsOf_cons {value : α} (dropped : drop value = true)
    (text : List α) : wordsOf drop (value :: text) = wordsOf drop text := by
  have split := wordsOf_append_cons dropped [] text
  rwa [wordsOf_nil] at split

theorem wordsOf_word {word : List α} (filled : word ≠ [])
    (kept : ∀ value ∈ word, drop value = false) :
    wordsOf drop word = [word] := by
  rw [wordsOf, List.splitOnP_eq_singleton kept]
  simp [filled]

theorem mem_wordsOf {text word : List α} (member : word ∈ wordsOf drop text) :
    word ≠ [] := by
  have filled := List.of_mem_filter member
  simpa using filled

/-- Nothing that is dropped is in a word. -/
theorem kept_of_mem_wordsOf {text word : List α}
    (member : word ∈ wordsOf drop text) :
    ∀ value ∈ word, drop value = false := by
  have general : ∀ text front : List α,
      (∀ value ∈ front, drop value = false) →
        ∀ word ∈ wordsOf drop (front ++ text),
          ∀ value ∈ word, drop value = false := by
    intro text
    induction text with
    | nil =>
        intro front kept word member
        rw [List.append_nil] at member
        by_cases filled : front = []
        · rw [filled, wordsOf_nil] at member
          cases member
        · rw [wordsOf_word filled kept, List.mem_singleton] at member
          rw [member]
          exact kept
    | cons value text induction =>
        intro front kept word member
        by_cases dropped : drop value = true
        · rw [wordsOf_append_cons dropped] at member
          rcases List.mem_append.mp member with inFront | inText
          · by_cases filled : front = []
            · rw [filled, wordsOf_nil] at inFront
              cases inFront
            · rw [wordsOf_word filled kept, List.mem_singleton] at inFront
              rw [inFront]
              exact kept
          · exact induction [] (fun _ inNil => nomatch inNil) word inText
        · rw [List.append_cons] at member
          apply induction (front ++ [value]) ?_ word member
          intro other inGrown
          rcases List.mem_append.mp inGrown with inFront | isValue
          · exact kept other inFront
          · rw [List.mem_singleton.mp isValue]
            exact Bool.of_not_eq_true dropped
  exact general text [] (fun _ inNil => nomatch inNil) word member

/-! ## Replacing runs keeps the words -/

/-- Replacing runs of values that are dropped anyway keeps the words. -/
theorem wordsOf_replaceRuns {blank : α → Bool}
    (dropsBlank : ∀ value, blank value = true → drop value = true)
    (dropsMark : drop mark = true) (text front : List α) :
    wordsOf drop (front ++ replaceRuns blank mark false text) =
        wordsOf drop (front ++ text) ∧
      wordsOf drop (replaceRuns blank mark true text) =
        wordsOf drop text := by
  induction text generalizing front with
  | nil => exact ⟨rfl, rfl⟩
  | cons value text induction =>
      by_cases isBlank : blank value = true
      · have dropped := dropsBlank value isBlank
        have rest := (induction []).2
        constructor
        · rw [replaceRuns, if_pos isBlank, if_neg (by decide),
            wordsOf_append_cons dropsMark, wordsOf_append_cons dropped, rest]
        · rw [replaceRuns, if_pos isBlank, if_pos rfl, wordsOf_cons dropped,
            rest]
      · constructor
        · rw [replaceRuns, if_neg isBlank, List.append_cons,
            (induction (front ++ [value])).1, ← List.append_cons]
        · rw [replaceRuns, if_neg isBlank]
          exact (induction [value]).1

theorem wordsOf_dropWhile {blank : α → Bool}
    (dropsBlank : ∀ value, blank value = true → drop value = true)
    (text : List α) :
    wordsOf drop (text.dropWhile blank) = wordsOf drop text := by
  induction text with
  | nil => rfl
  | cons value text induction =>
      by_cases isBlank : blank value = true
      · rw [List.dropWhile_cons_of_pos isBlank, induction,
          wordsOf_cons (dropsBlank value isBlank)]
      · rw [List.dropWhile_cons_of_neg isBlank]

theorem wordsOf_append_of_dropped (front : List α) {back : List α}
    (dropped : ∀ value ∈ back, drop value = true) :
    wordsOf drop (front ++ back) = wordsOf drop front := by
  induction back generalizing front with
  | nil => rw [List.append_nil]
  | cons value back induction =>
      have rest := induction [] fun other member =>
        dropped other (List.mem_cons_of_mem value member)
      rw [wordsOf_append_cons (dropped value List.mem_cons_self)]
      rw [List.nil_append, wordsOf_nil] at rest
      rw [rest, List.append_nil]

theorem wordsOf_rdropWhile {blank : α → Bool}
    (dropsBlank : ∀ value, blank value = true → drop value = true)
    (text : List α) :
    wordsOf drop (text.rdropWhile blank) = wordsOf drop text := by
  have whole : text.rdropWhile blank ++ text.rtakeWhile blank = text := by
    rw [List.rdropWhile, List.rtakeWhile, ← List.reverse_append,
      List.takeWhile_append_dropWhile, List.reverse_reverse]
  have dropped : ∀ value ∈ text.rtakeWhile blank, drop value = true := by
    intro value member
    exact dropsBlank value (List.mem_rtakeWhile_imp member)
  calc wordsOf drop (text.rdropWhile blank)
      = wordsOf drop (text.rdropWhile blank ++ text.rtakeWhile blank) :=
        (wordsOf_append_of_dropped _ dropped).symm
    _ = wordsOf drop text := by rw [whole]

/-! ## The joined form -/

theorem intercalate_cons (word : List α) (words : List (List α)) :
    [mark].intercalate (word :: words) =
      if words = [] then word
      else word ++ mark :: [mark].intercalate words := by
  cases words with
  | nil => rw [if_pos rfl, List.intercalate_singleton]
  | cons next words =>
      rw [if_neg (List.cons_ne_nil next words), List.intercalate_cons_cons,
        List.append_assoc]
      rfl

theorem intercalate_eq_nil {words : List (List α)}
    (filled : ∀ word ∈ words, word ≠ []) :
    [mark].intercalate words = [] ↔ words = [] := by
  cases words with
  | nil => simp
  | cons word words =>
      have notEmpty := filled word List.mem_cons_self
      rw [intercalate_cons]
      split
      · simp [notEmpty]
      · simp

theorem mem_spelling {words : List (List α)} {value : α}
    (member : value ∈ [mark].intercalate words) :
    value = mark ∨ ∃ word ∈ words, value ∈ word := by
  induction words with
  | nil => cases member
  | cons word words induction =>
      rw [intercalate_cons] at member
      split at member
      · exact .inr ⟨word, List.mem_cons_self, member⟩
      · rcases List.mem_append.mp member with inWord | behind
        · exact .inr ⟨word, List.mem_cons_self, inWord⟩
        · rcases List.mem_cons.mp behind with isMark | later
          · exact .inl isMark
          · refine (induction later).imp_right ?_
            rintro ⟨other, isWord, inOther⟩
            exact ⟨other, List.mem_cons_of_mem word isWord, inOther⟩

/-- The words of a spelling are the words spelled. -/
theorem wordsOf_intercalate {words : List (List α)}
    (dropsMark : drop mark = true) (filled : ∀ word ∈ words, word ≠ [])
    (kept : ∀ word ∈ words, ∀ value ∈ word, drop value = false) :
    wordsOf drop ([mark].intercalate words) = words := by
  induction words with
  | nil => exact wordsOf_nil
  | cons word words induction =>
      have first := wordsOf_word (filled word List.mem_cons_self)
        (kept word List.mem_cons_self)
      have rest := induction
        (fun other member => filled other (List.mem_cons_of_mem word member))
        (fun other member => kept other (List.mem_cons_of_mem word member))
      rw [intercalate_cons]
      split
      · next alone =>
          rw [first, alone]
      · rw [wordsOf_append_cons dropsMark, first, rest]
        rfl

variable [DecidableEq α]

theorem rdropWhile_append_mark (front back : List α) :
    (front ++ back).rdropWhile (· == mark) =
      if back.rdropWhile (· == mark) = [] then front.rdropWhile (· == mark)
      else front ++ back.rdropWhile (· == mark) := by
  induction back using List.reverseRecOn with
  | nil => simp
  | append_singleton back value induction =>
      rw [← List.append_assoc]
      by_cases isMark : (value == mark) = true
      · rw [List.rdropWhile_concat_pos (· == mark) _ _ isMark,
          List.rdropWhile_concat_pos (· == mark) _ _ isMark]
        exact induction
      · rw [List.rdropWhile_concat_neg (· == mark) _ _ isMark,
          List.rdropWhile_concat_neg (· == mark) _ _ isMark,
          if_neg (by simp), List.append_assoc]

theorem rdropWhile_word {word : List α} (dropsMark : drop mark = true)
    (filled : word ≠ []) (kept : ∀ value ∈ word, drop value = false) :
    word.rdropWhile (· == mark) = word := by
  rw [List.rdropWhile_eq_self_iff]
  intro _ isMark
  have last := kept _ (List.getLast_mem filled)
  rw [beq_iff_eq.mp isMark, dropsMark] at last
  cases last

/-- Without the marks at its end, what replacing runs leaves behind a word or
behind a mark is a spelling. -/
theorem rdropWhile_replaceRuns (dropsMark : drop mark = true)
    (text : List α) :
    (∀ front : List α, front ≠ [] →
      (∀ value ∈ front, drop value = false) →
        (front ++ replaceRuns drop mark false text).rdropWhile (· == mark) =
          [mark].intercalate (wordsOf drop (front ++ text))) ∧
      (replaceRuns drop mark true text).rdropWhile (· == mark) =
        [mark].intercalate (wordsOf drop text) := by
  induction text with
  | nil =>
      constructor
      · intro front filled kept
        rw [replaceRuns, List.append_nil, wordsOf_word filled kept,
          List.intercalate_singleton, rdropWhile_word dropsMark filled kept]
      · rw [wordsOf_nil]
        rfl
  | cons value text induction =>
      obtain ⟨behindWord, behindMark⟩ := induction
      by_cases dropped : drop value = true
      · constructor
        · intro front filled kept
          have spelled : ∀ word ∈ wordsOf drop text, word ≠ [] :=
            fun _ member => mem_wordsOf member
          rw [replaceRuns, if_pos dropped, if_neg (by decide),
            wordsOf_append_cons dropped, wordsOf_word filled kept,
            List.singleton_append, intercalate_cons, List.append_cons,
            rdropWhile_append_mark, behindMark]
          simp only [intercalate_eq_nil spelled]
          split
          · rw [List.rdropWhile_concat_pos _ _ _ (by simp),
              rdropWhile_word dropsMark filled kept]
          · rw [List.append_assoc]
            rfl
        · rw [replaceRuns, if_pos dropped, if_pos rfl, wordsOf_cons dropped]
          exact behindMark
      · have keptValue : drop value = false := Bool.of_not_eq_true dropped
        constructor
        · intro front filled kept
          rw [replaceRuns, if_neg dropped, List.append_cons,
            List.append_cons front value text]
          apply behindWord
          · simp
          · intro other member
            rcases List.mem_append.mp member with inFront | isValue
            · exact kept other inFront
            · rw [List.mem_singleton.mp isValue]
              exact keptValue
        · rw [replaceRuns, if_neg dropped]
          apply behindWord [value] (by simp)
          intro other member
          rw [List.mem_singleton.mp member]
          exact keptValue

theorem dropWhile_replaceRuns (dropsMark : drop mark = true)
    (text : List α) (inRun : Bool) :
    (replaceRuns drop mark inRun text).dropWhile (· == mark) =
      replaceRuns drop mark true text := by
  induction text generalizing inRun with
  | nil => rfl
  | cons value text induction =>
      by_cases dropped : drop value = true
      · rw [replaceRuns, if_pos dropped, replaceRuns, if_pos dropped,
          if_pos rfl]
        cases inRun with
        | true => exact induction true
        | false =>
            rw [if_neg (by decide), List.dropWhile_cons_of_pos (by simp)]
            exact induction true
      · have notMark : ¬ (value == mark) = true := by
          intro isMark
          rw [beq_iff_eq.mp isMark] at dropped
          exact dropped dropsMark
        rw [replaceRuns, if_neg dropped, replaceRuns, if_neg dropped,
          List.dropWhile_cons_of_neg (p := (· == mark)) notMark]

/-- Replacing the runs and trimming spells the words. -/
theorem trimMarks_replaceRuns (dropsMark : drop mark = true)
    (text : List α) :
    trimMarks mark (replaceRuns drop mark false text) =
      [mark].intercalate (wordsOf drop text) := by
  rw [trimMarks, dropWhile_replaceRuns dropsMark]
  exact (rdropWhile_replaceRuns dropsMark text).2

end Foundation
