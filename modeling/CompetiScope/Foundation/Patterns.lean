import Mathlib.Data.List.TakeWhile
import Mathlib.Data.List.Basic

/-!
# Patterns with word boundaries

Regular expressions without captures, as a backtracking matcher reads them:
the matches at a place come in the order in which they are tried.  Whether a
text is accepted depends on what stands around it through one letter on each
side.
-/

namespace Foundation

/-- A pattern; the repetitions are greedy and of single characters. -/
inductive Pattern where
  | chars (test : Char → Bool)
  | sequence (first second : Pattern)
  | either (first second : Pattern)
  | optional (pattern : Pattern)
  | repeated (least : Nat) (most : Option Nat) (test : Char → Bool)
  | boundary
  | notBehind
  | notAhead

namespace Pattern

/-- A text, one character after another. -/
def spelled (matchesChar : Char → Char → Bool) : List Char → Pattern
  | [] => .repeated 0 (some 0) fun _ => false
  | [char] => .chars (matchesChar char)
  | char :: text => .sequence (.chars (matchesChar char))
      (spelled matchesChar text)

/-- The first alternative that matches. -/
def anyOf (first : Pattern) : List Pattern → Pattern
  | [] => first
  | second :: patterns => .either first (anyOf second patterns)

/-- How many characters a repetition takes at most. -/
def runLength (most : Option Nat) (test : Char → Bool) (text : List Char) :
    Nat :=
  match most with
  | none => (text.takeWhile test).length
  | some most => min (text.takeWhile test).length most

section Matching

variable (word : Char → Bool)

/-- The text starts with a word character. -/
def wordHead : List Char → Bool
  | [] => false
  | char :: _ => word char

/-- A word character stands in front of what follows the text. -/
def wordLast (before : Bool) : List Char → Bool
  | [] => before
  | char :: text => wordLast (word char) text

/-- The matches at a place, with the text behind each, in the order in which
they are tried. -/
def splits : Pattern → Bool → List Char → List (List Char × List Char)
  | .chars _, _, [] => []
  | .chars test, _, char :: text => if test char then [([char], text)] else []
  | .sequence first second, before, text =>
      (splits first before text).flatMap fun front =>
        (splits second (wordLast word before front.1) front.2).map fun back =>
          (front.1 ++ back.1, back.2)
  | .either first second, before, text =>
      splits first before text ++ splits second before text
  | .optional pattern, before, text =>
      splits pattern before text ++ [([], text)]
  | .repeated least most test, _, text =>
      ((List.range (runLength most test text + 1)).reverse.filter
        fun length => least ≤ length).map text.splitAt
  | .boundary, before, text =>
      if before = wordHead word text then [] else [([], text)]
  | .notBehind, before, text => if before then [] else [([], text)]
  | .notAhead, _, text => if wordHead word text then [] else [([], text)]

/-- `re.search`: some text is accepted somewhere. -/
def search (pattern : Pattern) : Bool → List Char → Bool
  | before, [] => ! (splits word pattern before []).isEmpty
  | before, char :: text =>
      ! (splits word pattern before (char :: text)).isEmpty ||
        search pattern (word char) text

/-- `re.finditer` for a pattern without empty matches: the places where each
match starts and stops; `skip` characters belong to the last match. -/
def spans (pattern : Pattern) (place skip : Nat) :
    Bool → List Char → List (Nat × Nat)
  | _, [] => []
  | before, char :: text =>
      match skip with
      | skip + 1 => spans pattern (place + 1) skip (word char) text
      | 0 =>
          match (splits word pattern before (char :: text)).head? with
          | none => spans pattern (place + 1) 0 (word char) text
          | some (found, _) =>
              (place, place + found.length) ::
                spans pattern (place + 1) (found.length - 1) (word char) text

/-- `re.sub` for a pattern without empty matches; `skip` characters belong to
the last match. -/
def replaceMatches (pattern : Pattern) (replacement : List Char)
    (skip : Nat) : Bool → List Char → List Char
  | _, [] => []
  | before, char :: text =>
      match skip with
      | skip + 1 => replaceMatches pattern replacement skip (word char) text
      | 0 =>
          match (splits word pattern before (char :: text)).head? with
          | none => char :: replaceMatches pattern replacement 0 (word char) text
          | some (found, _) =>
              replacement ++ replaceMatches pattern replacement
                (found.length - 1) (word char) text

variable {word}

/-- A character comes from the text or from a replacement. -/
theorem mem_replaceMatches {pattern : Pattern} {replacement : List Char}
    {skip : Nat} {before : Bool} {text : List Char} {char : Char}
    (member : char ∈ replaceMatches word pattern replacement skip before text) :
    char ∈ text ∨ char ∈ replacement := by
  induction text generalizing skip before with
  | nil =>
      rw [replaceMatches] at member
      exact .inl member
  | cons head text induction =>
      have later : ∀ {skip},
          char ∈ replaceMatches word pattern replacement skip (word head) text →
            char ∈ head :: text ∨ char ∈ replacement := by
        intro skip inRest
        exact (induction inRest).imp_left (List.mem_cons_of_mem head)
      rw [replaceMatches.eq_def] at member
      dsimp only at member
      cases skip with
      | succ skip => exact later member
      | zero =>
          dsimp only at member
          split at member
          · rcases List.mem_cons.mp member with rfl | inRest
            · exact .inl List.mem_cons_self
            · exact later inRest
          · rcases List.mem_append.mp member with inside | inRest
            · exact .inr inside
            · exact later inRest

end Matching

end Pattern

end Foundation
