import CompetiScope.Identity.ReaderMarkers
import CompetiScope.Identity.StandingTexts

/-!
# Tokens and what breaks them

No source token goes over white space or another character that no marker has
inside it, so the tokens of texts with such a character between them are those
of each.
-/

namespace CompetiScope

open Foundation

theorem not_matches_of_isSpace {letter char : Char}
    (visible : isSpace letter = false) (space : isSpace char) :
    matchesIgnoreCase letter char = false := by
  by_contra matched
  have isMatch : char = letter ∨ char.toLower = letter ∨
      char.toNat = 0x17F ∨ char.toNat = 0x212A := by
    unfold matchesIgnoreCase at matched
    simp only [Bool.or_eq_false_iff, not_and_or, Bool.not_eq_false,
      decide_eq_true_eq, Bool.and_eq_true] at matched
    tauto
  have notWide : char.toNat ≠ 0x17F ∧ char.toNat ≠ 0x212A ∧
      (char.toNat < 65 ∨ 90 < char.toNat) := by
    unfold isSpace at space
    simp only [Bool.or_eq_true, Bool.and_eq_true, decide_eq_true_eq,
      beq_iff_eq] at space
    omega
  rcases isMatch with same | lower | long | kelvin
  · rw [same, visible] at space
    cases space
  · rcases toLower_eq lower with same | ⟨above, below, -⟩
    · rw [same, visible] at space
      cases space
    · omega
  · exact notWide.1 long
  · exact notWide.2.1 kelvin

/-- No marker has the character inside it. -/
structure BreaksTokens (char : Char) : Prop where
  notLatin : ∀ letter ∈ "source:".toList, matchesIgnoreCase letter char = false
  notChinese : ∀ letter ∈ [Char.ofNat 0x6765, Char.ofNat 0x6E90, ':'],
    matchesIgnoreCase letter char = false
  notToken : isSourceTokenChar char = false
  opensNone : closingBracket char = none
  closesNone : ∀ opening, closingBracket opening ≠ some char

/-- What closes a marker. -/
theorem closing_cases {opening closing : Char}
    (opens : closingBracket opening = some closing) :
    closing = ']' ∨ closing = Char.ofNat 0x3011 := by
  unfold closingBracket at opens
  split at opens
  · exact .inl (Option.some.inj opens).symm
  · split at opens
    · exact .inr (Option.some.inj opens).symm
    · cases opens

theorem breaksTokens_of_isSpace {space : Char} (isBlank : isSpace space) :
    BreaksTokens space := by
  have spelled : ∀ letters : List Char,
      (∀ letter ∈ letters, isSpace letter = false) →
        ∀ letter ∈ letters, matchesIgnoreCase letter space = false :=
    fun letters visible letter member =>
      not_matches_of_isSpace (visible letter member) isBlank
  constructor
  case notLatin => exact spelled _ (by decide)
  case notChinese => exact spelled _ (by decide)
  case notToken =>
    by_contra isToken
    have visible := not_isSpace_of_isSourceTokenChar
      (Bool.of_not_eq_false isToken)
    rw [isBlank] at visible
    cases visible
  case opensNone => exact closingBracket_of_isSpace isBlank
  case closesNone =>
    intro opening opens
    rcases closing_cases opens with rfl | rfl
    · exact absurd isBlank (by decide)
    · exact absurd isBlank (by decide)

theorem prefixIgnoreCase_append_break {letters : List Char} {char : Char}
    (notSpelled : ∀ letter ∈ letters, matchesIgnoreCase letter char = false)
    (text rest : List Char) :
    prefixIgnoreCase letters (text ++ char :: rest) =
      (prefixIgnoreCase letters text).map (· ++ char :: rest) := by
  induction letters generalizing text with
  | nil => rfl
  | cons letter letters induction =>
      rw [List.forall_mem_cons] at notSpelled
      cases text with
      | nil =>
          have failed : prefixIgnoreCase (letter :: letters) (char :: rest) =
              none := by
            rw [prefixIgnoreCase, notSpelled.1]
            rfl
          rw [List.nil_append, failed]
          rfl
      | cons first text =>
          rw [List.cons_append, prefixIgnoreCase, prefixIgnoreCase]
          split
          · exact induction notSpelled.2 text
          · rfl

theorem sourceKeyword_append_break {char : Char} (breaks : BreaksTokens char)
    (text rest : List Char) :
    sourceKeyword (text ++ char :: rest) =
      (sourceKeyword text).map (· ++ char :: rest) := by
  have latin := prefixIgnoreCase_append_break breaks.notLatin text rest
  have chinese := prefixIgnoreCase_append_break breaks.notChinese text rest
  unfold sourceKeyword
  rw [latin, chinese]
  cases prefixIgnoreCase "source:".toList text with
  | none => rfl
  | some body => rfl

theorem sourceTokenAt_append_break {other : Char}
    (breaks : BreaksTokens other) (char : Char) (text rest : List Char) :
    sourceTokenAt (char :: text ++ other :: rest) =
      sourceTokenAt (char :: text) := by
  rw [List.cons_append, sourceTokenAt_eq, sourceTokenAt_eq,
    sourceKeyword_append_break breaks]
  cases opens : closingBracket char with
  | none => rfl
  | some closing =>
      cases keyword : sourceKeyword text with
      | none => rfl
      | some body =>
          have taken : (body ++ other :: rest).takeWhile isSourceTokenChar =
              body.takeWhile isSourceTokenChar := by
            rw [List.takeWhile_append]
            split
            · next whole =>
                rw [List.takeWhile_cons_of_neg (by simp [breaks.notToken]),
                  List.append_nil]
                exact (List.IsPrefix.eq_of_length
                  (List.takeWhile_prefix _) whole).symm
            · rfl
          have short : (body.takeWhile isSourceTokenChar).length ≤
              body.length := (List.takeWhile_prefix _).length_le
          have closes : ((body ++ other :: rest).drop
              (body.takeWhile isSourceTokenChar).length).head? =
                some closing ↔
              (body.drop (body.takeWhile isSourceTokenChar).length).head? =
                some closing := by
            rw [List.drop_append_of_le_length short, List.head?_append]
            cases found : (body.drop
                (body.takeWhile isSourceTokenChar).length).head? with
            | none =>
                have apart : other ≠ closing := by
                  rintro rfl
                  exact breaks.closesNone char opens
                simp [apart]
            | some next => rfl
          have lengths : (text ++ other :: rest).length -
              (body ++ other :: rest).length = text.length - body.length := by
            rw [List.length_append, List.length_append]
            omega
          dsimp only [Option.map_some]
          rw [taken, lengths]
          simp only [closes]

/-- The tokens on both sides of a break. -/
theorem sourceTokensFrom_append_break {other : Char}
    (breaks : BreaksTokens other) (rest : List Char) {text : List Char}
    {skip : Nat} (inside : skip ≤ text.length) :
    sourceTokensFrom skip (text ++ other :: rest) =
      sourceTokensFrom skip text ++ sourceTokensFrom 0 rest := by
  induction text generalizing skip with
  | nil =>
      obtain rfl := Nat.le_zero.mp inside
      have noToken : sourceTokenAt (other :: rest) = none := by
        rw [sourceTokenAt_eq, breaks.opensNone]
      have behind : sourceTokensFrom 0 (other :: rest) =
          sourceTokensFrom 0 rest := by
        rw [sourceTokensFrom, noToken]
      rw [List.nil_append, behind]
      rfl
  | cons char text induction =>
      cases skip with
      | succ skip =>
          rw [List.length_cons, Nat.succ_le_succ_iff] at inside
          exact induction inside
      | zero =>
          have same := sourceTokenAt_append_break breaks char text rest
          rw [List.cons_append] at same ⊢
          rw [sourceTokensFrom, sourceTokensFrom, same]
          cases found : sourceTokenAt (char :: text) with
          | none => exact induction (Nat.zero_le _)
          | some token =>
              obtain ⟨closing, keyword, more, -, whole, -, -, length⟩ :=
                sourceTokenAt_spec found
              have short : token.2 - 1 ≤ text.length := by
                rw [whole, length]
                simp only [List.length_append, List.length_cons]
                omega
              dsimp only
              rw [induction short]
              rfl

/-- The tokens on both sides of white space. -/
theorem sourceTokensFrom_append_space {space : Char} (isBlank : isSpace space)
    (rest : List Char) {text : List Char} {skip : Nat}
    (inside : skip ≤ text.length) :
    sourceTokensFrom skip (text ++ space :: rest) =
      sourceTokensFrom skip text ++ sourceTokensFrom 0 rest :=
  sourceTokensFrom_append_break (breaksTokens_of_isSpace isBlank) rest inside

/-- White space at the end holds no token. -/
theorem sourceTokensFrom_rdropWhile (text : List Char) :
    sourceTokensFrom 0 (text.rdropWhile isSpace) = sourceTokensFrom 0 text := by
  have whole : text.rdropWhile isSpace ++ text.rtakeWhile isSpace = text :=
    List.rdropWhile_append_rtakeWhile
  have isBlank : ∀ char ∈ text.rtakeWhile isSpace, isSpace char = true :=
    fun char member => List.mem_rtakeWhile_imp member
  revert whole isBlank
  generalize text.rdropWhile isSpace = front
  generalize text.rtakeWhile isSpace = blank
  rintro rfl isBlank
  cases blank with
  | nil => rw [List.append_nil]
  | cons space blank =>
      rw [List.forall_mem_cons] at isBlank
      rw [sourceTokensFrom_append_space isBlank.1 blank (Nat.zero_le _)]
      have noTokens : sourceTokensFrom 0 blank = [] := by
        have spaces := isBlank.2
        clear isBlank
        induction blank with
        | nil => rfl
        | cons char blank induction =>
            rw [List.forall_mem_cons] at spaces
            rw [sourceTokensFrom, sourceTokenAt_eq,
              closingBracket_of_isSpace spaces.1]
            exact induction spaces.2
      rw [noTokens, List.append_nil]

end CompetiScope
