import CompetiScope.Identity.TokenNormalisation

/-!
# Source markers as a reader sees them

A reader takes `[ Source : x ]` for a marker of `x`.  The scanners of the
program are stricter about blanks and colons.  Both pass over what lies inside
of a match, so a marker they miss at its own place starts inside of the token
of another.
-/

namespace CompetiScope

open Foundation

/-! ## What a reader sees -/

/-- The text behind the keyword and the colon of a marker. -/
def readerKeyword (text : List Char) : Option (List Char) :=
  match (prefixIgnoreCase "source".toList text).or
      (prefixIgnoreCase [Char.ofNat 0x6765, Char.ofNat 0x6E90] text) with
  | none => none
  | some rest =>
      match stripLeft rest with
      | [] => none
      | char :: body =>
          if char = ':' ∨ char.toNat = 0xFF1A then some body else none

/-- The token of the marker a reader sees at the front. -/
def readerTokenAt : List Char → Option (List Char)
  | [] => none
  | char :: text =>
      match closingBracket char, readerKeyword (stripLeft text) with
      | some closing, some body =>
          let inside := body.takeWhile (· ≠ closing)
          if stripChars inside ≠ [] ∧ inside.length < body.length then
            some (stripChars inside)
          else none
      | _, _ => none

/-- The token `ANY_SOURCE_TOKEN_RE` finds at the front. -/
def scannedTokenAt (text : List Char) : Option (List Char) :=
  (anySourceTokenAt text).map (·.1)

example :
    readerTokenAt "[ Source : s1 ]".toList = some "s1".toList ∧
      scannedTokenAt "[ Source : s1 ]".toList = none := by
  decide

/-! ## Scans -/

/-- A suffix of a text lies behind its front, or starts in it. -/
theorem suffix_drop_or_head {text suffix : List Char}
    (isSuffix : suffix <:+ text) (count : Nat) :
    suffix <:+ text.drop count ∨
      ∃ char rest, suffix = char :: rest ∧ char ∈ text.take count := by
  by_cases behind : suffix.length ≤ (text.drop count).length
  · exact .inl (List.suffix_of_suffix_length_le isSuffix
      (List.drop_suffix count text) behind)
  · obtain ⟨front, rfl⟩ := isSuffix
    rw [List.length_drop, List.length_append] at behind
    cases suffix with
    | nil => exact (behind (Nat.zero_le _)).elim
    | cons char rest =>
        refine .inr ⟨char, rest, rfl, ?_⟩
        rw [List.take_append, List.mem_append]
        right
        rw [List.length_cons] at behind
        have positive : count - front.length ≠ 0 := by omega
        obtain ⟨less, isSucc⟩ := Nat.exists_eq_succ_of_ne_zero positive
        rw [isSucc]
        exact List.mem_cons_self

theorem sourceTokenAt_eq {char : Char} {text : List Char} :
    sourceTokenAt (char :: text) =
      match closingBracket char, sourceKeyword text with
      | some closing, some body =>
          let token := body.takeWhile isSourceTokenChar
          if token ≠ [] ∧ (body.drop token.length).head? = some closing then
            some (token,
              1 + (text.length - body.length) + token.length + 1)
          else none
      | _, _ => none := rfl

theorem closingBracket_of_inner {char : Char} (inner : isInner char) :
    closingBracket char = none := by
  cases opens : closingBracket char with
  | none => rfl
  | some closing =>
      rw [(closingBracket_not_inner opens).1] at inner
      cases inner

/-- The bracket that closes a marker opens none. -/
theorem closingBracket_of_closing {opening closing : Char}
    (opens : closingBracket opening = some closing) :
    closingBracket closing = none := by
  unfold closingBracket at opens
  split at opens
  · cases opens
    decide
  · split at opens
    · cases opens
      decide
    · cases opens

theorem isInner_of_isSourceTokenChar {char : Char}
    (isToken : isSourceTokenChar char) : isInner char := by
  apply isInner_of_not_bracket
  intro bracket
  have noToken : ∀ bracket ∈
      ['[', ']', Char.ofNat 0x3010, Char.ofNat 0x3011],
        isSourceTokenChar bracket = false := by
    decide
  rw [noToken char bracket] at isToken
  cases isToken

theorem not_isSpace_of_isSourceTokenChar {char : Char}
    (isToken : isSourceTokenChar char = true) : isSpace char = false := by
  have code : (65 ≤ char.toNat ∧ char.toNat ≤ 90) ∨
      (97 ≤ char.toNat ∧ char.toNat ≤ 122) ∨
      (48 ≤ char.toNat ∧ char.toNat ≤ 57) ∨
      char.toNat ∈ [95, 46, 58, 35, 45, 0x130, 0x131, 0x17F, 0x212A] := by
    simp only [isSourceTokenChar, Char.isAlphanum, isAlpha_eq, isUpper_iff,
      isLower_iff, Char.isDigit, Bool.or_eq_true, Bool.and_eq_true,
      decide_eq_true_eq, ge_iff_le, UInt32.le_iff_toNat_le] at isToken
    rcases isToken with ((((upper | lower) | digit) | listed) | wide)
    · exact Or.inl upper
    · exact Or.inr (Or.inl lower)
    · exact Or.inr (Or.inr (Or.inl digit))
    · refine Or.inr (Or.inr (Or.inr ?_))
      have known : char.toNat ∈ ['_', '.', ':', '#', '-'].map Char.toNat :=
        List.mem_map_of_mem listed
      exact List.mem_append_left [0x130, 0x131, 0x17F, 0x212A] known
    · refine Or.inr (Or.inr (Or.inr ?_))
      exact List.mem_append_right [95, 46, 58, 35, 45] wide
  unfold isSpace
  simp only [List.mem_cons, List.not_mem_nil, or_false] at code
  simp only [Bool.or_eq_false_iff, Bool.and_eq_false_iff,
    decide_eq_false_iff_not, beq_eq_false_iff_ne]
  omega

theorem sourceTokenAt_spec {char : Char} {text token : List Char}
    {length : Nat}
    (found : sourceTokenAt (char :: text) = some (token, length)) :
    ∃ closing keyword rest, closingBracket char = some closing ∧
      text = keyword ++ (token ++ closing :: rest) ∧
        (∀ inner ∈ keyword, isInner inner) ∧
          (∀ inner ∈ token, isInner inner) ∧
            length = (char :: keyword ++ token).length + 1 := by
  rw [sourceTokenAt_eq] at found
  split at found
  · next closing body opens keyword =>
      dsimp only at found
      split at found
      · next closes =>
          cases found
          obtain ⟨spelled, rfl, inner, -⟩ := sourceKeyword_spec keyword
          have shape := (List.prefix_iff_eq_append.mp
            (List.takeWhile_prefix isSourceTokenChar (l := body))).symm
          obtain ⟨rest, dropped⟩ := List.head?_eq_some_iff.mp closes.2
          rw [dropped] at shape
          refine ⟨closing, spelled, rest, opens, ?_, inner, ?_, ?_⟩
          · rw [← shape]
          · intro char member
            exact isInner_of_isSourceTokenChar
              (List.mem_takeWhile_imp member)
          · simp only [List.length_append, List.length_cons]
            omega
      · cases found
  · cases found

/-- A bracket opened inside of a match is opened in its token. -/
theorem mem_token_of_opens {opening closing : Char}
    {keyword token rest : List Char}
    (opens : closingBracket opening = some closing)
    (plain : ∀ inner ∈ keyword, isInner inner) {char : Char}
    (isOpening : closingBracket char ≠ none)
    (inside : char ∈ (keyword ++ (token ++ closing :: rest)).take
      (keyword.length + token.length + 1)) :
    char ∈ token := by
  have taken : (keyword ++ (token ++ closing :: rest)).take
      (keyword.length + token.length + 1) = keyword ++ (token ++ [closing]) := by
    have whole : keyword ++ (token ++ closing :: rest) =
        (keyword ++ (token ++ [closing])) ++ rest := by simp
    rw [whole]
    apply List.take_left'
    simp only [List.length_append, List.length_singleton]
    omega
  rw [taken, List.mem_append, List.mem_append, List.mem_singleton] at inside
  rcases inside with inKeyword | inToken | rfl
  · exact (isOpening (closingBracket_of_inner (plain char inKeyword))).elim
  · exact inToken
  · exact (isOpening (closingBracket_of_closing opens)).elim

/-- The strict scanner finds every marker that matches at its own place. -/
theorem mem_sourceTokensFrom {suffix token : List Char} {length : Nat}
    (found : sourceTokenAt suffix = some (token, length))
    (text : List Char) : ∀ skip, suffix <:+ text.drop skip →
      token ∈ sourceTokensFrom skip text := by
  induction text with
  | nil =>
      intro skip isSuffix
      rw [List.drop_nil, List.suffix_nil] at isSuffix
      rw [isSuffix] at found
      cases found
  | cons char text induction =>
      intro skip isSuffix
      cases skip with
      | succ skip => exact induction skip isSuffix
      | zero =>
          rw [sourceTokensFrom]
          rcases List.suffix_cons_iff.mp isSuffix with rfl | behind
          · rw [found]
            exact List.mem_cons_self
          · split
            · next other size isFound =>
                apply List.mem_cons_of_mem
                apply induction
                rcases suffix_drop_or_head behind (size - 1) with
                  later | ⟨head, rest, rfl, inside⟩
                · exact later
                · exfalso
                  obtain ⟨closing, keyword, more, opens, rfl, plain, inner,
                    rfl⟩ := sourceTokenAt_spec isFound
                  obtain ⟨closes, _, _, isOpening, -⟩ :=
                    sourceTokenAt_spec found
                  have starts : closingBracket head ≠ none := by
                    rw [isOpening]
                    exact Option.some_ne_none closes
                  have inToken := mem_token_of_opens opens plain starts
                    (by simpa [Nat.add_assoc] using inside)
                  rw [closingBracket_of_inner (inner head inToken)]
                    at isOpening
                  cases isOpening
            · exact induction 0 behind

/-- The lenient scanner finds every marker that matches at its own place, or
another with a bracket in its token. -/
theorem mem_sourceMatchesFrom {suffix token : List Char} {length : Nat}
    (found : anySourceTokenAt suffix = some (token, length))
    (text : List Char) : ∀ skip, suffix <:+ text.drop skip →
      (∃ whole, (token, whole) ∈ sourceMatchesFrom skip text) ∨
        ∃ other ∈ sourceMatchesFrom skip text, ∃ char ∈ other.1,
          ¬ isInner char := by
  induction text with
  | nil =>
      intro skip isSuffix
      rw [List.drop_nil, List.suffix_nil] at isSuffix
      rw [isSuffix] at found
      cases found
  | cons char text induction =>
      intro skip isSuffix
      cases skip with
      | succ skip => exact induction skip isSuffix
      | zero =>
          rw [sourceMatchesFrom]
          rcases List.suffix_cons_iff.mp isSuffix with rfl | behind
          · rw [found]
            exact .inl ⟨_, List.mem_cons_self⟩
          · split
            · next other size isFound =>
                rcases suffix_drop_or_head behind (size - 1) with
                  later | ⟨head, rest, rfl, inside⟩
                · rcases induction (size - 1) later with
                    ⟨whole, member⟩ | ⟨match_, member, bracket⟩
                  · exact .inl ⟨whole, List.mem_cons_of_mem _ member⟩
                  · exact .inr ⟨match_, List.mem_cons_of_mem _ member,
                      bracket⟩
                · obtain ⟨closing, keyword, more, opens, rfl, plain, -, -,
                    rfl⟩ := anySourceTokenAt_spec isFound
                  obtain ⟨closes, _, _, isOpening, -⟩ :=
                    anySourceTokenAt_spec found
                  have starts : closingBracket head ≠ none := by
                    rw [isOpening]
                    exact Option.some_ne_none closes
                  have inToken := mem_token_of_opens opens plain starts
                    (by simpa [Nat.add_assoc] using inside)
                  refine .inr ⟨_, List.mem_cons_self, head, inToken, ?_⟩
                  rw [(closingBracket_not_inner isOpening).1]
                  exact Bool.false_ne_true
            · exact induction 0 behind

/-! ## Readers and scanners -/

/-- A token of the lenient scanner with no blank beside it is one of the
strict scanner, when it matches the grammar. -/
theorem sourceTokenAt_of_valid {suffix token : List Char} {length : Nat}
    (found : anySourceTokenAt suffix = some (token, length))
    (valid : isValidSourceToken (String.ofList token))
    (tight : stripChars token = token) :
    sourceTokenAt suffix = some (token, length) := by
  have letters : ∀ char ∈ token, isSourceTokenChar char := by
    unfold isValidSourceToken at valid
    dsimp only at valid
    rw [String.toList_ofList, tight, Bool.and_eq_true,
      List.all_eq_true] at valid
    intro char member
    unfold isSourceTokenChar
    rw [valid.2 char member]
    rfl
  cases suffix with
  | nil => cases found
  | cons char text =>
      obtain ⟨closing, keyword, rest, opens, rfl, -, again, filled, rfl⟩ :=
        anySourceTokenAt_spec found
      have stops : isSourceTokenChar closing = false := by
        cases isToken : isSourceTokenChar closing with
        | false => rfl
        | true =>
            have inner := isInner_of_isSourceTokenChar isToken
            rw [(closingBracket_not_inner opens).2] at inner
            cases inner
      have taken : (token ++ closing :: rest).takeWhile isSourceTokenChar =
          token := by
        rw [List.takeWhile_append_of_pos letters,
          List.takeWhile_cons_of_neg (by simp [stops]), List.append_nil]
      rw [sourceTokenAt_eq, opens, again]
      dsimp only
      rw [taken, List.drop_left, if_pos ⟨filled, rfl⟩]
      simp only [List.length_append, List.length_cons, Option.some.injEq,
        Prod.mk.injEq, true_and]
      omega

theorem eq_colon_of_matches {char : Char}
    (matched : matchesIgnoreCase ':' char) : char = ':' := by
  have same : char = ':' ∨ char.toLower = ':' := by
    simpa [matchesIgnoreCase] using matched
  rcases same with same | lower
  · exact same
  · rcases toLower_eq lower with same | ⟨above, -, code⟩
    · exact same
    · have isColon : ':'.toNat = 58 := rfl
      omega

/-- A keyword does not start with a blank. -/
theorem not_isSpace_of_matches {letter char : Char}
    (first : letter = 's' ∨ letter = Char.ofNat 0x6765)
    (matched : matchesIgnoreCase letter char) : isSpace char = false := by
  have visible : ∀ code ∈ [115, 83, 0x17F, 0x6765],
      isSpace (Char.ofNat code) = false := by
    decide
  have known : char.toNat ∈ [115, 83, 0x17F, 0x6765] := by
    have cases_ : char = letter ∨ char.toLower = letter ∨
        char.toNat = 0x17F := by
      rcases first with rfl | rfl
      · simpa [matchesIgnoreCase, or_assoc] using matched
      · have same : char = Char.ofNat 0x6765 ∨
            char.toLower = Char.ofNat 0x6765 := by
          simpa [matchesIgnoreCase] using matched
        exact same.imp_right .inl
    have code : letter.toNat = 115 ∨ letter.toNat = 0x6765 :=
      first.imp (congrArg Char.toNat) (congrArg Char.toNat)
    rw [List.mem_cons, List.mem_cons, List.mem_cons, List.mem_singleton]
    rcases cases_ with same | lower | long
    · rw [same]
      omega
    · rcases toLower_eq lower with same | ⟨above, below, lowered⟩
      · rw [same]
        omega
      · omega
    · omega
  have back : char = Char.ofNat char.toNat := (Char.ofNat_toNat char).symm
  rw [back]
  exact visible _ known

theorem prefixIgnoreCase_append (first second : List Char) :
    ∀ text, prefixIgnoreCase (first ++ second) text =
      (prefixIgnoreCase first text).bind (prefixIgnoreCase second) := by
  induction first with
  | nil => exact fun _ => rfl
  | cons letter letters induction =>
      intro text
      cases text with
      | nil => rfl
      | cons char text =>
          rw [List.cons_append, prefixIgnoreCase, prefixIgnoreCase]
          split
          · exact induction text
          · rfl

/-- The keyword with its colon is the keyword and a colon. -/
theorem keyword_of_spelled {letters text body : List Char}
    (spelled : prefixIgnoreCase (letters ++ [':']) text = some body) :
    prefixIgnoreCase letters text = some (':' :: body) := by
  rw [prefixIgnoreCase_append, Option.bind_eq_some_iff] at spelled
  obtain ⟨rest, keyword, colon⟩ := spelled
  cases rest with
  | nil => cases colon
  | cons char rest =>
      rw [prefixIgnoreCase] at colon
      split at colon
      · next matched =>
          cases colon
          rw [keyword, eq_colon_of_matches matched]
      · cases colon

theorem stripLeft_of_spelled {letter : Char} {letters text rest : List Char}
    (first : letter = 's' ∨ letter = Char.ofNat 0x6765)
    (spelled : prefixIgnoreCase (letter :: letters) text = some rest) :
    stripLeft text = text := by
  cases text with
  | nil => cases spelled
  | cons char text =>
      rw [prefixIgnoreCase] at spelled
      split at spelled
      · next matched =>
          have visible := not_isSpace_of_matches first matched
          simp [stripLeft, visible]
      · cases spelled

theorem readerKeyword_of_keyword {text body : List Char}
    (keyword : (prefixIgnoreCase "source".toList text).or
      (prefixIgnoreCase [Char.ofNat 0x6765, Char.ofNat 0x6E90] text) =
        some (':' :: body)) :
    readerKeyword text = some body := by
  have visible : isSpace ':' = false := by decide
  have kept : stripLeft (':' :: body) = ':' :: body := by
    simp [stripLeft, visible]
  rw [readerKeyword, keyword]
  dsimp only
  rw [kept]
  exact if_pos (.inl rfl)

theorem readerKeyword_of_sourceKeyword {text body : List Char}
    (found : sourceKeyword text = some body) :
    readerKeyword (stripLeft text) = some body := by
  unfold sourceKeyword at found
  split at found
  · next rest isSource =>
      cases found
      have letters : "source:".toList = "source".toList ++ [':'] := rfl
      rw [letters] at isSource
      have keyword := keyword_of_spelled isSource
      rw [stripLeft_of_spelled (.inl rfl) keyword]
      apply readerKeyword_of_keyword
      rw [keyword, Option.some_or]
  · next notSource =>
      have keyword := @keyword_of_spelled [Char.ofNat 0x6765, Char.ofNat 0x6E90]
        _ _ found
      rw [stripLeft_of_spelled (.inr rfl) keyword]
      apply readerKeyword_of_keyword
      cases text with
      | nil => cases keyword
      | cons char text =>
          rw [prefixIgnoreCase] at keyword
          split at keyword
          · next matched =>
              have other : prefixIgnoreCase "source".toList (char :: text) =
                  none := by
                have letters : "source".toList = 's' :: "ource".toList := rfl
                rw [letters, prefixIgnoreCase, not_both_keywords matched]
                rfl
              rw [other, Option.none_or, prefixIgnoreCase, if_pos matched,
                keyword]
          · cases keyword

/-- A reader takes what the lenient scanner matches for a marker. -/
theorem readerTokenAt_of_scanned {suffix token : List Char}
    (scanned : scannedTokenAt suffix = some token)
    (filled : stripChars token ≠ []) :
    readerTokenAt suffix = some (stripChars token) := by
  obtain ⟨⟨found, length⟩, isFound, rfl⟩ := Option.map_eq_some_iff.mp scanned
  cases suffix with
  | nil => cases isFound
  | cons char text =>
      rw [anySourceTokenAt_eq] at isFound
      split at isFound
      · next closing body opens keyword =>
          dsimp only at isFound
          split at isFound
          · next closes =>
              cases isFound
              rw [readerTokenAt, opens,
                readerKeyword_of_sourceKeyword keyword]
              exact if_pos ⟨filled, closes.2⟩
          · cases isFound
      · cases isFound

end CompetiScope
