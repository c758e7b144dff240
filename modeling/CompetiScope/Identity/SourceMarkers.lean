import CompetiScope.Identity.ReaderMarkers

/-!
# Markers of source tokens

The scan of a text finds the tokens of its markers, in any of their
spellings.
-/

namespace CompetiScope

open Foundation

/-- The two keywords of a marker, in lower case. -/
def markerKeywords : List (List Char) :=
  ["source:".toList, [Char.ofNat 0x6765, Char.ofNat 0x6E90, ':']]

/-- The text of a marker with this token: any brackets that belong together,
and a keyword in any case. -/
inductive IsMarker (token : List Char) : List Char → Prop where
  | marker {opening closing : Char} {letters keyword : List Char}
      (opens : closingBracket opening = some closing)
      (isKeyword : letters ∈ markerKeywords)
      (spelled : List.Forall₂
        (fun letter char => matchesIgnoreCase letter char = true)
        letters keyword)
      (filled : token ≠ [])
      (allowed : ∀ char ∈ token, isSourceTokenChar char = true) :
      IsMarker token (opening :: (keyword ++ (token ++ [closing])))

theorem prefixIgnoreCase_eq_some {letters text rest : List Char} :
    prefixIgnoreCase letters text = some rest ↔
      ∃ keyword, List.Forall₂
        (fun letter char => matchesIgnoreCase letter char = true)
        letters keyword ∧ text = keyword ++ rest := by
  induction letters generalizing text with
  | nil =>
      constructor
      · intro found
        cases found
        exact ⟨[], .nil, rfl⟩
      · rintro ⟨keyword, spelled, rfl⟩
        cases spelled
        rfl
  | cons letter letters induction =>
      cases text with
      | nil =>
          constructor
          · intro found
            cases found
          · rintro ⟨keyword, spelled, isText⟩
            cases spelled
            cases isText
      | cons char text =>
          rw [prefixIgnoreCase]
          constructor
          · intro found
            split at found
            · next matched =>
                obtain ⟨keyword, spelled, rfl⟩ := induction.mp found
                exact ⟨char :: keyword, .cons matched spelled, rfl⟩
            · cases found
          · rintro ⟨keyword, spelled, isText⟩
            cases spelled with
            | cons matched later =>
                cases isText
                rw [if_pos matched]
                exact induction.mpr ⟨_, later, rfl⟩

theorem sourceKeyword_eq_some {text rest : List Char} :
    sourceKeyword text = some rest ↔
      ∃ letters ∈ markerKeywords, ∃ keyword, List.Forall₂
        (fun letter char => matchesIgnoreCase letter char = true)
        letters keyword ∧ text = keyword ++ rest := by
  constructor
  · intro found
    unfold sourceKeyword at found
    split at found
    · next body isSource =>
        cases found
        exact ⟨_, List.mem_cons_self, prefixIgnoreCase_eq_some.mp isSource⟩
    · exact ⟨_, List.mem_cons_of_mem _ List.mem_cons_self,
        prefixIgnoreCase_eq_some.mp found⟩
  · rintro ⟨letters, isKeyword, spelled⟩
    have found := prefixIgnoreCase_eq_some.mpr spelled
    rcases List.mem_pair.mp isKeyword with rfl | rfl
    · rw [sourceKeyword, found]
    · rw [sourceKeyword, prefixIgnoreCase_source_of_wide found]
      exact found

theorem not_isSourceTokenChar_of_closing {opening closing : Char}
    (opens : closingBracket opening = some closing) :
    isSourceTokenChar closing = false := by
  cases isToken : isSourceTokenChar closing with
  | false => rfl
  | true =>
      have inner := isInner_of_isSourceTokenChar isToken
      rw [(closingBracket_not_inner opens).2] at inner
      cases inner

/-- The scanner finds a token at the front of a text exactly when the text
starts with a marker of the token. -/
theorem sourceTokenAt_iff_marker {text token : List Char} :
    (∃ length, sourceTokenAt text = some (token, length)) ↔
      ∃ marker, IsMarker token marker ∧ marker <+: text := by
  constructor
  · rintro ⟨length, found⟩
    cases text with
    | nil => cases found
    | cons char text =>
        rw [sourceTokenAt_eq] at found
        split at found
        · next closing body opens isKeyword =>
            dsimp only at found
            split at found
            · next closes =>
                cases found
                obtain ⟨letters, known, keyword, spelled, rfl⟩ :=
                  sourceKeyword_eq_some.mp isKeyword
                have shape := (List.prefix_iff_eq_append.mp
                  (List.takeWhile_prefix isSourceTokenChar (l := body))).symm
                obtain ⟨rest, dropped⟩ := List.head?_eq_some_iff.mp closes.2
                rw [dropped] at shape
                have allowed : ∀ char ∈ body.takeWhile isSourceTokenChar,
                    isSourceTokenChar char = true :=
                  fun char member => List.mem_takeWhile_imp member
                generalize body.takeWhile isSourceTokenChar = token at *
                subst shape
                exact ⟨_, .marker opens known spelled closes.1 allowed, rest,
                  by simp⟩
            · cases found
        · cases found
  · rintro ⟨marker, isMarker, rest, rfl⟩
    cases isMarker with
    | @marker opening closing letters keyword opens known spelled filled
        allowed =>
        have isKeyword : sourceKeyword
            (keyword ++ (token ++ [closing]) ++ rest) =
              some (token ++ closing :: rest) := by
          apply sourceKeyword_eq_some.mpr
          exact ⟨letters, known, keyword, spelled, by simp⟩
        have taken : (token ++ closing :: rest).takeWhile isSourceTokenChar =
            token := by
          rw [List.takeWhile_append_of_pos allowed,
            List.takeWhile_cons_of_neg
              (by simp [not_isSourceTokenChar_of_closing opens]),
            List.append_nil]
        rw [List.cons_append, sourceTokenAt_eq, opens, isKeyword]
        dsimp only
        rw [taken, List.drop_left, if_pos ⟨filled, rfl⟩]
        exact ⟨_, rfl⟩

theorem sourceTokenAt_of_mem {token : List Char} (text : List Char) :
    ∀ skip, token ∈ sourceTokensFrom skip text →
      ∃ suffix, suffix <:+ text ∧
        ∃ length, sourceTokenAt suffix = some (token, length) := by
  induction text with
  | nil =>
      intro skip member
      cases member
  | cons char text induction =>
      intro skip member
      have later : ∀ skip, token ∈ sourceTokensFrom skip text →
          ∃ suffix, suffix <:+ char :: text ∧
            ∃ length, sourceTokenAt suffix = some (token, length) := by
        intro skip inside
        obtain ⟨suffix, isSuffix, found⟩ := induction skip inside
        exact ⟨suffix, isSuffix.trans (List.suffix_cons char text), found⟩
      cases skip with
      | succ skip => exact later skip member
      | zero =>
          rw [sourceTokensFrom] at member
          split at member
          · next other length found =>
              rcases List.mem_cons.mp member with rfl | behind
              · exact ⟨_, List.suffix_rfl, length, found⟩
              · exact later _ behind
          · exact later 0 member

/-- The scan reports the tokens of all markers of a text. -/
theorem mem_sourceTokensFrom_iff {text token : List Char} :
    token ∈ sourceTokensFrom 0 text ↔
      ∃ marker, IsMarker token marker ∧ marker <:+: text := by
  constructor
  · intro member
    obtain ⟨suffix, isSuffix, found⟩ := sourceTokenAt_of_mem text 0 member
    obtain ⟨marker, isMarker, isPrefix⟩ := sourceTokenAt_iff_marker.mp found
    exact ⟨marker, isMarker, isPrefix.isInfix.trans isSuffix.isInfix⟩
  · rintro ⟨marker, isMarker, before, after, rfl⟩
    obtain ⟨length, found⟩ := sourceTokenAt_iff_marker.mpr
      ⟨marker, isMarker, List.prefix_append marker after⟩
    apply mem_sourceTokensFrom found
    rw [List.drop_zero, List.append_assoc]
    exact List.suffix_append before (marker ++ after)

end CompetiScope
