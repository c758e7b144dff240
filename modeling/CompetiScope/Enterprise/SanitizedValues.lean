import CompetiScope.Enterprise.PostgresText

/-!
# Values that Postgres holds

Sanitising leaves a value as it is just where Postgres can hold it: no text
in it, and no key, has a control character, and the keys of a mapping are
distinct.
-/

namespace CompetiScope

open Foundation

def CleanText (value : String) : Prop :=
  ∀ char ∈ value.toList, 32 ≤ char.toNat ∨ char ∈ ['\t', '\n', '\r']

mutual

def Clean : Json → Prop
  | .str value => CleanText value
  | .arr items => CleanItems items
  | .obj fields => CleanFields fields ∧ (fields.map Prod.fst).Nodup
  | _ => True

def CleanItems : List Json → Prop
  | [] => True
  | item :: items => Clean item ∧ CleanItems items

def CleanFields : List (String × Json) → Prop
  | [] => True
  | (key, value) :: fields => (CleanText key ∧ Clean value) ∧ CleanFields fields

end

theorem cleanText_sanitize (value : String) :
    CleanText (sanitizePostgresText value) := by
  intro char member
  rw [sanitizePostgresText, String.toList_ofList, List.mem_flatMap] at member
  obtain ⟨given, -, translated⟩ := member
  unfold translateControlChar at translated
  split at translated
  · cases translated
  · split at translated
    · rw [List.mem_singleton.mp translated]
      exact .inl (by decide)
    · next kept =>
        rw [List.mem_singleton.mp translated]
        by_contra refused
        rw [not_or, Nat.not_le] at refused
        exact kept refused

theorem sanitizePostgresText_clean {value : String}
    (clean : CleanText value) : sanitizePostgresText value = value := by
  have same : value.toList.flatMap translateControlChar = value.toList := by
    rw [List.flatMap_congr (g := fun char => [char]), List.flatMap_singleton']
    intro char member
    rcases clean char member with high | blank
    · rw [translateControlChar, if_neg (by omega), if_neg (by omega)]
    · simp only [List.mem_cons, List.not_mem_nil, or_false] at blank
      rcases blank with rfl | rfl | rfl
      · rfl
      · rfl
      · rfl
  rw [sanitizePostgresText, same, String.ofList_toList]

theorem CleanFields.set {dict : Dict String Json} {key : String}
    {value : Json} (clean : CleanFields dict.entries)
    (cleanKey : CleanText key) (cleanValue : Clean value) :
    CleanFields (dict.set key value).entries := by
  have isClean : ∀ {fields : List (String × Json)}, CleanFields fields ↔
      ∀ entry ∈ fields, CleanText entry.1 ∧ Clean entry.2 := by
    intro fields
    induction fields with
    | nil => exact iff_of_true trivial (List.forall_mem_nil _)
    | cons entry fields induction =>
        rw [List.forall_mem_cons, ← induction, CleanFields]
  rw [isClean] at clean ⊢
  rintro ⟨other, stored⟩ member
  rw [Dict.mem_entries, Dict.get?_set] at member
  split at member
  · next same =>
      cases member
      exact ⟨same ▸ cleanKey, cleanValue⟩
  · exact clean _ (Dict.mem_entries.mpr member)

mutual

theorem clean_sanitizeJson : ∀ value, Clean (sanitizeJson value)
  | .str value => cleanText_sanitize value
  | .arr items => clean_sanitizeItems items
  | .obj fields => ⟨clean_sanitizeFields fields ∅ trivial, Dict.keysNodup _⟩
  | .null | .bool _ | .int _ | .float _ => trivial

theorem clean_sanitizeItems : ∀ items, CleanItems (sanitizeItems items)
  | [] => trivial
  | item :: items => ⟨clean_sanitizeJson item, clean_sanitizeItems items⟩

theorem clean_sanitizeFields : ∀ fields (sanitized : Dict String Json),
    CleanFields sanitized.entries →
      CleanFields (sanitizeFields fields sanitized).entries
  | [], _ => id
  | (key, value) :: fields, _ => fun clean =>
      clean_sanitizeFields fields _
        (clean.set (cleanText_sanitize key) (clean_sanitizeJson value))

end

mutual

theorem sanitizeJson_clean : ∀ value, Clean value → sanitizeJson value = value
  | .str _ => fun clean => congrArg Json.str (sanitizePostgresText_clean clean)
  | .arr items => fun clean =>
      congrArg Json.arr (sanitizeItems_clean items clean)
  | .obj fields => fun ⟨clean, distinct⟩ =>
      congrArg Json.obj (sanitizeFields_clean fields ∅ clean distinct)
  | .null | .bool _ | .int _ | .float _ => fun _ => rfl

theorem sanitizeItems_clean : ∀ items, CleanItems items →
    sanitizeItems items = items
  | [] => fun _ => rfl
  | item :: items => fun ⟨here, later⟩ => by
      rw [sanitizeItems, sanitizeJson_clean item here,
        sanitizeItems_clean items later]

/-- New keys go to the end. -/
theorem sanitizeFields_clean : ∀ fields (sanitized : Dict String Json),
    CleanFields fields →
      (sanitized.keys ++ fields.map Prod.fst).Nodup →
        (sanitizeFields fields sanitized).entries =
          sanitized.entries ++ fields
  | [], _ => fun _ _ => (List.append_nil _).symm
  | (key, value) :: fields, sanitized => fun ⟨⟨here, own⟩, later⟩ distinct => by
      have isNew : key ∉ sanitized.keys := fun member =>
        List.disjoint_of_nodup_append distinct member List.mem_cons_self
      have added : (sanitized.set key value).entries =
          sanitized.entries ++ [(key, value)] := by
        rw [Dict.set, dif_neg isNew]
      rw [sanitizeFields, sanitizePostgresText_clean here,
        sanitizeJson_clean value own,
        sanitizeFields_clean fields _ later, added, List.append_assoc]
      · rfl
      · rw [Dict.keys, added, List.map_append, List.append_assoc]
        exact distinct

end

end CompetiScope
