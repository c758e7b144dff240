import Mathlib.Data.List.Basic
import Mathlib.Data.List.Nodup

/-!
# Insertion-ordered dictionaries

The order of the entries is the insertion order, as in Python: writing an
existing key keeps its place, a new key goes last.  A dictionary carries the
proof that no key occurs twice.
-/

namespace Foundation

universe u v w

structure Dict (Key : Type u) (Value : Type v) where
  entries : List (Key × Value)
  keysNodup : (entries.map Prod.fst).Nodup
  deriving DecidableEq

namespace Dict

variable {Key : Type u} {Value : Type v} {Result : Type w}

def empty : Dict Key Value :=
  { entries := []
    keysNodup := List.nodup_nil }

instance : EmptyCollection (Dict Key Value) := ⟨Dict.empty⟩

instance : Inhabited (Dict Key Value) := ⟨Dict.empty⟩

def keys (dict : Dict Key Value) : List Key :=
  dict.entries.map Prod.fst

def values (dict : Dict Key Value) : List Value :=
  dict.entries.map Prod.snd

/-- Apply a function to every value, keeping keys and order. -/
def mapValues (function : Key → Value → Result) (dict : Dict Key Value) :
    Dict Key Result :=
  { entries := dict.entries.map fun entry =>
      (entry.1, function entry.1 entry.2)
    keysNodup := by
      simpa [List.map_map, Function.comp_def] using dict.keysNodup }

variable [DecidableEq Key]

/-- Value of the first entry with the given key. -/
def lookup (key : Key) : List (Key × Value) → Option Value
  | [] => none
  | entry :: entries =>
      if entry.1 = key then some entry.2 else lookup key entries

def get? (dict : Dict Key Value) (key : Key) : Option Value :=
  lookup key dict.entries

def getD (dict : Dict Key Value) (key : Key) (default : Value) : Value :=
  (dict.get? key).getD default

/-- `dict.pop(key, None)`. -/
def erase (dict : Dict Key Value) (key : Key) : Dict Key Value :=
  { entries := dict.entries.filter fun entry => entry.1 ≠ key
    keysNodup :=
      dict.keysNodup.sublist ((List.filter_sublist (l := dict.entries)).map _) }

/-- Keep the entries whose value passes a test. -/
def filterValues (keep : Value → Bool) (dict : Dict Key Value) :
    Dict Key Value :=
  { entries := dict.entries.filter fun entry => keep entry.2
    keysNodup :=
      dict.keysNodup.sublist ((List.filter_sublist (l := dict.entries)).map _) }

private theorem map_fst_overwrite (key : Key) (value : Value)
    (entries : List (Key × Value)) :
    (entries.map fun entry =>
      if entry.1 = key then (key, value) else entry).map Prod.fst =
        entries.map Prod.fst := by
  induction entries with
  | nil => rfl
  | cons entry entries induction =>
      by_cases same : entry.1 = key
      · simp [same, induction]
      · simp [same, induction]

/-- `dict[key] = value`. -/
def set (dict : Dict Key Value) (key : Key) (value : Value) :
    Dict Key Value :=
  if present : key ∈ dict.keys then
    { entries := dict.entries.map fun entry =>
        if entry.1 = key then (key, value) else entry
      keysNodup := by
        rw [map_fst_overwrite]
        exact dict.keysNodup }
  else
    { entries := dict.entries ++ [(key, value)]
      keysNodup := by
        rw [List.map_append]
        exact dict.keysNodup.append (List.nodup_singleton key)
          (by simpa [keys] using present) }

theorem keys_set_of_mem {dict : Dict Key Value} {key : Key} {value : Value}
    (present : key ∈ dict.keys) : (dict.set key value).keys = dict.keys := by
  rw [set, dif_pos present]
  exact map_fst_overwrite key value dict.entries

@[simp] theorem get?_empty (key : Key) :
    (∅ : Dict Key Value).get? key = none :=
  rfl

theorem lookup_eq_none_of_not_mem {key : Key}
    {entries : List (Key × Value)}
    (absent : key ∉ entries.map Prod.fst) : lookup key entries = none := by
  induction entries with
  | nil => rfl
  | cons entry entries induction =>
      simp only [List.map_cons, List.mem_cons, not_or] at absent
      have different : entry.1 ≠ key := fun same => absent.1 same.symm
      simp [lookup, different, induction absent.2]

private theorem lookup_overwrite_self {key : Key} {value : Value}
    {entries : List (Key × Value)} (present : key ∈ entries.map Prod.fst) :
    lookup key (entries.map fun entry =>
      if entry.1 = key then (key, value) else entry) = some value := by
  induction entries with
  | nil => simp at present
  | cons entry entries induction =>
      by_cases same : entry.1 = key
      · simp [lookup, same]
      · have later : key ∈ entries.map Prod.fst := by
          rcases List.mem_cons.mp present with first | later
          · exact (same first.symm).elim
          · exact later
        simpa [lookup, same] using induction later

private theorem lookup_overwrite_ne {key other : Key} {value : Value}
    (different : other ≠ key) (entries : List (Key × Value)) :
    lookup other (entries.map fun entry =>
      if entry.1 = key then (key, value) else entry) = lookup other entries := by
  induction entries with
  | nil => rfl
  | cons entry entries induction =>
      by_cases same : entry.1 = key
      · have notOther : entry.1 ≠ other := by
          rw [same]
          exact different.symm
        simp [lookup, same, different.symm, induction]
      · simp [lookup, same, induction]

private theorem lookup_append_singleton {key other : Key} {value : Value}
    (entries : List (Key × Value)) :
    lookup other (entries ++ [(key, value)]) =
      (lookup other entries).or (if key = other then some value else none) := by
  induction entries with
  | nil => simp [lookup]
  | cons entry entries induction =>
      by_cases same : entry.1 = other
      · simp [lookup, same]
      · simp [lookup, same, induction]

@[simp] theorem get?_set_self (dict : Dict Key Value) (key : Key)
    (value : Value) : (dict.set key value).get? key = some value := by
  unfold set
  split
  · next present => exact lookup_overwrite_self present
  · next absent =>
      simp only [get?, lookup_append_singleton,
        lookup_eq_none_of_not_mem absent]
      simp

theorem get?_set_ne (dict : Dict Key Value) {key other : Key}
    (value : Value) (different : other ≠ key) :
    (dict.set key value).get? other = dict.get? other := by
  unfold set
  split
  · exact lookup_overwrite_ne different dict.entries
  · simp [get?, lookup_append_singleton, different.symm]

theorem get?_set (dict : Dict Key Value) (key other : Key) (value : Value) :
    (dict.set key value).get? other =
      if other = key then some value else dict.get? other := by
  by_cases same : other = key
  · subst same
    simp
  · simp [get?_set_ne dict value same, same]

private theorem lookup_filter_ne {key other : Key}
    (entries : List (Key × Value)) :
    lookup other (entries.filter fun entry => entry.1 ≠ key) =
      if other = key then none else lookup other entries := by
  induction entries with
  | nil => simp [lookup]
  | cons entry entries induction =>
      by_cases same : entry.1 = key
      · by_cases sameOther : other = key
        · simp [List.filter, same, sameOther] at induction ⊢
          exact induction
        · have notOther : key ≠ other := fun equal => sameOther equal.symm
          simp [List.filter, same, sameOther, lookup, notOther]
            at induction ⊢
          exact induction
      · by_cases sameOther : entry.1 = other
        · have notKey : other ≠ key := by
            rw [← sameOther]
            exact same
          simp [List.filter, lookup, sameOther, notKey]
        · simp [List.filter, same, lookup, sameOther] at induction ⊢
          exact induction

theorem get?_erase (dict : Dict Key Value) (key other : Key) :
    (dict.erase key).get? other =
      if other = key then none else dict.get? other :=
  lookup_filter_ne dict.entries

/-- `{**first, **second}`. -/
def update (first second : Dict Key Value) : Dict Key Value :=
  second.entries.foldl (fun dict entry => dict.set entry.1 entry.2) first

theorem get?_foldl_set (entries : List (Key × Value))
    (distinct : (entries.map Prod.fst).Nodup) (dict : Dict Key Value)
    (key : Key) :
    (entries.foldl (fun dict entry => dict.set entry.1 entry.2) dict).get?
        key = (lookup key entries).or (dict.get? key) := by
  induction entries generalizing dict with
  | nil => rfl
  | cons entry entries induction =>
      rw [List.map_cons, List.nodup_cons] at distinct
      rw [List.foldl_cons, induction distinct.2, get?_set, lookup]
      by_cases same : entry.1 = key
      · rw [← same, lookup_eq_none_of_not_mem distinct.1]
        simp
      · have different : key ≠ entry.1 := fun equal => same equal.symm
        simp [same, different]

theorem get?_update (first second : Dict Key Value) (key : Key) :
    (first.update second).get? key =
      (second.get? key).or (first.get? key) :=
  get?_foldl_set second.entries second.keysNodup first key

theorem get?_mapValues (function : Key → Value → Result)
    (dict : Dict Key Value) (key : Key) :
    (dict.mapValues function).get? key =
      (dict.get? key).map (function key) := by
  unfold get? mapValues
  simp only
  induction dict.entries with
  | nil => rfl
  | cons entry entries induction =>
      by_cases same : entry.1 = key
      · simp [lookup, same]
      · simp [lookup, same, induction]

private theorem mem_of_lookup_eq_some {key : Key} {value : Value}
    {entries : List (Key × Value)}
    (found : lookup key entries = some value) : (key, value) ∈ entries := by
  induction entries with
  | nil => cases found
  | cons entry entries induction =>
      rw [lookup] at found
      split at found
      · next same =>
          cases found
          exact List.mem_cons.mpr (.inl (by rw [← same]))
      · exact List.mem_cons_of_mem entry (induction found)

theorem lookup_of_mem {key : Key} {value : Value}
    {entries : List (Key × Value)}
    (distinct : (entries.map Prod.fst).Nodup)
    (member : (key, value) ∈ entries) : lookup key entries = some value := by
  induction entries with
  | nil => cases member
  | cons entry entries induction =>
      rw [List.map_cons, List.nodup_cons] at distinct
      rcases List.mem_cons.mp member with same | later
      · simp [lookup, ← same]
      · have different : entry.1 ≠ key := by
          intro same
          exact distinct.1 (same ▸ List.mem_map_of_mem later)
        rw [lookup, if_neg different]
        exact induction distinct.2 later

theorem mem_entries {dict : Dict Key Value} {key : Key} {value : Value} :
    (key, value) ∈ dict.entries ↔ dict.get? key = some value :=
  ⟨lookup_of_mem dict.keysNodup, mem_of_lookup_eq_some⟩

theorem mem_keys {dict : Dict Key Value} {key : Key} :
    key ∈ dict.keys ↔ ∃ value, dict.get? key = some value := by
  constructor
  · intro member
    obtain ⟨⟨same, value⟩, isEntry, rfl⟩ := List.mem_map.mp member
    exact ⟨value, mem_entries.mp isEntry⟩
  · rintro ⟨value, found⟩
    exact List.mem_map_of_mem (f := Prod.fst) (mem_entries.mpr found)

private theorem entries_eq (dict : Dict Key Value) :
    dict.entries = dict.keys.filterMap fun key =>
      (dict.get? key).map (Prod.mk key) := by
  have each : ∀ entry ∈ dict.entries,
      (dict.get? entry.1).map (Prod.mk entry.1) = some entry := by
    intro entry isEntry
    rw [mem_entries.mp isEntry, Option.map_some]
  calc dict.entries
      = dict.entries.filterMap some := List.filterMap_some.symm
    _ = dict.entries.filterMap
          ((fun key => (dict.get? key).map (Prod.mk key)) ∘ Prod.fst) :=
        List.filterMap_congr fun entry isEntry => (each entry isEntry).symm
    _ = dict.keys.filterMap fun key => (dict.get? key).map (Prod.mk key) := by
        rw [keys, List.filterMap_map]

omit [DecidableEq Key] in
private theorem ext_entries {first second : Dict Key Value}
    (same : first.entries = second.entries) : first = second := by
  obtain ⟨_, _⟩ := first
  obtain ⟨_, _⟩ := second
  cases same
  rfl

/-- Dictionaries with the same keys in the same order are equal when they look
the same up. -/
theorem ext_get? {first second : Dict Key Value}
    (sameKeys : first.keys = second.keys)
    (same : ∀ key, first.get? key = second.get? key) : first = second := by
  apply ext_entries
  rw [entries_eq first, entries_eq second, sameKeys]
  exact List.filterMap_congr fun key _ => by rw [same]

/-- The values are what some key is mapped to. -/
theorem mem_values {dict : Dict Key Value} {value : Value} :
    value ∈ dict.values ↔ ∃ key, dict.get? key = some value := by
  constructor
  · intro member
    obtain ⟨⟨key, stored⟩, isEntry, rfl⟩ := List.mem_map.mp member
    exact ⟨key, lookup_of_mem dict.keysNodup isEntry⟩
  · rintro ⟨key, found⟩
    exact List.mem_map.mpr ⟨(key, value), mem_of_lookup_eq_some found, rfl⟩

theorem get?_filterValues (keep : Value → Bool) (dict : Dict Key Value)
    (key : Key) :
    (dict.filterValues keep).get? key = (dict.get? key).filter keep := by
  ext value
  rw [← mem_entries, Option.filter_eq_some_iff, ← mem_entries]
  exact List.mem_filter

/-- A value that is kept may be set before or after the filter, unless it
takes the place of one that is not kept. -/
theorem filterValues_set {keep : Value → Bool} {dict : Dict Key Value}
    {key : Key} {value : Value} (kept : keep value = true)
    (known : ∀ before, dict.get? key = some before → keep before = true) :
    (dict.set key value).filterValues keep =
      (dict.filterValues keep).set key value := by
  have entries : ((dict.set key value).filterValues keep).entries =
      ((dict.filterValues keep).set key value).entries := by
    by_cases present : key ∈ dict.keys
    · obtain ⟨before, found⟩ := mem_keys.mp present
      have presentKept : key ∈ (dict.filterValues keep).keys := by
        rw [mem_keys]
        refine ⟨before, ?_⟩
        rw [get?_filterValues, found, Option.filter_some,
          if_pos (known before found)]
      rw [set, dif_pos present, set, dif_pos presentKept]
      simp only [filterValues, List.filter_map]
      congr 1
      apply List.filter_congr
      rintro ⟨other, stored⟩ isEntry
      by_cases same : other = key
      · have isBefore := mem_entries.mp isEntry
        rw [same, found] at isBefore
        cases isBefore
        simp [same, kept, known before found]
      · simp [same]
    · have absent : key ∉ (dict.filterValues keep).keys := by
        rw [mem_keys]
        rintro ⟨before, found⟩
        rw [get?_filterValues, Option.filter_eq_some_iff] at found
        exact present (mem_keys.mpr ⟨before, found.1⟩)
      rw [set, dif_neg present, set, dif_neg absent]
      simp [filterValues, kept]
  exact ext_entries entries

/-- Setting a value that is not kept leaves what is kept, unless it takes the
place of a kept one. -/
theorem filterValues_set_of_dropped {keep : Value → Bool}
    {dict : Dict Key Value} {key : Key} {value : Value}
    (dropped : keep value = false)
    (known : ∀ before, dict.get? key = some before → keep before = false) :
    (dict.set key value).filterValues keep = dict.filterValues keep := by
  apply ext_entries
  by_cases present : key ∈ dict.keys
  · have here : ∀ entry ∈ dict.entries, entry.1 = key →
        keep entry.2 = false := by
      rintro ⟨other, stored⟩ isEntry rfl
      exact known stored (mem_entries.mp isEntry)
    rw [set, dif_pos present]
    simp only [filterValues, List.filter_map]
    calc ((dict.entries.filter _).map fun entry =>
          if entry.1 = key then (key, value) else entry)
        = (dict.entries.filter fun entry => keep entry.2).map fun entry =>
            if entry.1 = key then (key, value) else entry := by
          congr 1
          apply List.filter_congr
          intro entry isEntry
          by_cases same : entry.1 = key
          · simp [same, dropped, here entry isEntry same]
          · simp [same]
      _ = (dict.entries.filter fun entry => keep entry.2).map id := by
          apply List.map_congr_left
          intro entry member
          obtain ⟨isEntry, isKept⟩ := List.mem_filter.mp member
          have elsewhere : entry.1 ≠ key := by
            intro same
            rw [here entry isEntry same] at isKept
            cases isKept
          rw [if_neg elsewhere, id]
      _ = dict.entries.filter fun entry => keep entry.2 := List.map_id _
  · rw [set, dif_neg present]
    simp [filterValues, dropped]

omit [DecidableEq Key] in
theorem filterValues_filterValues (first second : Value → Bool)
    (dict : Dict Key Value) :
    (dict.filterValues first).filterValues second =
      dict.filterValues fun value => second value && first value := by
  apply ext_entries
  simp only [filterValues, List.filter_filter]

omit [DecidableEq Key] in
theorem values_filterValues (keep : Value → Bool) (dict : Dict Key Value) :
    (dict.filterValues keep).values = dict.values.filter keep := by
  rw [values, values, List.filter_map]
  rfl

omit [DecidableEq Key] in
theorem values_mapValues (function : Key → Value → Result)
    (dict : Dict Key Value) :
    (dict.mapValues function).values =
      dict.entries.map fun entry => function entry.1 entry.2 := by
  rw [values, mapValues, List.map_map]
  rfl

theorem values_set_of_absent {dict : Dict Key Value} {key : Key}
    (absent : dict.get? key = none) (value : Value) :
    (dict.set key value).values = dict.values ++ [value] := by
  have notKey : key ∉ dict.keys := by
    intro present
    obtain ⟨⟨other, stored⟩, isEntry, rfl⟩ := List.mem_map.mp present
    have found := lookup_of_mem dict.keysNodup isEntry
    rw [← get?, absent] at found
    cases found
  rw [set, dif_neg notKey]
  exact List.map_append

/-- Overwriting a value keeps the counts that do not tell it from the new
one. -/
theorem countP_values_set_of_present {dict : Dict Key Value} {key : Key}
    {before after : Value} {counts : Value → Bool}
    (found : dict.get? key = some before)
    (same : counts after = counts before) :
    (dict.set key after).values.countP counts =
      dict.values.countP counts := by
  have present : key ∈ dict.keys :=
    List.mem_map.mpr ⟨(key, before), mem_of_lookup_eq_some found, rfl⟩
  rw [set, dif_pos present, values, values, List.map_map, List.countP_map,
    List.countP_map]
  apply List.countP_congr
  rintro ⟨other, stored⟩ isEntry
  by_cases overwritten : other = key
  · have isBefore := lookup_of_mem dict.keysNodup isEntry
    rw [overwritten, ← get?, found] at isBefore
    cases isBefore
    simp [overwritten, same]
  · simp [overwritten]

theorem getD_set (dict : Dict Key Value) (key other : Key)
    (value default : Value) :
    (dict.set key value).getD other default =
      if other = key then value else dict.getD other default := by
  rw [getD, get?_set]
  split
  · rfl
  · rfl

/-- Items grouped by their key, in their order. -/
theorem getD_foldl_append {Item : Type w} (keyOf : Item → Key) (items : List Item)
    (groups : Dict Key (List Item)) (key : Key) :
    (items.foldl (fun groups item =>
      groups.set (keyOf item) (groups.getD (keyOf item) [] ++ [item]))
        groups).getD key [] =
      groups.getD key [] ++ items.filter fun item => keyOf item = key := by
  induction items generalizing groups with
  | nil => simp
  | cons item items induction =>
      rw [List.foldl_cons, induction, getD_set]
      by_cases same : keyOf item = key
      · simp [same]
      · have other : key ≠ keyOf item := fun equal => same equal.symm
        simp [same, other]

theorem mem_keys_foldl_set {Item : Type w} (keyOf : Item → Key)
    (valueOf : Dict Key Value → Item → Value) (items : List Item)
    (dict : Dict Key Value) (key : Key) :
    key ∈ (items.foldl (fun dict item =>
        dict.set (keyOf item) (valueOf dict item)) dict).keys ↔
      key ∈ dict.keys ∨ ∃ item ∈ items, keyOf item = key := by
  induction items generalizing dict with
  | nil => simp
  | cons item items induction =>
      rw [List.foldl_cons, induction, mem_keys, get?_set, mem_keys]
      by_cases same : key = keyOf item
      · simp [same]
      · have other : keyOf item ≠ key := fun equal => same equal.symm
        simp [same, other]

end Dict

end Foundation
