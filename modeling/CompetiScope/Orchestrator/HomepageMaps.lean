import CompetiScope.Foundation.LastPlaced
import CompetiScope.Foundation.Tally
import CompetiScope.Runtime.TenantIsolation

/-!
# Homepages of the competitors of a reviewed plan

The planner review puts a final list of competitors into the plan and carries
the homepages over, in one pass over the old map: the entry of a competitor
goes to the name it is renamed to, or stays under its own name, when that is
a final one.
-/

namespace CompetiScope

open Foundation

inductive CompetitorEditAction where
  | add
  | remove
  | rename
  | keep
  | markUnrelated
  deriving DecidableEq

structure CompetitorEdit where
  action : CompetitorEditAction
  name : String
  newName : Option String := none
  deriving DecidableEq

/-- What the planner review reads of a `HitlResumeRequest`. -/
structure PlannerReviewRequest where
  competitors : Option (List String) := none
  competitorEdits : List CompetitorEdit := []

section Review

variable [PyRuntime]

/-- `_normalize_requested_competitors`; no competitors and more than eight
are refused. -/
def normalizeRequestedCompetitors (competitors : List String) :
    Option (List String) :=
  let names := distinctBy casefold ((competitors.map squeeze).filter (· ≠ ""))
  if names = [] ∨ 8 < names.length then none else some names

/-- `final_by_key`. -/
def finalByKey (competitors : List String) : Dict String String :=
  indexBy casefold competitors

/-- The old and the new names of the renames. -/
def renames (edits : List CompetitorEdit) : List (String × String) :=
  edits.filterMap fun edit =>
    if edit.action = .rename then edit.newName.map (Prod.mk edit.name)
    else none

/-- `rename_by_old_key`, with the old names. -/
def renameByOldKey (competitors : List String)
    (edits : List CompetitorEdit) : Dict String (String × String) :=
  indexBy (casefold ·.1)
    ((renames edits).filter fun rename =>
      (finalByKey competitors).get? (casefold rename.2) ≠ none)

/-- The final name the entry of a competitor goes to. -/
def finalName (competitors : List String) (edits : List CompetitorEdit)
    (name : String) : Option String :=
  let target :=
    match (renameByOldKey competitors edits).get? (casefold name) with
    | some rename => rename.2
    | none => name
  (finalByKey competitors).get? (casefold target)

/-- `_migrate_plan_homepage_map`. -/
def migratePlanHomepageMap {Value : Type} (homepageMap : Dict String Value)
    (competitors : List String) (edits : List CompetitorEdit) :
    Dict String Value :=
  placeLast (fun entry => finalName competitors edits entry.1) Prod.snd
    homepageMap.entries

/-- The plan with its final competitors. -/
def plannerReviewed (plan : RunPlan) (competitors : List String)
    (edits : List CompetitorEdit) : RunPlan :=
  { plan with
    homepageHints :=
      migratePlanHomepageMap plan.homepageHints competitors edits
    homepageVerified :=
      migratePlanHomepageMap plan.homepageVerified competitors edits
    competitors := competitors }

/-- `_apply_planner_competitor_review` of the plan; there is none when the
competitors are refused. -/
def applyPlannerCompetitorReview (plan : RunPlan)
    (request : PlannerReviewRequest) : Option RunPlan :=
  match request.competitors with
  | none => some plan
  | some requested =>
      (normalizeRequestedCompetitors requested).map fun competitors =>
        plannerReviewed plan competitors request.competitorEdits

/-! ## What following the renames means -/

/-- The old names of the renames are different competitors, and so are the
new ones. -/
structure DistinctRenames (edits : List CompetitorEdit) : Prop where
  old : ((renames edits).map fun rename => casefold rename.1).Nodup
  new : ((renames edits).map fun rename => casefold rename.2).Nodup

/-- The edits take a competitor of a name out of the plan, or give it another
name. -/
def Leaves (edits : List CompetitorEdit) (key : String) : Prop :=
  ∃ edit ∈ edits, casefold edit.name = key ∧
    (edit.action = .remove ∨ edit.action = .markUnrelated ∨
      edit.action = .rename ∧ edit.newName ≠ none)

instance (edits : List CompetitorEdit) (key : String) :
    Decidable (Leaves edits key) :=
  inferInstanceAs (Decidable (∃ edit ∈ edits, _))

/-- The key of the competitor a final one was: the one that is renamed to it,
or its own unless that has left. -/
def formerKey (edits : List CompetitorEdit) (final : String) :
    Option String :=
  match (renames edits).find? fun rename =>
    casefold rename.2 = casefold final with
  | some rename => some (casefold rename.1)
  | none =>
      if Leaves edits (casefold final) then none else some (casefold final)

/-- Each final competitor has what the one it was had, and no other
competitor has anything. -/
structure FollowsRenames {Value : Type} (homepageMap : Dict String Value)
    (competitors : List String) (edits : List CompetitorEdit)
    (migrated : Dict String Value) : Prop where
  values : ∀ final ∈ competitors, ∀ value,
    migrated.get? final = some value ↔
      ∃ name, homepageMap.get? name = some value ∧
        formerKey edits final = some (casefold name)
  only : ∀ name value, migrated.get? name = some value →
    name ∈ competitors

/-- A competitor that is not renamed to a final one. -/
def Unmoved (competitors : List String) (edits : List CompetitorEdit)
    (key : String) : Prop :=
  ∀ rename ∈ renames edits, casefold rename.1 = key →
    ∀ final ∈ competitors, casefold final ≠ casefold rename.2

/-- An entry under a final name that belongs to a competitor which has lost
the name, and is not renamed. -/
def Displaced (competitors : List String) (edits : List CompetitorEdit)
    (final name : String) : Prop :=
  casefold name = casefold final ∧
    formerKey edits final ≠ some (casefold final) ∧
      Unmoved competitors edits (casefold final)

/-- The entries of a competitor that is left agree, and the last displaced
entry under a final name stands before an entry of the competitor that got
the name, or has its value. -/
def DisplacedFirst {Value : Type} (homepageMap : Dict String Value)
    (competitors : List String) (edits : List CompetitorEdit) : Prop :=
  ∀ final ∈ competitors,
    OwnersPrevail
      (fun entry : String × Value =>
        formerKey edits final = some (casefold entry.1))
      (fun entry => Displaced competitors edits final entry.1)
      Prod.snd homepageMap.entries

/-! ## Where an entry goes -/

section Places

variable {competitors : List String} {edits : List CompetitorEdit}

theorem get?_finalByKey_iff (distinct : (competitors.map casefold).Nodup)
    {key final : String} :
    (finalByKey competitors).get? key = some final ↔
      final ∈ competitors ∧ casefold final = key := by
  constructor
  · exact get?_indexBy
  · rintro ⟨member, rfl⟩
    have known : casefold final ∈ (finalByKey competitors).keys :=
      mem_keys_indexBy.mpr (List.mem_map_of_mem member)
    obtain ⟨other, found⟩ := Dict.mem_keys.mp known
    obtain ⟨isMember, same⟩ := get?_indexBy found
    rw [finalByKey] at *
    rw [found, List.inj_on_of_nodup_map distinct isMember member same]

theorem finalByKey_ne_none_iff {key : String} :
    (finalByKey competitors).get? key ≠ none ↔
      ∃ final ∈ competitors, casefold final = key := by
  rw [← Option.isSome_iff_ne_none, Option.isSome_iff_exists, ← Dict.mem_keys,
    finalByKey, mem_keys_indexBy, List.mem_map]

theorem get?_renameByOldKey_iff (distinct : DistinctRenames edits)
    {key : String} {rename : String × String} :
    (renameByOldKey competitors edits).get? key = some rename ↔
      rename ∈ renames edits ∧ casefold rename.1 = key ∧
        ∃ final ∈ competitors, casefold final = casefold rename.2 := by
  have effective : ∀ rename, rename ∈ ((renames edits).filter fun rename =>
      (finalByKey competitors).get? (casefold rename.2) ≠ none) ↔
        rename ∈ renames edits ∧
          ∃ final ∈ competitors, casefold final = casefold rename.2 := by
    intro rename
    rw [List.mem_filter, decide_eq_true_iff, finalByKey_ne_none_iff]
  constructor
  · intro found
    obtain ⟨member, same⟩ := get?_indexBy found
    obtain ⟨isRename, isFinal⟩ := (effective rename).mp member
    exact ⟨isRename, same, isFinal⟩
  · rintro ⟨isRename, rfl, isFinal⟩
    have member := (effective rename).mpr ⟨isRename, isFinal⟩
    have known : casefold rename.1 ∈
        (renameByOldKey competitors edits).keys :=
      mem_keys_indexBy.mpr (List.mem_map_of_mem member)
    obtain ⟨other, found⟩ := Dict.mem_keys.mp known
    obtain ⟨isMember, same⟩ := get?_indexBy found
    have isOther := ((effective other).mp isMember).1
    rw [found, List.inj_on_of_nodup_map distinct.old isOther isRename same]

/-- An entry goes to a final name its competitor is renamed to, or to its own
if it is renamed to none. -/
theorem finalName_eq_some_iff (distinct : (competitors.map casefold).Nodup)
    (distinctRenames : DistinctRenames edits) {name final : String}
    (isFinal : final ∈ competitors) :
    finalName competitors edits name = some final ↔
      (∃ rename ∈ renames edits, casefold rename.1 = casefold name ∧
          casefold rename.2 = casefold final) ∨
        casefold name = casefold final ∧
          Unmoved competitors edits (casefold final) := by
  rw [finalName, get?_finalByKey_iff distinct]
  cases found : (renameByOldKey competitors edits).get? (casefold name) with
  | some rename =>
      obtain ⟨isRename, old, named⟩ :=
        (get?_renameByOldKey_iff distinctRenames).mp found
      dsimp only
      constructor
      · rintro ⟨-, new⟩
        exact .inl ⟨rename, isRename, old, new.symm⟩
      · rintro (⟨other, isOther, otherOld, new⟩ | ⟨same, unmoved⟩)
        · have sameRename := List.inj_on_of_nodup_map distinctRenames.old
            isOther isRename (otherOld.trans old.symm)
          rw [← sameRename]
          exact ⟨isFinal, new.symm⟩
        · obtain ⟨target, isTarget, new⟩ := named
          exact (unmoved rename isRename (old.trans same) target isTarget
            new).elim
  | none =>
      have notRenamed : ∀ rename ∈ renames edits,
          casefold rename.1 = casefold name →
            ∀ target ∈ competitors, casefold target ≠ casefold rename.2 := by
        intro rename isRename old target isTarget new
        have known := (get?_renameByOldKey_iff distinctRenames).mpr
          ⟨isRename, old, target, isTarget, new⟩
        rw [found] at known
        cases known
      dsimp only
      constructor
      · rintro ⟨-, same⟩
        refine .inr ⟨same.symm, ?_⟩
        rw [same]
        exact notRenamed
      · rintro (⟨rename, isRename, old, new⟩ | ⟨same, -⟩)
        · exact (notRenamed rename isRename old final isFinal
            new.symm).elim
        · exact ⟨isFinal, same.symm⟩

/-- The competitor a final one was: renamed to it, or itself. -/
theorem formerKey_eq_some_iff (distinct : DistinctRenames edits)
    {final key : String} :
    formerKey edits final = some key ↔
      (∃ rename ∈ renames edits, casefold rename.1 = key ∧
          casefold rename.2 = casefold final) ∨
        (∀ rename ∈ renames edits, casefold rename.2 ≠ casefold final) ∧
          ¬ Leaves edits (casefold final) ∧ key = casefold final := by
  rw [formerKey]
  cases found : (renames edits).find? fun rename =>
      casefold rename.2 = casefold final with
  | some rename =>
      have isRename := List.mem_of_find?_eq_some found
      have new : casefold rename.2 = casefold final := by
        simpa using List.find?_some found
      dsimp only
      constructor
      · intro old
        exact .inl ⟨rename, isRename, Option.some.inj old, new⟩
      · rintro (⟨other, isOther, rfl, otherNew⟩ | ⟨none, -⟩)
        · rw [List.inj_on_of_nodup_map distinct.new isRename isOther
            (new.trans otherNew.symm)]
        · exact (none rename isRename new).elim
  | none =>
      rw [List.find?_eq_none] at found
      have none : ∀ rename ∈ renames edits,
          casefold rename.2 ≠ casefold final := by
        intro rename isRename new
        exact found rename isRename (decide_eq_true new)
      dsimp only
      constructor
      · intro own
        split at own
        · cases own
        · next stays => exact .inr ⟨none, stays, (Option.some.inj own).symm⟩
      · rintro (⟨rename, isRename, -, new⟩ | ⟨-, stays, rfl⟩)
        · exact (none rename isRename new).elim
        · exact if_neg stays

/-- A rename takes its old name out of the plan. -/
theorem leaves_of_rename {rename : String × String}
    (isRename : rename ∈ renames edits) :
    Leaves edits (casefold rename.1) := by
  obtain ⟨edit, member, isEdit⟩ := List.mem_filterMap.mp isRename
  split at isEdit
  · next action =>
      rw [Option.map_eq_some_iff] at isEdit
      obtain ⟨new, named, rfl⟩ := isEdit
      refine ⟨edit, member, rfl, .inr (.inr ⟨action, ?_⟩)⟩
      rw [named]
      exact Option.some_ne_none new
  · cases isEdit

/-- What goes to a final name is of the competitor it was, or displaced. -/
theorem finalName_iff_former_or_displaced
    (distinct : (competitors.map casefold).Nodup)
    (distinctRenames : DistinctRenames edits) {name final : String}
    (isFinal : final ∈ competitors) :
    finalName competitors edits name = some final ↔
      formerKey edits final = some (casefold name) ∨
        Displaced competitors edits final name := by
  rw [finalName_eq_some_iff distinct distinctRenames isFinal,
    formerKey_eq_some_iff distinctRenames, Displaced]
  constructor
  · rintro (renamed | ⟨same, unmoved⟩)
    · exact .inl (.inl renamed)
    · by_cases former : formerKey edits final = some (casefold final)
      · left
        rw [← formerKey_eq_some_iff distinctRenames, same]
        exact former
      · exact .inr ⟨same, former, unmoved⟩
  · rintro ((renamed | ⟨-, stays, same⟩) | ⟨same, -, unmoved⟩)
    · exact .inl renamed
    · refine .inr ⟨same, ?_⟩
      intro rename isRename old
      exact (stays (old ▸ leaves_of_rename isRename)).elim
    · exact .inr ⟨same, unmoved⟩

end Places

/-! ## The review -/

section Migration

variable {competitors : List String} {edits : List CompetitorEdit}

theorem migratePlanHomepageMap_follows_iff {Value : Type}
    (distinct : (competitors.map casefold).Nodup)
    (distinctRenames : DistinctRenames edits)
    (homepageMap : Dict String Value) :
    FollowsRenames homepageMap competitors edits
        (migratePlanHomepageMap homepageMap competitors edits) ↔
      DisplacedFirst homepageMap competitors edits := by
  have each : ∀ final ∈ competitors,
      (∀ value, (migratePlanHomepageMap homepageMap competitors edits).get?
          final = some value ↔
        ∃ name, homepageMap.get? name = some value ∧
          formerKey edits final = some (casefold name)) ↔
      OwnersPrevail
        (fun entry : String × Value =>
          formerKey edits final = some (casefold entry.1))
        (fun entry => Displaced competitors edits final entry.1)
        Prod.snd homepageMap.entries := by
    intro final isFinal
    have placed : ∀ entry : String × Value,
        decide (finalName competitors edits entry.1 = some final) = true ↔
          formerKey edits final = some (casefold entry.1) ∨
            Displaced competitors edits final entry.1 := by
      intro entry
      rw [decide_eq_true_iff]
      exact finalName_iff_former_or_displaced distinct distinctRenames
        isFinal
    rw [← last_owned_iff Prod.snd placed]
    apply forall_congr'
    intro value
    rw [migratePlanHomepageMap, get?_placeLast]
    apply iff_congr Iff.rfl
    constructor
    · rintro ⟨name, found, former⟩
      exact ⟨(name, value), Dict.mem_entries.mpr found, former, rfl⟩
    · rintro ⟨⟨name, value⟩, member, former, rfl⟩
      exact ⟨name, Dict.mem_entries.mp member, former⟩
  constructor
  · intro follows final isFinal
    exact (each final isFinal).mp (follows.values final isFinal)
  · intro first
    constructor
    case values =>
      intro final isFinal
      exact (each final isFinal).mpr (first final isFinal)
    case only =>
      intro name value found
      obtain ⟨entry, -, place⟩ := exists_of_get?_placeLast found
      exact (get?_indexBy place).1

theorem normalizeRequestedCompetitors_distinct {requested : List String}
    (normalized : normalizeRequestedCompetitors requested =
      some competitors) : (competitors.map casefold).Nodup := by
  unfold normalizeRequestedCompetitors at normalized
  dsimp only at normalized
  split at normalized
  · cases normalized
  · cases normalized
    exact distinctBy_nodup casefold _

end Migration

end Review

namespace HomepageExample

local instance homepageRuntime : PyRuntime := asciiRuntime

/-- Beta is removed and Alpha takes its name. -/
def edits : List CompetitorEdit :=
  [{ action := .rename
     name := "Alpha"
     newName := some "Beta" },
    { action := .remove
      name := "Beta" }]

def homepages : Dict String String :=
  (Dict.set ∅ "Alpha" "https://alpha.example").set "Beta"
    "https://beta.example"

def plan : RunPlan :=
  { competitors := ["Alpha", "Beta"]
    homepageHints := homepages }

/-- The names of two competitors are exchanged. -/
def swap : List CompetitorEdit :=
  [{ action := .rename
     name := "Alpha"
     newName := some "Beta" },
    { action := .rename
      name := "Beta"
      newName := some "Alpha" }]

theorem swap_distinct : DistinctRenames swap := by
  constructor
  case old => decide +kernel
  case new => decide +kernel

end HomepageExample

end CompetiScope
