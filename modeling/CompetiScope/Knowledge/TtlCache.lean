import Mathlib.Algebra.Order.Ring.Rat
import Mathlib.Data.List.Induction
import Mathlib.Data.List.Nodup
import Mathlib.Data.Rat.Floor

/-!
# The cache of the retrieval service

Values expire, and the oldest ones are dropped when there are too many.  A
second cache in front answers again what it answered before for the same key
and the same stretch of time, without looking at the age of the value.  So a
value is returned only while it is fresh if no such answer outlives its value.
Readings of the clock are rationals here.
-/

namespace CompetiScope

variable {Value : Type*}

structure CacheItem (Value : Type*) where
  key : String
  createdAt : Rat
  value : Option Value

/-- What `cached_get` has answered. -/
structure CachedAnswer (Value : Type*) where
  key : String
  bucket : Int
  value : Option Value

/-- `_TTLCache`; items and answers are ordered by their last use. -/
structure TTLCache (Value : Type*) where
  maxsize : Nat
  ttlSeconds : Rat
  items : List (CacheItem Value)
  answers : List (CachedAnswer Value)

namespace TTLCache

/-- `__init__`. -/
def init (maxsize : Int) (ttlSeconds : Rat) : TTLCache Value :=
  { maxsize := (max 1 maxsize).toNat
    ttlSeconds := ttlSeconds
    items := []
    answers := [] }

def item? (cache : TTLCache Value) (key : String) :
    Option (CacheItem Value) :=
  cache.items.find? (·.key = key)

def answer? (cache : TTLCache Value) (key : String) (bucket : Int) :
    Option (CachedAnswer Value) :=
  cache.answers.find? fun answer =>
    answer.key = key ∧ answer.bucket = bucket

/-- `int(now / self._ttl_seconds) if self._ttl_seconds > 0 else 0`; the clock
does not read below zero. -/
def bucketAt (cache : TTLCache Value) (now : Rat) : Int :=
  if 0 < cache.ttlSeconds then ⌊now / cache.ttlSeconds⌋ else 0

/-- The body of `cached_get`. -/
def freshValue (cache : TTLCache Value) (key : String) (now : Rat) :
    Option Value :=
  match cache.item? key with
  | none => none
  | some item =>
      if cache.ttlSeconds ≤ now - item.createdAt then none else item.value

/-- `cached_get` behind its `lru_cache`. -/
def cachedGet (cache : TTLCache Value) (key : String) (bucket : Int)
    (now : Rat) : Option Value × TTLCache Value :=
  match cache.answer? key bucket with
  | some answer =>
      (answer.value,
        { cache with
          answers := cache.answers.filter (fun other =>
            ¬ (other.key = key ∧ other.bucket = bucket)) ++ [answer] })
  | none =>
      let answer : CachedAnswer Value :=
        { key := key
          bucket := bucket
          value := cache.freshValue key now }
      (answer.value,
        { cache with
          answers := (cache.answers ++ [answer]).drop
            (cache.answers.length + 1 - cache.maxsize) })

/-- `self._items.pop(key, None)`. -/
def pop (cache : TTLCache Value) (key : String) : TTLCache Value :=
  { cache with items := cache.items.filter (·.key ≠ key) }

/-- `self._items.move_to_end(key)`; `none` stands for its `KeyError`. -/
def moveToEnd (cache : TTLCache Value) (key : String) :
    Option (TTLCache Value) :=
  (cache.item? key).map fun item =>
    { cache with items := cache.items.filter (·.key ≠ key) ++ [item] }

/-- `get`; the clock is read twice. -/
def get (cache : TTLCache Value) (key : String) (now later : Rat) :
    Option (Option Value × TTLCache Value) :=
  let answered := cache.cachedGet key (cache.bucketAt now) later
  match answered.1 with
  | none =>
      match answered.2.item? key with
      | none => some (none, answered.2)
      | some item =>
          if cache.ttlSeconds ≤ now - item.createdAt then
            some (none, answered.2.pop key)
          else some (none, answered.2)
  | some value =>
      (answered.2.moveToEnd key).map fun moved => (some value, moved)

/-- `set`. -/
def set (cache : TTLCache Value) (key : String) (value : Option Value)
    (now : Rat) : TTLCache Value :=
  let items := cache.items.filter (·.key ≠ key) ++
    [{ key := key
       createdAt := now
       value := value }]
  { cache with
    items := items.drop (items.length - cache.maxsize)
    answers := [] }

end TTLCache

/-! ## Runs -/

inductive CacheCall (Value : Type*) where
  | get (key : String) (now later : Rat)
  | set (key : String) (value : Option Value) (now : Rat)

/-- The readings of the clock during a call. -/
def CacheCall.readings : CacheCall Value → List Rat
  | .get _ now later => [now, later]
  | .set _ _ now => [now]

namespace TTLCache

/-- A call: what it returns, and the cache it leaves. -/
def call (cache : TTLCache Value) :
    CacheCall Value → Option (Option Value × TTLCache Value)
  | .get key now later => cache.get key now later
  | .set key value now => some (none, cache.set key value now)

/-- The cache after a list of calls. -/
def run (cache : TTLCache Value) :
    List (CacheCall Value) → Option (TTLCache Value)
  | [] => some cache
  | call :: calls => (cache.call call).bind fun result => result.2.run calls

end TTLCache

/-- `time.monotonic`. -/
def MonotoneClock (calls : List (CacheCall Value)) : Prop :=
  (calls.flatMap (·.readings)).Pairwise (· ≤ ·)

/-- A value that was set for a key less than `ttlSeconds` ago. -/
def SetLately (ttlSeconds : Rat) (before : List (CacheCall Value))
    (key : String) (value : Value) (now : Rat) : Prop :=
  ∃ setAt, .set key (some value) setAt ∈ before ∧ now - setAt < ttlSeconds

/-- Within a run from an empty cache, every call succeeds, `get` returns only
what was set for its key lately, and there are never too many items. -/
def CacheSound (maxsize : Int) (ttlSeconds : Rat)
    (calls : List (CacheCall Value)) : Prop :=
  ∀ before call after, calls = before ++ call :: after →
    ∃ cache result,
      (TTLCache.init maxsize ttlSeconds).run before = some cache ∧
        cache.call call = some result ∧
          (result.2.items.length : Int) ≤ max 1 maxsize ∧
            ∀ key now later value, call = .get key now later →
              result.1 = some value →
                SetLately ttlSeconds before key value now

/-- The second cache has an answer for the key whose value has expired. -/
def TTLCache.AnswersStale (cache : TTLCache Value) (key : String)
    (now : Rat) : Prop :=
  ∃ answer item value, cache.answer? key (cache.bucketAt now) = some answer ∧
    answer.value = some value ∧ cache.item? key = some item ∧
      cache.ttlSeconds ≤ now - item.createdAt

/-- No `get` of the run meets an answer that has outlived its value. -/
def NoStaleAnswers (maxsize : Int) (ttlSeconds : Rat)
    (calls : List (CacheCall Value)) : Prop :=
  ∀ before key now later after cache,
    calls = before ++ .get key now later :: after →
      (TTLCache.init maxsize ttlSeconds).run before = some cache →
        ¬ cache.AnswersStale key now

/-! ## What a call does -/

namespace TTLCache

theorem bucketAt_mono (cache : TTLCache Value) {first second : Rat}
    (ordered : first ≤ second) :
    cache.bucketAt first ≤ cache.bucketAt second := by
  unfold bucketAt
  split
  · next positive =>
      exact Int.floor_le_floor
        (div_le_div_of_nonneg_right ordered positive.le)
  · exact Int.le_refl _

theorem item?_eq_some {cache : TTLCache Value} {key : String}
    {item : CacheItem Value} (found : cache.item? key = some item) :
    item ∈ cache.items ∧ item.key = key :=
  ⟨List.mem_of_find?_eq_some found, by simpa using List.find?_some found⟩

theorem answer?_eq_some {cache : TTLCache Value} {key : String} {bucket : Int}
    {answer : CachedAnswer Value}
    (found : cache.answer? key bucket = some answer) :
    answer ∈ cache.answers ∧ answer.key = key ∧ answer.bucket = bucket :=
  ⟨List.mem_of_find?_eq_some found, by simpa using List.find?_some found⟩

/-- An item is found under its key if no two have the same. -/
theorem item?_of_mem {cache : TTLCache Value} {item : CacheItem Value}
    (unique : (cache.items.map (·.key)).Nodup) (member : item ∈ cache.items) :
    cache.item? item.key = some item := by
  unfold item?
  revert unique member
  induction cache.items with
  | nil => exact fun _ member => nomatch member
  | cons first items induction =>
      intro unique member
      rw [List.map_cons, List.nodup_cons] at unique
      rcases List.mem_cons.mp member with rfl | later
      · rw [List.find?_cons_of_pos (by simp)]
      · have other : first.key ≠ item.key := by
          intro same
          exact unique.1 (same ▸ List.mem_map_of_mem later)
        rw [List.find?_cons_of_neg (by simpa using other)]
        exact induction unique.2 later

theorem moved_perm {items : List (CacheItem Value)} {item : CacheItem Value}
    (unique : (items.map (·.key)).Nodup) (member : item ∈ items) :
    (items.filter (·.key ≠ item.key) ++ [item]).Perm items := by
  have nodup := unique.of_map
  have only : ∀ other ∈ items, other.key = item.key → other = item :=
    fun other isOther same =>
      List.inj_on_of_nodup_map unique isOther member same
  apply (List.perm_ext_iff_of_nodup _ nodup).mpr
  · intro other
    rw [List.mem_append, List.mem_filter, List.mem_singleton]
    constructor
    · rintro (⟨known, _⟩ | rfl)
      · exact known
      · exact member
    · intro known
      by_cases same : other.key = item.key
      · exact .inr (only other known same)
      · exact .inl ⟨known, decide_eq_true same⟩
  · apply List.Nodup.append (nodup.filter _) (List.nodup_singleton _)
    intro other kept isItem
    rw [List.mem_singleton.mp isItem] at kept
    exact of_decide_eq_true (List.mem_filter.mp kept).2 rfl

/-- The answer is an earlier one or the fresh value, and it is the only one
for its key and bucket. -/
theorem cachedGet_spec (cache : TTLCache Value) (key : String) (bucket : Int)
    (now : Rat) :
    (∃ answers, (cache.cachedGet key bucket now).2 =
        { cache with answers := answers } ∧
      ∀ answer ∈ answers,
        answer ∈ cache.answers ∧
            ¬ (answer.key = key ∧ answer.bucket = bucket) ∨
          answer.key = key ∧ answer.bucket = bucket ∧
            answer.value = (cache.cachedGet key bucket now).1) ∧
    ((∃ answer, cache.answer? key bucket = some answer ∧
        answer.value = (cache.cachedGet key bucket now).1) ∨
      cache.answer? key bucket = none ∧
        (cache.cachedGet key bucket now).1 = cache.freshValue key now) := by
  unfold cachedGet
  cases found : cache.answer? key bucket with
  | some answer =>
      refine ⟨⟨_, rfl, ?_⟩, .inl ⟨answer, rfl, rfl⟩⟩
      intro other member
      rcases List.mem_append.mp member with kept | isAnswer
      · obtain ⟨known, apart⟩ := List.mem_filter.mp kept
        exact .inl ⟨known, of_decide_eq_true apart⟩
      · rw [List.mem_singleton.mp isAnswer]
        obtain ⟨_, sameKey, sameBucket⟩ := answer?_eq_some found
        exact .inr ⟨sameKey, sameBucket, rfl⟩
  | none =>
      refine ⟨⟨_, rfl, ?_⟩, .inr ⟨rfl, rfl⟩⟩
      intro other member
      rcases List.mem_append.mp (List.mem_of_mem_drop member) with
        known | isAnswer
      · left
        refine ⟨known, ?_⟩
        simpa using List.find?_eq_none.mp found other known
      · rw [List.mem_singleton.mp isAnswer]
        exact .inr ⟨rfl, rfl, rfl⟩

end TTLCache

/-- What is known of the cache after a list of calls. -/
structure CacheInv (maxsize : Int) (ttlSeconds : Rat)
    (before : List (CacheCall Value)) (cache : TTLCache Value) : Prop where
  capacity : cache.maxsize = (max 1 maxsize).toNat
  lifetime : cache.ttlSeconds = ttlSeconds
  size : cache.items.length ≤ cache.maxsize
  unique : (cache.items.map (·.key)).Nodup
  stored : ∀ item ∈ cache.items,
    .set item.key item.value item.createdAt ∈ before
  latest : ∀ item ∈ cache.items, ∀ value setAt,
    .set item.key value setAt ∈ before → setAt ≤ item.createdAt
  answered : ∀ answer ∈ cache.answers,
    ∃ reading ∈ before.flatMap (·.readings),
      answer.bucket = cache.bucketAt reading
  /-- An answer without item belongs to a bucket that is over. -/
  backed : ∀ answer ∈ cache.answers, ∀ value, answer.value = some value →
    (∃ item ∈ cache.items,
        item.key = answer.key ∧ item.value = some value) ∨
      ∃ reading ∈ before.flatMap (·.readings),
        answer.bucket < cache.bucketAt reading

theorem cacheInv_init (maxsize : Int) (ttlSeconds : Rat) :
    CacheInv maxsize ttlSeconds ([] : List (CacheCall Value))
      (TTLCache.init maxsize ttlSeconds) :=
  { capacity := rfl
    lifetime := rfl
    size := Nat.zero_le _
    unique := List.nodup_nil
    stored := nofun
    latest := nofun
    answered := nofun
    backed := nofun }

section Calls

variable {maxsize : Int} {ttlSeconds : Rat}
  {before : List (CacheCall Value)} {cache : TTLCache Value}

theorem CacheInv.set (inv : CacheInv maxsize ttlSeconds before cache)
    {key : String} {value : Option Value} {now : Rat}
    (latest : ∀ reading ∈ before.flatMap (·.readings), reading ≤ now) :
    CacheInv maxsize ttlSeconds (before ++ [.set key value now])
      (cache.set key value now) := by
  have isItem : ∀ item ∈ (cache.set key value now).items,
      item ∈ cache.items ∧ item.key ≠ key ∨
        item = { key := key
                 createdAt := now
                 value := value } := by
    intro item member
    rcases List.mem_append.mp (List.mem_of_mem_drop member) with
      kept | isNew
    · obtain ⟨known, other⟩ := List.mem_filter.mp kept
      exact .inl ⟨known, of_decide_eq_true other⟩
    · exact .inr (List.mem_singleton.mp isNew)
  constructor
  case capacity => exact inv.capacity
  case lifetime => exact inv.lifetime
  case size =>
    unfold TTLCache.set
    dsimp only
    rw [List.length_drop]
    omega
  case unique =>
    unfold TTLCache.set
    dsimp only
    apply List.Nodup.sublist ((List.drop_sublist _ _).map _)
    rw [List.map_append, List.map_cons, List.map_nil]
    apply List.Nodup.append
    · exact inv.unique.sublist (List.filter_sublist.map _)
    · exact List.nodup_singleton _
    · intro other isKept isNew
      rcases List.mem_map.mp isKept with ⟨item, kept, rfl⟩
      exact of_decide_eq_true (List.mem_filter.mp kept).2
        (List.mem_singleton.mp isNew)
  case stored =>
    intro item member
    rcases isItem item member with ⟨known, _⟩ | rfl
    · exact List.mem_append_left _ (inv.stored item known)
    · exact List.mem_append_right _ List.mem_cons_self
  case latest =>
    intro item member other setAt isSet
    rcases isItem item member with ⟨known, otherKey⟩ | rfl
    · rcases List.mem_append.mp isSet with earlier | here
      · exact inv.latest item known other setAt earlier
      · cases List.mem_singleton.mp here
        exact absurd rfl otherKey
    · rcases List.mem_append.mp isSet with earlier | here
      · exact latest setAt (List.mem_flatMap.mpr
          ⟨_, earlier, List.mem_cons_self⟩)
      · cases List.mem_singleton.mp here
        exact le_refl now
  case answered => nofun
  case backed => nofun

/-- The invariant looks at the items and the answers only by membership. -/
theorem CacheInv.get_of (inv : CacheInv maxsize ttlSeconds before cache)
    {key : String} {now later : Rat}
    {items : List (CacheItem Value)} {answers : List (CachedAnswer Value)}
    (size : items.length ≤ cache.items.length)
    (unique : (items.map (·.key)).Nodup)
    (known : ∀ item ∈ items, item ∈ cache.items)
    (answered : ∀ answer ∈ answers, answer ∈ cache.answers ∨
      answer.bucket = cache.bucketAt now)
    (backed : ∀ answer ∈ answers, ∀ value, answer.value = some value →
      (∃ item ∈ items, item.key = answer.key ∧ item.value = some value) ∨
        ∃ reading ∈ (before ++ [CacheCall.get key now later]).flatMap
            CacheCall.readings,
          answer.bucket < cache.bucketAt reading) :
    CacheInv maxsize ttlSeconds (before ++ [.get key now later])
      { cache with
        items := items
        answers := answers } := by
  constructor
  case capacity => exact inv.capacity
  case lifetime => exact inv.lifetime
  case size => exact Nat.le_trans size inv.size
  case unique => exact unique
  case stored =>
    intro item member
    exact List.mem_append_left _ (inv.stored item (known item member))
  case latest =>
    intro item member other setAt isSet
    rcases List.mem_append.mp isSet with earlier | here
    · exact inv.latest item (known item member) other setAt earlier
    · cases List.mem_singleton.mp here
  case answered =>
    intro answer member
    rcases answered answer member with old | isNow
    · obtain ⟨reading, known, same⟩ := inv.answered answer old
      refine ⟨reading, ?_, same⟩
      rw [List.flatMap_append]
      exact List.mem_append_left _ known
    · refine ⟨now, ?_, isNow⟩
      rw [List.flatMap_append]
      exact List.mem_append_right _ List.mem_cons_self
  case backed => exact backed

/-- The answers after `cached_get` at a bucket that is not over yet, when some
item has been dropped. -/
theorem CacheInv.cachedGet (inv : CacheInv maxsize ttlSeconds before cache)
    {key : String} {now later : Rat}
    (latest : ∀ reading ∈ before.flatMap (·.readings), reading ≤ now)
    {items : List (CacheItem Value)} {answers : List (CachedAnswer Value)}
    (size : items.length ≤ cache.items.length)
    (unique : (items.map (·.key)).Nodup)
    (known : ∀ item ∈ items, item ∈ cache.items)
    (dropped : ∀ item ∈ cache.items, item ∉ items →
      item.key = key ∧
        (cache.cachedGet key (cache.bucketAt now) later).1 = none)
    (ofAnswers : ∀ answer ∈ answers,
      answer ∈ cache.answers ∧
          ¬ (answer.key = key ∧ answer.bucket = cache.bucketAt now) ∨
        answer.key = key ∧ answer.bucket = cache.bucketAt now ∧
          answer.value =
            (cache.cachedGet key (cache.bucketAt now) later).1)
    (ofFresh : ∀ value,
      (cache.cachedGet key (cache.bucketAt now) later).1 = some value →
        ∃ item ∈ items, item.key = key ∧ item.value = some value) :
    CacheInv maxsize ttlSeconds (before ++ [.get key now later])
      { cache with
        items := items
        answers := answers } := by
  apply inv.get_of size unique known
  · intro answer member
    rcases ofAnswers answer member with ⟨old, _⟩ | ⟨_, isNow, _⟩
    · exact .inl old
    · exact .inr isNow
  · intro answer member value isValue
    rcases ofAnswers answer member with ⟨old, apart⟩ | ⟨sameKey, _, same⟩
    · rcases inv.backed answer old value isValue with
        ⟨item, isItem, itemKey, itemValue⟩ | ⟨reading, isReading, elapsed⟩
      · by_cases kept : item ∈ items
        · exact .inl ⟨item, kept, itemKey, itemValue⟩
        · right
          -- the item was dropped, so the answer is of an earlier bucket
          obtain ⟨sameKey, _⟩ := dropped item isItem kept
          obtain ⟨reading, isReading, isBucket⟩ := inv.answered answer old
          have notLater := cache.bucketAt_mono (latest reading isReading)
          refine ⟨now, ?_, ?_⟩
          · rw [List.flatMap_append]
            exact List.mem_append_right _ List.mem_cons_self
          · have otherBucket : answer.bucket ≠ cache.bucketAt now := by
              intro sameBucket
              exact apart ⟨itemKey.symm.trans sameKey, sameBucket⟩
            omega
      · right
        refine ⟨reading, ?_, elapsed⟩
        rw [List.flatMap_append]
        exact List.mem_append_left _ isReading
    · obtain ⟨item, isItem, itemKey, itemValue⟩ :=
        ofFresh value (same.symm.trans isValue)
      exact .inl ⟨item, isItem, itemKey.trans sameKey.symm, itemValue⟩

/-- What is answered comes from an item that is fresh, or from an answer that
has outlived it. -/
theorem CacheInv.answer_source
    (inv : CacheInv maxsize ttlSeconds before cache)
    {key : String} {now later : Rat} {value : Value}
    (latest : ∀ reading ∈ before.flatMap (·.readings), reading ≤ now)
    (ordered : now ≤ later)
    (answers : (cache.cachedGet key (cache.bucketAt now) later).1 =
      some value) :
    ∃ item, cache.item? key = some item ∧ item.value = some value ∧
      (now - item.createdAt < ttlSeconds ∨ cache.AnswersStale key now) := by
  rcases (cache.cachedGet_spec key (cache.bucketAt now) later).2 with
    ⟨answer, found, same⟩ | ⟨_, isFresh⟩
  · obtain ⟨member, sameKey, sameBucket⟩ := TTLCache.answer?_eq_some found
    have isValue := same.trans answers
    rcases inv.backed answer member value isValue with
      ⟨item, isItem, itemKey, itemValue⟩ | ⟨reading, isReading, elapsed⟩
    · have foundItem : cache.item? key = some item := by
        rw [← sameKey, ← itemKey]
        exact TTLCache.item?_of_mem inv.unique isItem
      refine ⟨item, foundItem, itemValue, ?_⟩
      rw [← inv.lifetime]
      by_cases fresh : now - item.createdAt < cache.ttlSeconds
      · exact .inl fresh
      · exact .inr ⟨answer, item, value, found, isValue, foundItem,
          not_lt.mp fresh⟩
    · have notLater := cache.bucketAt_mono (latest reading isReading)
      omega
  · rw [answers] at isFresh
    unfold TTLCache.freshValue at isFresh
    split at isFresh
    · cases isFresh
    · next item foundItem =>
        split at isFresh
        · cases isFresh
        · next fresh =>
            refine ⟨item, foundItem, isFresh.symm, .inl ?_⟩
            rw [← inv.lifetime]
            have young := not_le.mp fresh
            linarith

theorem CacheInv.get (inv : CacheInv maxsize ttlSeconds before cache)
    (key : String) {now later : Rat}
    (latest : ∀ reading ∈ before.flatMap (·.readings), reading ≤ now)
    (ordered : now ≤ later) :
    ∃ result, cache.get key now later = some result ∧
      CacheInv maxsize ttlSeconds (before ++ [.get key now later])
        result.2 ∧
      result.1 = (cache.cachedGet key (cache.bucketAt now) later).1 := by
  obtain ⟨⟨answers, isAnswered, ofAnswers⟩, _⟩ :=
    cache.cachedGet_spec key (cache.bucketAt now) later
  have source : ∀ value,
      (cache.cachedGet key (cache.bucketAt now) later).1 = some value →
        ∃ item, cache.item? key = some item ∧ item.value = some value ∧
          (now - item.createdAt < ttlSeconds ∨
            cache.AnswersStale key now) :=
    fun value => inv.answer_source latest ordered
  unfold TTLCache.get
  dsimp only
  rw [isAnswered]
  cases answer : (cache.cachedGet key (cache.bucketAt now) later).1 with
  | none =>
      have kept : CacheInv maxsize ttlSeconds
          (before ++ [.get key now later])
          { cache with answers := answers } :=
        inv.cachedGet latest (Nat.le_refl _) inv.unique (fun _ => id)
          (fun item member absent => absurd member absent) ofAnswers
          (fun value isSome => by
            rw [answer] at isSome
            cases isSome)
      dsimp only
      split
      · exact ⟨_, rfl, kept, rfl⟩
      · next item found =>
          split
          · refine ⟨_, rfl, ?_, rfl⟩
            apply inv.cachedGet latest (List.length_filter_le _ _)
              (inv.unique.sublist (List.filter_sublist.map _))
              (fun item member => List.mem_of_mem_filter member) _ ofAnswers
              (fun value isSome => by
                rw [answer] at isSome
                cases isSome)
            intro item member absent
            refine ⟨?_, answer⟩
            by_contra other
            exact absent (List.mem_filter.mpr
              ⟨member, decide_eq_true other⟩)
          · exact ⟨_, rfl, kept, rfl⟩
  | some value =>
      obtain ⟨item, found, isValue, _⟩ := source value answer
      obtain ⟨member, sameKey⟩ := TTLCache.item?_eq_some found
      have moved : TTLCache.moveToEnd { cache with answers := answers } key =
          some
            { cache with
              items := cache.items.filter (·.key ≠ key) ++ [item]
              answers := answers } := by
        unfold TTLCache.moveToEnd
        have same : TTLCache.item? { cache with answers := answers } key =
            some item := found
        rw [same]
        rfl
      dsimp only
      rw [moved]
      have perm := TTLCache.moved_perm inv.unique member
      rw [sameKey] at perm
      refine ⟨_, rfl, ?_, rfl⟩
      apply inv.cachedGet latest (Nat.le_of_eq perm.length_eq)
        ((perm.map _).nodup_iff.mpr inv.unique)
        (fun item member => perm.mem_iff.mp member)
        (fun item member absent =>
          absurd (perm.mem_iff.mpr member) absent) ofAnswers
      intro other isOther
      rw [answer] at isOther
      cases isOther
      exact ⟨item, List.mem_append_right _ List.mem_cons_self, sameKey,
        isValue⟩

theorem CacheInv.call (inv : CacheInv maxsize ttlSeconds before cache)
    {call : CacheCall Value}
    (latest : ∀ reading ∈ before.flatMap (·.readings),
      ∀ now ∈ call.readings, reading ≤ now)
    (ordered : call.readings.Pairwise (· ≤ ·)) :
    ∃ result, cache.call call = some result ∧
      CacheInv maxsize ttlSeconds (before ++ [call]) result.2 := by
  cases call with
  | get key now later =>
      have isOrdered : now ≤ later :=
        (List.pairwise_cons.mp ordered).1 later List.mem_cons_self
      obtain ⟨result, called, kept, _⟩ := inv.get key
        (fun reading known => latest reading known now List.mem_cons_self)
        isOrdered
      exact ⟨result, called, kept⟩
  | set key value now =>
      exact ⟨_, rfl, inv.set fun reading known =>
        latest reading known now List.mem_cons_self⟩

end Calls

/-! ## What a run does -/

theorem MonotoneClock.call {before after : List (CacheCall Value)}
    {call : CacheCall Value}
    (monotone : MonotoneClock (before ++ call :: after)) :
    (∀ reading ∈ before.flatMap (·.readings), ∀ now ∈ call.readings,
      reading ≤ now) ∧ call.readings.Pairwise (· ≤ ·) := by
  unfold MonotoneClock at monotone
  rw [List.flatMap_append, List.flatMap_cons, List.pairwise_append,
    List.pairwise_append] at monotone
  exact ⟨fun reading known now isReading =>
    monotone.2.2 reading known now (List.mem_append_left _ isReading),
    monotone.2.1.1⟩

theorem TTLCache.run_append (cache : TTLCache Value)
    (before after : List (CacheCall Value)) :
    cache.run (before ++ after) =
      (cache.run before).bind (·.run after) := by
  induction before generalizing cache with
  | nil => rfl
  | cons call before induction =>
      rw [List.cons_append, TTLCache.run, TTLCache.run, Option.bind_assoc]
      congr 1
      funext result
      exact induction result.2

theorem run_cacheInv (maxsize : Int) (ttlSeconds : Rat)
    (before after : List (CacheCall Value))
    (monotone : MonotoneClock (before ++ after)) :
    ∃ cache, (TTLCache.init maxsize ttlSeconds).run before = some cache ∧
      CacheInv maxsize ttlSeconds before cache := by
  induction before using List.reverseRecOn generalizing after with
  | nil => exact ⟨_, rfl, cacheInv_init maxsize ttlSeconds⟩
  | append_singleton before call induction =>
      rw [List.append_assoc, List.singleton_append] at monotone
      obtain ⟨cache, reached, inv⟩ := induction (call :: after) monotone
      obtain ⟨latest, ordered⟩ := monotone.call
      obtain ⟨result, called, kept⟩ := inv.call latest ordered
      refine ⟨result.2, ?_, kept⟩
      rw [TTLCache.run_append, reached, Option.bind_some, TTLCache.run, called]
      rfl

/-- A run returns only fresh values if and only if no `get` meets an answer of
the second cache that has outlived its value. -/
theorem cacheSound_iff (maxsize : Int) (ttlSeconds : Rat)
    (calls : List (CacheCall Value)) (monotone : MonotoneClock calls) :
    CacheSound maxsize ttlSeconds calls ↔
      NoStaleAnswers maxsize ttlSeconds calls := by
  constructor
  · intro sound before key now later after cache isSplit reached stale
    obtain ⟨answer, item, value, found, isValue, foundItem, expired⟩ := stale
    subst isSplit
    obtain ⟨known, isReached, inv⟩ :=
      run_cacheInv maxsize ttlSeconds before _ monotone
    obtain rfl : known = cache := Option.some.inj (isReached.symm.trans reached)
    obtain ⟨latest, ordered⟩ := monotone.call
    obtain ⟨result, called, _, isAnswer⟩ := inv.get key
      (fun reading known => latest reading known now List.mem_cons_self)
      ((List.pairwise_cons.mp ordered).1 later List.mem_cons_self)
    obtain ⟨other, otherResult, otherReached, otherCalled, _, lately⟩ :=
      sound before (.get key now later) after rfl
    obtain rfl : known = other :=
      Option.some.inj (isReached.symm.trans otherReached)
    obtain rfl : result = otherResult :=
      Option.some.inj (called.symm.trans otherCalled)
    have returned : result.1 = some value := by
      rw [isAnswer, TTLCache.cachedGet, found]
      exact isValue
    obtain ⟨setAt, isSet, young⟩ := lately key now later value rfl returned
    obtain ⟨isItem, sameKey⟩ := TTLCache.item?_eq_some foundItem
    rw [← sameKey] at isSet
    have notLater := inv.latest item isItem (some value) setAt isSet
    rw [inv.lifetime] at expired
    linarith
  · intro noStale before call after isSplit
    subst isSplit
    obtain ⟨cache, reached, inv⟩ :=
      run_cacheInv maxsize ttlSeconds before _ monotone
    obtain ⟨latest, ordered⟩ := monotone.call
    obtain ⟨result, called, kept⟩ := inv.call latest ordered
    refine ⟨cache, result, reached, called, ?_, ?_⟩
    · have size := kept.size
      rw [kept.capacity] at size
      omega
    · rintro key now later value rfl returned
      have isOrdered : now ≤ later :=
        (List.pairwise_cons.mp ordered).1 later List.mem_cons_self
      have atNow : ∀ reading ∈ before.flatMap (·.readings), reading ≤ now :=
        fun reading known => latest reading known now List.mem_cons_self
      obtain ⟨other, otherCalled, _, isAnswer⟩ :=
        inv.get key atNow isOrdered
      obtain rfl : result = other :=
        Option.some.inj (called.symm.trans otherCalled)
      obtain ⟨item, found, isValue, fresh | stale⟩ :=
        inv.answer_source atNow isOrdered (isAnswer.symm.trans returned)
      · obtain ⟨isItem, sameKey⟩ := TTLCache.item?_eq_some found
        have isSet := inv.stored item isItem
        rw [sameKey, isValue] at isSet
        exact ⟨item.createdAt, isSet, fresh⟩
      · exact absurd stale (noStale before key now later after cache rfl
          reached)

namespace TtlCacheExample

/-- A value is set, read while it is fresh, and read again in the same stretch
of 300 seconds. -/
def readTwice (second : Rat) : List (CacheCall Nat) :=
  [.set "query" (some 7) 10, .get "query" 305 305, .get "query" second second]

theorem readTwice_monotone {second : Rat} (after : 305 ≤ second) :
    MonotoneClock (readTwice second) := by
  unfold MonotoneClock readTwice
  simp only [List.flatMap_cons, List.flatMap_nil, CacheCall.readings,
    List.append_nil, List.cons_append, List.nil_append,
    List.pairwise_cons, List.mem_cons, List.not_mem_nil, or_false,
    forall_eq_or_imp, forall_eq, IsEmpty.forall_iff, implies_true,
    List.Pairwise.nil, and_true]
  have more : (10 : Rat) ≤ second := le_trans (by norm_num) after
  norm_num [after, more]

theorem cacheSound_iff_readTwice :
    CacheSound 256 300 (readTwice 309) ↔
      NoStaleAnswers 256 300 (readTwice 309) :=
  cacheSound_iff 256 300 (readTwice 309) (readTwice_monotone (by norm_num))

/-- The second reading returns a value that is 580 seconds old. -/
theorem second_reading_stale :
    MonotoneClock (readTwice 590) ∧
      ¬ CacheSound 256 300 (readTwice 590) := by
  refine ⟨readTwice_monotone (by norm_num), ?_⟩
  intro sound
  obtain ⟨cache, result, reached, called, _, lately⟩ :=
    sound [.set "query" (some 7) 10, .get "query" 305 305]
      (.get "query" 590 590) [] rfl
  have returned : (((TTLCache.init 256 300).run
      [.set "query" (some 7) 10, .get "query" 305 305]).bind
        (·.call (.get "query" 590 590))).map Prod.fst = some (some 7) := by
    decide +kernel
  rw [reached, Option.bind_some, called, Option.map_some,
    Option.some.injEq] at returned
  obtain ⟨setAt, isSet, young⟩ :=
    lately "query" 590 590 7 rfl returned
  simp only [List.mem_cons, CacheCall.set.injEq, reduceCtorEq,
    List.not_mem_nil, or_false, true_and] at isSet
  subst isSet
  norm_num at young

end TtlCacheExample

end CompetiScope
