import CompetiScope.Crawler.FetchCalls
import CompetiScope.Crawler.FrontierRuns

/-!
# Fetches that settle

Where no call raises what nobody expects, a fetch ends in a result.  It gives
its permits back unless it is cancelled between taking the global permit and
its first request, and it makes at most three attempts.
-/

namespace CompetiScope

open Foundation

section Pieces

variable {world : FetchWorld} {among : FetchError → Prop}

open Fetching

/-! ## Permits -/

/-- The permits are out as before unless a cancellation leaked some; at most
three attempts. -/
def Finished (news : List FetchEvent) : Prop :=
  (Balanced news ↔ ∀ event ∈ news, event.leaksPermits = false) ∧
    Attempts 3 news

theorem Inner.balanced {news : List FetchEvent} (inner : Inner news) :
    Balanced news :=
  fun permit => inner.heldPermits permit

theorem Tries.finished {news : List FetchEvent} (tries : Tries 3 news) :
    Finished news :=
  ⟨iff_of_true tries.1.balanced fun event member => (tries.1 event member).2,
    tries.2⟩

theorem AtMost.prependFinished {first second : List FetchEvent}
    (few : AtMost 0 first) (finished : Finished second) :
    Finished (first ++ second) := by
  refine ⟨?_, finished.2.prepend (Nat.le_zero.mp few.2)⟩
  have held : ∀ permit, heldPermits permit (first ++ second) =
      heldPermits permit second := by
    intro permit
    rw [heldPermits_append, few.1.heldPermits, Int.zero_add]
  unfold Balanced
  simp only [held]
  rw [List.forall_mem_append]
  refine Iff.trans finished.1 (Iff.symm (and_iff_right ?_))
  exact fun event member => (few.1 event member).2

theorem calls_fetchPage (request : CrawlRequest) :
    Calls anyError (Tries 3) (world.fetchPage request) := by
  apply (calls_getWithRetriesFrom request 3 0).bind
  · intro answered
    apply (calls_orFail .decode rfl).bindNone
    intro text
    dsimp only
    split
    · apply (calls_renderWithPlaywright answered.1.url).widen.bindNone
      exact fun rendered => Calls.pure _ (AtMost.nil 0)
    · exact Calls.pure _ (AtMost.nil 0)
  · exact fun _ _ tries few => tries.append few
  · exact fun _ tries => tries

theorem calls_doFetch (request : CrawlRequest) :
    Calls noError (Tries 3) (world.doFetch request) := by
  apply (calls_fetchPage request).tryCatch
  · intro error expected _
    match error, expected with
    | .crawl (.ssrf _), _ => exact Calls.pure _ (AtMost.nil 0)
    | .crawl (.timeout _), _ => exact Calls.pure _ (AtMost.nil 0)
    | .crawl (.transport _), _ => exact Calls.pure _ (AtMost.nil 0)
    | .crawl (.http _), _ => exact Calls.pure _ (AtMost.nil 0)
  · intro error unexpected
    match error, unexpected with
    | .crawl (.other _), _ => rfl
    | .cancelled, _ => rfl
  · exact fun _ _ tries few => tries.append few
  · exact fun _ tries => tries

theorem calls_isDenied (url : String) :
    Calls noError (AtMost 0) (world.isDenied url) := by
  apply (calls_orFail .url rfl).bindNone
  exact fun parsed => Calls.pure _ (AtMost.nil 0)

theorem calls_rejection (url : String) :
    Calls noError (AtMost 0) (world.rejection url) := by
  have validated : Calls (fun error => error.isRejection = true) (AtMost 0)
      (do
        let _ ← world.validateUrl url
        return (none : Option String)) := by
    apply (calls_validateUrl (fun _ rejection => rejection) url).bindNone
    exact fun _ => Calls.pure _ (AtMost.nil 0)
  apply validated.tryCatch
  · intro error _ rejection
    match error, rejection with
    | .crawl (.ssrf message), _ => exact Calls.pure _ (AtMost.nil 0)
  · intro error unexpected
    match error, unexpected with
    | .crawl (.other _), _ => rfl
    | .cancelled, _ => rfl
  · exact fun _ _ few none => few.append none
  · exact fun _ few => few

theorem calls_checkRobots (url : String) :
    Calls noError (AtMost 0) (world.checkRobots url) := by
  apply (calls_orFail .url rfl).bindNone
  intro parsed
  apply Calls.get
  intro state
  split
  · exact calls_orFail .robotsRules rfl
  · apply (calls_readRobots _).bindNone
    intro rules
    have cached : Calls noError (AtMost 0)
        (modify fun state : FetchState => { state with
          robotsCache := state.robotsCache.set
            (parsed.scheme ++ "://" ++ parsed.netloc) rules }) :=
      Emits.modify (fun state => (List.append_nil state.log).symm)
        ⟨smooth_nil, AtMost.nil 0⟩
    apply cached.bindNone
    exact fun _ => calls_orFail .robotsRules rfl

/-- Taken permits, and nothing else. -/
def taken (parsed : ParsedUrl) : List FetchEvent :=
  [.acquired .overall, .acquired (.domain (FetchWorld.policyDomain parsed))]

def givenBack (parsed : ParsedUrl) : List FetchEvent :=
  [.released (.domain (FetchWorld.policyDomain parsed)), .released .overall]

/-- What interrupts `acquire`. -/
def Interrupted (error : FetchError) (news : List FetchEvent) : Prop :=
  error.isExpected = false ∧ error.Fits news ∧ Finished news

theorem AtMost.interrupted {error : FetchError} {news : List FetchEvent}
    (unexpected : error.isExpected = false) (fits : error.Fits news)
    (few : AtMost 0 news) : Interrupted error news :=
  ⟨unexpected, fits, (few.tries 3).finished⟩

theorem smooth_acquired (permits : List CrawlPermit) :
    Smooth (permits.map .acquired) := by
  intro event member
  obtain ⟨permit, -, isEvent⟩ := List.mem_map.mp member
  rw [← isEvent]
  exact ⟨rfl, rfl⟩

/-- A cancellation behind the global permit. -/
theorem interrupted_leak {site : FetchSite} (permits : List CrawlPermit)
    (leaks : (FetchEvent.cancelled site).leaksPermits = true)
    (held : .overall ∈ permits) :
    Interrupted .cancelled (permits.map .acquired ++ [.cancelled site]) := by
  have member : FetchEvent.cancelled site ∈
      permits.map .acquired ++ [.cancelled site] :=
    List.mem_append_right _ (List.mem_singleton_self _)
  have out : (permits.map FetchEvent.acquired).count
      (.acquired .overall) ≠ 0 := by
    rw [Ne, List.count_eq_zero, not_not]
    exact List.mem_map_of_mem held
  refine ⟨rfl, (fits_cancel site).append (smooth_acquired permits), ?_, ?_⟩
  · constructor
    case mp =>
      intro balanced
      have none : (permits.map FetchEvent.acquired).count
          (.released .overall) = 0 := by
        apply List.count_eq_zero.mpr
        intro member
        obtain ⟨permit, -, isEvent⟩ := List.mem_map.mp member
        cases isEvent
      have zero := balanced .overall
      simp only [heldPermits, List.count_append, none] at zero
      simp at zero
      exact absurd zero out
    case mpr =>
      intro keeps
      have kept := keeps _ member
      rw [leaks] at kept
      cases kept
  · apply attempts_of_none
    apply List.countP_eq_zero.mpr
    intro event isEvent
    rcases List.mem_append.mp isEvent with isTaken | isLast
    · obtain ⟨permit, -, rfl⟩ := List.mem_map.mp isTaken
      exact Bool.false_ne_true
    · rw [List.mem_singleton.mp isLast]
      exact Bool.false_ne_true

theorem emits_acquire (url : String) :
    Emits FetchState.log (world.acquire url)
      (fun _ news => ∃ parsed, world.library.urlparse url = .ok parsed ∧
        news = taken parsed)
      Interrupted := by
  unfold FetchWorld.acquire
  cases made : world.library.urlparse url with
  | error message =>
      apply Emits.bind (emits_fail .url message)
      · exact fun _ _ never => never.elim
      · intro error news raised
        rw [raised.1, raised.2]
        exact (AtMost.single ⟨rfl, rfl⟩ rfl).interrupted rfl
          (fits_fail message rfl)
  | ok parsed =>
      have waited : ∀ site, Emits FetchState.log (world.waitFor site)
          (fun _ news => news = [])
          (fun error news => error = .cancelled ∧
            news = [.cancelled site]) := by
        intro site
        apply Emits.get
        intro state
        split
        · exact Emits.pure rfl
        · apply (emits_cancel site).mono
          · exact fun _ _ never => never.elim
          · exact fun _ _ raised => raised
      change Emits FetchState.log (do
        world.waitFor .globalPermit
        emit (.acquired .overall)
        world.waitFor .domainPermit
        emit (.acquired (.domain (FetchWorld.policyDomain parsed)))
        world.waitFor .rateLimit) _ _
      apply (waited .globalPermit).bind
      · intro _ news isNews
        rw [isNews]
        simp only [List.nil_append]
        apply (emits_emit _).bind
        · intro _ news isNews
          rw [isNews]
          apply (waited .domainPermit).bind
          · intro _ news isNews
            rw [isNews]
            apply (emits_emit _).bind
            · intro _ news isNews
              rw [isNews]
              apply (waited .rateLimit).mono
              · intro _ news isNews
                rw [isNews]
                exact ⟨parsed, rfl, rfl⟩
              · intro error news raised
                rw [raised.1, raised.2]
                exact interrupted_leak
                  [.overall, .domain (FetchWorld.policyDomain parsed)] rfl
                  List.mem_cons_self
            · exact fun _ _ never => never.elim
          · intro error news raised
            rw [raised.1, raised.2]
            exact interrupted_leak [.overall] rfl List.mem_cons_self
        · exact fun _ _ never => never.elim
      · intro error news raised
        rw [raised.1, raised.2]
        exact (AtMost.single ⟨rfl, rfl⟩ rfl).interrupted rfl
          (fits_cancel .globalPermit)

theorem emits_release {url : String} {parsed : ParsedUrl}
    (made : world.library.urlparse url = .ok parsed) :
    Emits FetchState.log (world.release url)
      (fun _ news => news = givenBack parsed) (fun _ _ => False) := by
  unfold FetchWorld.release
  rw [made]
  change Emits FetchState.log (do
    emit (.released (.domain (FetchWorld.policyDomain parsed)))
    emit (.released .overall)) _ _
  apply (emits_emit _).bind
  · intro _ news isNews
    rw [isNews]
    apply (emits_emit _).mono
    · intro _ more isMore
      rw [isMore]
      rfl
    · exact fun _ _ never => never.elim
  · exact fun _ _ never => never.elim

/-- What is taken in front is given back at the end. -/
theorem finished_between {news : List FetchEvent} (tries : Tries 3 news)
    (parsed : ParsedUrl) :
    Finished (taken parsed ++ (news ++ givenBack parsed)) := by
  constructor
  case left =>
    apply iff_of_true
    · intro permit
      rw [heldPermits_append, heldPermits_append, tries.1.heldPermits]
      simp only [heldPermits, taken, givenBack, List.count_cons,
        List.count_nil]
      simp only [beq_iff_eq, FetchEvent.acquired.injEq, reduceCtorEq,
        FetchEvent.released.injEq]
      omega
    · intro event member
      rw [List.mem_append, List.mem_append] at member
      simp only [taken, givenBack, List.mem_cons, List.not_mem_nil,
        or_false] at member
      rcases member with (rfl | rfl) | inside | (rfl | rfl)
      · rfl
      · rfl
      · exact (tries.1 event inside).2
      · rfl
      · rfl
  case right =>
    apply Attempts.prepend
    · exact tries.2.append rfl
    · rfl

theorem smooth_taken (parsed : ParsedUrl) : Smooth (taken parsed) :=
  smooth_acquired [.overall, .domain (FetchWorld.policyDomain parsed)]

theorem smooth_givenBack (parsed : ParsedUrl) :
    Smooth (givenBack parsed) := by
  intro event member
  simp only [givenBack, List.mem_cons, List.not_mem_nil, or_false] at member
  rcases member with rfl | rfl
  · exact ⟨rfl, rfl⟩
  · exact ⟨rfl, rfl⟩

theorem FetchError.Fits.followed {error : FetchError}
    {first second : List FetchEvent} (fits : error.Fits first)
    (smooth : Smooth second) : error.Fits (first ++ second) := by
  match error, fits with
  | .crawl (.other _), ⟨event, member, unexpected⟩ =>
      exact ⟨event, List.mem_append_left second member, unexpected⟩
  | .crawl (.ssrf _), fits => exact smooth_append.mpr ⟨fits, smooth⟩
  | .crawl (.timeout _), fits => exact smooth_append.mpr ⟨fits, smooth⟩
  | .crawl (.transport _), fits => exact smooth_append.mpr ⟨fits, smooth⟩
  | .crawl (.http _), fits => exact smooth_append.mpr ⟨fits, smooth⟩
  | .cancelled, ⟨expected, event, member, isCancelled⟩ =>
      refine ⟨?_, event, List.mem_append_left second member, isCancelled⟩
      exact List.forall_mem_append.mpr
        ⟨expected, fun other isOther => (smooth other isOther).1⟩

/-- The fetch that holds its permits. -/
theorem calls_permitted (request : CrawlRequest) :
    Calls noError Finished (do
      world.acquire request.url
      tryFinally (world.doFetch request) (world.release request.url)) := by
  apply (emits_acquire request.url).bind
  · intro _ news acquired
    obtain ⟨parsed, made, isNews⟩ := acquired
    rw [isNews]
    apply Emits.ensuring (calls_doFetch request)
    · intro result news fits
      apply (emits_release made).mono
      · intro _ more isMore
        rw [isMore]
        refine ⟨?_, finished_between fits.2 parsed⟩
        exact smooth_append.mpr ⟨smooth_taken parsed,
          smooth_append.mpr ⟨fits.1, smooth_givenBack parsed⟩⟩
      · exact fun _ _ never => never.elim
    · intro error news fits
      apply (emits_release made).mono
      · intro _ more isMore
        rw [isMore]
        refine ⟨fits.1, ?_, finished_between fits.2.2 parsed⟩
        exact (fits.2.1.followed (smooth_givenBack parsed)).append
          (smooth_taken parsed)
      · exact fun _ _ never => never.elim
  · intro error news interrupted
    obtain ⟨unexpected, fits, finished⟩ := interrupted
    refine ⟨?_, fits, finished⟩
    intro expected
    rw [unexpected] at expected
    cases expected

/-- A program that may be followed by a fetch. -/
theorem Calls.bindFinished {Result Next : Type} {program : Fetching Result}
    {next : Result → Fetching Next} (calls : Calls noError (AtMost 0) program)
    (continues : ∀ result, Calls noError Finished (next result)) :
    Calls noError Finished (program >>= next) :=
  calls.bind continues (fun _ _ few finished => few.prependFinished finished)
    fun _ few => (few.tries 3).finished

theorem calls_fetch (request : CrawlRequest) :
    Calls noError Finished (world.fetch request) := by
  have ended : ∀ result : CrawlResult,
      Calls noError Finished (Pure.pure result : Fetching CrawlResult) :=
    fun result => Calls.pure result ((AtMost.nil 0).tries 3).finished
  apply (calls_isDenied request.url).bindFinished
  intro denied
  split
  · exact ended _
  · apply (calls_rejection request.url).bindFinished
    intro rejection
    split
    · exact ended _
    · dsimp only
      split
      · apply (calls_checkRobots request.url).bindFinished
        intro allowed
        split
        · exact calls_permitted request
        · exact ended _
      · exact calls_permitted request

/-! ## Results -/

/-- Successes are the fetched pages whose status is one. -/
def Reported (result : CrawlResult) : Prop :=
  result.success = true ↔ ∃ page ∈ result.page,
    200 ≤ page.statusCode ∧ page.statusCode < 400

theorem reported_failed (error : String) (retries : Nat) :
    Reported (.failed error retries) := by
  constructor
  case mp => exact fun succeeded => Bool.noConfusion succeeded
  case mpr =>
    intro found
    obtain ⟨page, isPage, -⟩ := found
    cases isPage

theorem returns_fetchPage (request : CrawlRequest) :
    Returns (world.fetchPage request) Reported := by
  have page : ∀ (answered : HttpResponse × Nat) (text : String)
      (rendered : Option String), Reported {
        page := some
          (world.library.fetchedPage request answered.1 text rendered)
        success := 200 ≤ answered.1.statusCode &&
          answered.1.statusCode < 400
        error := if 200 ≤ answered.1.statusCode &&
            answered.1.statusCode < 400 then none
          else some ("HTTP " ++ toString answered.1.statusCode)
        retries := answered.2 } := by
    intro answered text rendered
    unfold Reported
    simp [CrawlWorld.fetchedPage]
  apply Returns.bind
  intro answered
  apply Returns.bind
  intro text
  dsimp only
  split
  · apply Returns.bind
    exact fun rendered => Returns.pure (page answered text rendered)
  · exact Returns.pure (page answered text none)

theorem returns_doFetch (request : CrawlRequest) :
    Returns (world.doFetch request) Reported := by
  apply (returns_fetchPage request).tryCatch
  intro error
  split
  · exact Returns.throw _
  · exact Returns.throw _
  · exact Returns.pure (reported_failed _ _)
  · exact Returns.pure (reported_failed _ _)

theorem returns_fetch (request : CrawlRequest) :
    Returns (world.fetch request) Reported := by
  have permitted : Returns (do
      world.acquire request.url
      tryFinally (world.doFetch request) (world.release request.url))
      Reported :=
    Returns.bind fun _ => (returns_doFetch request).ensuring
  apply Returns.bind
  intro denied
  split
  · exact Returns.pure (reported_failed _ _)
  · apply Returns.bind
    intro rejection
    split
    · exact Returns.pure (reported_failed _ _)
    · dsimp only
      split
      · apply Returns.bind
        intro allowed
        split
        · exact permitted
        · exact Returns.pure (reported_failed _ _)
      · exact permitted

/-! ## The scheduler -/

/-- Any events. -/
def anyNews : List FetchEvent → Prop :=
  fun _ => True

theorem Calls.forget {Result : Type} {program : Fetching Result}
    {shape : List FetchEvent → Prop} (calls : Calls among shape program) :
    Calls among anyNews program :=
  calls.mono fun _ _ => trivial

theorem Calls.bindAny {Result Next : Type} {program : Fetching Result}
    {next : Result → Fetching Next} (calls : Calls among anyNews program)
    (continues : ∀ result, Calls among anyNews (next result)) :
    Calls among anyNews (program >>= next) :=
  calls.bind continues (fun _ _ _ _ => trivial) fun _ _ => trivial

theorem calls_parsed (result : CrawlResult) :
    Calls noError anyNews (world.parsed result) := by
  unfold FetchWorld.parsed
  split
  · apply (calls_orFail .parsing rfl).forget.bindAny
    exact fun page => Calls.pure _ trivial
  · exact Calls.pure _ trivial

theorem calls_crawlSync (request : CrawlRequest) :
    Calls noError anyNews (world.crawlSync request) := by
  apply (calls_fetch request).forget.bindAny
  intro result
  apply (calls_parsed result).bindAny
  intro page
  dsimp only
  split
  · apply (calls_fetch { request with renderJs := true }).forget.bindAny
    intro rendered
    split
    · apply (calls_parsed rendered).bindAny
      exact fun again => Calls.pure _ trivial
    · exact Calls.pure _ trivial
  · exact Calls.pure _ trivial

end Pieces

/-- How a program ends, and what it logged. -/
def ending {Result : Type} (program : Fetching Result) (state : FetchState) :
    Except FetchError Result × List FetchEvent :=
  match program state with
  | .ok result after => (.ok result, after.log.drop state.log.length)
  | .error error after => (.error error, after.log.drop state.log.length)

theorem ending_of_emits {Result : Type} {program : Fetching Result}
    {returns : Result → List FetchEvent → Prop}
    {raises : FetchError → List FetchEvent → Prop}
    (emits : Emits FetchState.log program returns raises)
    (state : FetchState) :
    match (ending program state).1 with
    | .ok result => returns result (ending program state).2
    | .error error => raises error (ending program state).2 := by
  have here := emits state
  unfold ending
  cases made : program state with
  | ok result after =>
      rw [made] at here
      obtain ⟨news, appended, fits⟩ := here
      simp only [appended, List.drop_left]
      exact fits
  | error error after =>
      rw [made] at here
      obtain ⟨news, appended, fits⟩ := here
      simp only [appended, List.drop_left]
      exact fits

theorem ending_of_returns {Result : Type} {program : Fetching Result}
    {good : Result → Prop} (returns : Returns program good)
    {state : FetchState} {result : Result}
    (ends : (ending program state).1 = .ok result) : good result := by
  have here := returns state
  unfold ending at ends
  cases made : program state with
  | ok returned after =>
      rw [made] at here ends
      cases ends
      exact here
  | error error after =>
      rw [made] at ends
      cases ends

/-- What the frontier is told of a crawled page. -/
def FrontierResult.ofCrawled (crawled : FetchWorld.CrawledPage) :
    FrontierResult :=
  { success := crawled.result.success
    links := crawled.links
    error := crawled.result.error }

/-- `_handle_frontier_item` marks its item with what was crawled; where the
crawl raises, it ends. -/
def handledFrontier (frontier : Frontier) (itemId : String)
    (retry : Option Nat) :
    Except FetchError FetchWorld.CrawledPage → Frontier
  | .ok crawled => frontier.markResult itemId (.ofCrawled crawled) retry
  | .error _ => frontier

/-! ## Settled fetches -/

/-- A fetch ends in a result or is cancelled, makes at most three attempts,
and leaves the permits as they were. -/
structure FetchSettles (world : FetchWorld) (request : CrawlRequest)
    (state : FetchState) : Prop where
  ends : (∃ result, (ending (world.fetch request) state).1 = .ok result ∧
    Reported result) ∨
      (ending (world.fetch request) state).1 = .error .cancelled
  attempts : Attempts 3 (ending (world.fetch request) state).2
  permits : Balanced (ending (world.fetch request) state).2

/-- A running item is not running after its handler. -/
def LeavesRunning (world : FetchWorld) (request : CrawlRequest)
    (state : FetchState) : Prop :=
  ∀ frontier : Frontier, ∀ item ∈ frontier.items, item.status = .running →
    ∀ retry, ∀ later ∈ (handledFrontier frontier item.id retry
      (ending (world.crawlSync request) state).1).items,
      later.id = item.id → later.status ≠ .running

theorem fetchSettles_iff (world : FetchWorld) (request : CrawlRequest)
    (state : FetchState) : FetchSettles world request state ↔
      ∀ event ∈ (ending (world.fetch request) state).2,
        event.isUnexpected = false ∧ event.leaksPermits = false := by
  have emits : Calls noError Finished (world.fetch request) :=
    calls_fetch request
  have calls := ending_of_emits emits state
  have reported : Returns (world.fetch request) Reported :=
    returns_fetch request
  constructor
  case mp =>
    intro settles event member
    obtain ⟨ends, -, permits⟩ := settles
    rcases ends with ⟨result, returned, -⟩ | cancelled
    · rw [returned] at calls
      exact ⟨(calls.1 event member).1, calls.2.1.mp permits event member⟩
    · rw [cancelled] at calls
      exact ⟨calls.2.1.1 event member,
        calls.2.2.1.mp permits event member⟩
  case mpr =>
    intro settled
    have kept : ∀ event ∈ (ending (world.fetch request) state).2,
        event.leaksPermits = false :=
      fun event member => (settled event member).2
    cases ended : (ending (world.fetch request) state).1 with
    | ok result =>
        rw [ended] at calls
        exact
          { ends := .inl ⟨result, ended, ending_of_returns reported ended⟩
            attempts := calls.2.2
            permits := calls.2.1.mpr kept }
    | error error =>
        rw [ended] at calls
        obtain ⟨expected, fits, permits, attempts⟩ := calls
        have isCancelled : error = .cancelled := by
          match error, expected, fits with
          | .cancelled, _, _ => rfl
          | .crawl (.other _), _, ⟨event, member, unexpected⟩ =>
              rw [(settled event member).1] at unexpected
              cases unexpected
          | .crawl (.ssrf _), expected, _ => exact (expected rfl).elim
          | .crawl (.timeout _), expected, _ => exact (expected rfl).elim
          | .crawl (.transport _), expected, _ => exact (expected rfl).elim
          | .crawl (.http _), expected, _ => exact (expected rfl).elim
        rw [isCancelled] at ended
        exact
          { ends := .inr ended
            attempts := attempts
            permits := permits.mpr kept }

/-- A crawl that raises logged what it raised. -/
theorem crawlSync_returns_iff (world : FetchWorld) (request : CrawlRequest)
    (state : FetchState) :
    (∃ crawled, (ending (world.crawlSync request) state).1 = .ok crawled) ↔
      Smooth (ending (world.crawlSync request) state).2 := by
  have emits : Calls noError anyNews (world.crawlSync request) :=
    calls_crawlSync request
  have calls := ending_of_emits emits state
  constructor
  case mp =>
    intro returned
    obtain ⟨crawled, isCrawled⟩ := returned
    rw [isCrawled] at calls
    exact calls.1
  case mpr =>
    intro smooth
    cases ended : (ending (world.crawlSync request) state).1 with
    | ok crawled => exact ⟨crawled, rfl⟩
    | error error =>
        rw [ended] at calls
        obtain ⟨expected, fits, -⟩ := calls
        match error, expected, fits with
        | .cancelled, _, ⟨_, event, member, isCancelled⟩ =>
            rw [(smooth event member).2] at isCancelled
            cases isCancelled
        | .crawl (.other _), _, ⟨event, member, unexpected⟩ =>
            rw [(smooth event member).1] at unexpected
            cases unexpected
        | .crawl (.ssrf _), expected, _ => exact (expected rfl).elim
        | .crawl (.timeout _), expected, _ => exact (expected rfl).elim
        | .crawl (.transport _), expected, _ => exact (expected rfl).elim
        | .crawl (.http _), expected, _ => exact (expected rfl).elim

/-- A table with one row, which is running. -/
def runningFrontier : Frontier :=
  { items := [{
      id := ""
      sourceType := ""
      url := ""
      canonicalUrl := ""
      status := .running
      nextRunAt := 0
      discoveredAt := 0 }]
    ids := List.nodup_singleton _
    urls := List.nodup_singleton _ }

theorem leavesRunning_iff (world : FetchWorld) (request : CrawlRequest)
    (state : FetchState) : LeavesRunning world request state ↔
      Smooth (ending (world.crawlSync request) state).2 := by
  rw [← crawlSync_returns_iff]
  constructor
  case mp =>
    intro leaves
    cases ended : (ending (world.crawlSync request) state).1 with
    | ok crawled => exact ⟨crawled, rfl⟩
    | error error =>
        unfold LeavesRunning at leaves
        rw [ended] at leaves
        have member := List.mem_singleton_self (runningFrontier.items.head
          (List.cons_ne_nil _ _))
        exact absurd rfl
          (leaves runningFrontier _ member rfl none _ member rfl)
  case mpr =>
    intro returned frontier item member running retry later isLater same
    obtain ⟨crawled, isCrawled⟩ := returned
    rw [isCrawled] at isLater
    obtain ⟨write, marks, isMarked⟩ := markResult_items frontier item.id
      (.ofCrawled crawled) retry
    change later ∈ (frontier.markResult item.id _ retry).items at isLater
    rw [isMarked, mem_updateRows] at isLater
    rcases isLater with ⟨old, _, _, written⟩ | ⟨_, kept⟩
    · rw [← written]
      exact marks.stopped old
    · exact absurd same (of_decide_eq_false kept)

/-- A fetch settles just where no call raises what nothing there expects and
no cancellation comes while permits are taken; the item of a handler leaves
the running state just where its crawl raises nothing. -/
theorem fetch_settles_iff (world : FetchWorld) (request : CrawlRequest)
    (state : FetchState) :
    (FetchSettles world request state ↔
      ∀ event ∈ (ending (world.fetch request) state).2,
        event.isUnexpected = false ∧ event.leaksPermits = false) ∧
    (LeavesRunning world request state ↔
      Smooth (ending (world.crawlSync request) state).2) :=
  ⟨fetchSettles_iff world request state,
    leavesRunning_iff world request state⟩

namespace FetchExample

/-- Reading the URL raises, as it does for an open bracket. -/
def bracketWorld : FetchWorld :=
  { library :=
      { urlparse := fun _ => .error "Invalid IPv6 URL"
        urljoin := fun _ url => .ok url
        ipAddress := .error
        getaddrinfo := fun _ _ _ => .ok []
        answer := fun _ _ => .timeout ""
        navigate := fun _ _ => none
        playwrightInstalled := false
        kbJsRender := none
        decode := fun _ _ => .ok ""
        sha256Hex := fun _ => ""
        canFetch := fun _ _ _ => true }
    resolve := fun _ _ _ => .done []
    answer := fun _ _ _ => .cancelled
    wait := fun _ _ => true
    canFetch := fun _ _ _ => .ok true
    render := fun _ _ => .raised ""
    parseHtml := fun _ => .error "" }

/-- A public page, whose fetch is cancelled while the rate limit is waited
for. -/
def impatientWorld : FetchWorld :=
  { bracketWorld with
    library :=
      { bracketWorld.library with
        urlparse := fun _ => .ok
          { scheme := "https"
            netloc := "acme.example"
            hostname := some "acme.example" }
        ipAddress := fun text => .ok
          { version := 4
            value := 0x5DB8D822
            text := text
            isGlobal := true } }
    resolve := fun _ _ _ => .done [some "93.184.216.34"]
    wait := fun _ site => site ≠ .rateLimit }

def request : CrawlRequest :=
  { url := "http://["
    respectRobots := false }

/-- The fetch raises, and the item stays running. -/
theorem bracket_raises : ¬ FetchSettles bracketWorld request {} ∧
    ¬ LeavesRunning bracketWorld request {} ∧
    ¬ FetchSettles impatientWorld
      { request with url := "https://acme.example/" } {} := by
  simp only [fetchSettles_iff, leavesRunning_iff]
  decide +kernel

end FetchExample

end CompetiScope
