import CompetiScope.Crawler.AwaitedFetch

/-!
# The calls of a fetch

What each call of a fetch raises and logs: nothing unexpected was raised
before a result or an expected error, and at most eleven pages are requested
in each of at most three attempts.
-/

namespace CompetiScope

open Foundation

/-! ## Logs -/

namespace FetchEvent

/-- An exception that passes every `except`; robots.txt and the browser are
asked where all are caught. -/
def isUnexpected : FetchEvent → Bool
  | .failed .robotsRequest => false
  | .failed .rendering => false
  | .failed _ => true
  | _ => false

def isCancelled : FetchEvent → Bool
  | .cancelled _ => true
  | _ => false

/-- A cancellation while permits are taken that nothing gives back. -/
def leaksPermits : FetchEvent → Bool
  | .cancelled .domainPermit => true
  | .cancelled .rateLimit => true
  | _ => false

def isPermit : FetchEvent → Bool
  | .acquired _ => true
  | .released _ => true
  | _ => false

def isPageRequest : FetchEvent → Bool
  | .requested .page _ => true
  | _ => false

end FetchEvent

/-- Nothing unexpected was raised, and nothing cancelled. -/
def Smooth (news : List FetchEvent) : Prop :=
  ∀ event ∈ news, event.isUnexpected = false ∧ event.isCancelled = false

instance (news : List FetchEvent) : Decidable (Smooth news) :=
  inferInstanceAs (Decidable (∀ event ∈ news, _))

/-- The permits that are out: those taken less those given back. -/
def heldPermits (permit : CrawlPermit) (news : List FetchEvent) : Int :=
  (news.count (.acquired permit) : Int) - news.count (.released permit)

/-- As many permits are out as before. -/
def Balanced (news : List FetchEvent) : Prop :=
  ∀ permit, heldPermits permit news = 0

/-- Only some events between the others are requests of pages: those of a
number of attempts, with eleven requests each at most. -/
def Attempts (limit : Nat) (news : List FetchEvent) : Prop :=
  ∃ front : List FetchEvent, ∃ attempts : List (List FetchEvent),
    ∃ back : List FetchEvent, news = front ++ attempts.flatten ++ back ∧
    front.countP FetchEvent.isPageRequest = 0 ∧
    back.countP FetchEvent.isPageRequest = 0 ∧
    attempts.length ≤ limit ∧
    ∀ attempt ∈ attempts, attempt.countP FetchEvent.isPageRequest ≤ 11

/-- What was logged before an error. -/
def FetchError.Fits : FetchError → List FetchEvent → Prop
  | .crawl (.other _), news => ∃ event ∈ news, event.isUnexpected = true
  | .crawl _, news => Smooth news
  | .cancelled, news =>
      (∀ event ∈ news, event.isUnexpected = false) ∧
        ∃ event ∈ news, event.isCancelled = true

/-- No permit is taken or given back, or lost. -/
def Inner (news : List FetchEvent) : Prop :=
  ∀ event ∈ news, event.isPermit = false ∧ event.leaksPermits = false

section Logs

variable {first second : List FetchEvent}

theorem smooth_append : Smooth (first ++ second) ↔
    Smooth first ∧ Smooth second :=
  List.forall_mem_append

theorem inner_append : Inner (first ++ second) ↔
    Inner first ∧ Inner second :=
  List.forall_mem_append

theorem smooth_nil : Smooth [] :=
  fun _ member => absurd member List.not_mem_nil

theorem inner_nil : Inner [] :=
  fun _ member => absurd member List.not_mem_nil

/-- What an error fits, it fits behind calls that went well. -/
theorem FetchError.Fits.append {error : FetchError}
    (smooth : Smooth first) (fits : error.Fits second) :
    error.Fits (first ++ second) := by
  match error, fits with
  | .crawl (.other _), ⟨event, member, unexpected⟩ =>
      exact ⟨event, List.mem_append_right first member, unexpected⟩
  | .crawl (.ssrf _), fits => exact smooth_append.mpr ⟨smooth, fits⟩
  | .crawl (.timeout _), fits => exact smooth_append.mpr ⟨smooth, fits⟩
  | .crawl (.transport _), fits => exact smooth_append.mpr ⟨smooth, fits⟩
  | .crawl (.http _), fits => exact smooth_append.mpr ⟨smooth, fits⟩
  | .cancelled, ⟨expected, event, member, isCancelled⟩ =>
      refine ⟨?_, event, List.mem_append_right first member, isCancelled⟩
      intro other isOther
      rcases List.mem_append.mp isOther with before | after
      · exact (smooth other before).1
      · exact expected other after

theorem heldPermits_append (permit : CrawlPermit) :
    heldPermits permit (first ++ second) =
      heldPermits permit first + heldPermits permit second := by
  simp only [heldPermits, List.count_append]
  omega

theorem Inner.heldPermits (inner : Inner first) (permit : CrawlPermit) :
    heldPermits permit first = 0 := by
  have notTaken : first.count (.acquired permit) = 0 := by
    apply List.count_eq_zero.mpr
    intro member
    cases (inner _ member).1
  have notGiven : first.count (.released permit) = 0 := by
    apply List.count_eq_zero.mpr
    intro member
    cases (inner _ member).1
  rw [CompetiScope.heldPermits, notTaken, notGiven]
  rfl

theorem Attempts.prepend {limit : Nat} (attempts : Attempts limit second)
    (none : first.countP FetchEvent.isPageRequest = 0) :
    Attempts limit (first ++ second) := by
  obtain ⟨front, parts, back, rfl, noFront, noBack, few, small⟩ := attempts
  refine ⟨first ++ front, parts, back, ?_, ?_, noBack, few, small⟩
  · simp only [List.append_assoc]
  · rw [List.countP_append, none, noFront]

theorem Attempts.append {limit : Nat} (attempts : Attempts limit first)
    (none : second.countP FetchEvent.isPageRequest = 0) :
    Attempts limit (first ++ second) := by
  obtain ⟨front, parts, back, rfl, noFront, noBack, few, small⟩ := attempts
  refine ⟨front, parts, back ++ second, ?_, noFront, ?_, few, small⟩
  · simp only [List.append_assoc]
  · rw [List.countP_append, none, noBack]

theorem attempts_of_none (limit : Nat)
    (none : first.countP FetchEvent.isPageRequest = 0) :
    Attempts limit first :=
  ⟨first, [], [], by simp, none, rfl, Nat.zero_le _, by simp⟩

end Logs

/-! ## Calls -/

/-- An error that `_do_fetch` turns into a result. -/
def FetchError.isExpected : FetchError → Bool
  | .crawl (.other _) => false
  | .crawl _ => true
  | .cancelled => false

/-- The expected errors that a program raises are among some, and the events
that it logs have some shape. -/
def Calls {Result : Type} (among : FetchError → Prop)
    (shape : List FetchEvent → Prop) (program : Fetching Result) : Prop :=
  Emits FetchState.log program
    (fun _ news => Smooth news ∧ shape news)
    (fun error news => (error.isExpected = true → among error) ∧
      error.Fits news ∧ shape news)

/-- No permits are touched, and at most some pages requested. -/
def AtMost (limit : Nat) (news : List FetchEvent) : Prop :=
  Inner news ∧ news.countP FetchEvent.isPageRequest ≤ limit

theorem FetchError.fits_of_expected {error : FetchError}
    (expected : error.isExpected = true) {news : List FetchEvent} :
    error.Fits news ↔ Smooth news := by
  match error, expected with
  | .crawl (.ssrf _), _ => exact Iff.rfl
  | .crawl (.timeout _), _ => exact Iff.rfl
  | .crawl (.transport _), _ => exact Iff.rfl
  | .crawl (.http _), _ => exact Iff.rfl

theorem AtMost.nil (limit : Nat) : AtMost limit [] :=
  ⟨inner_nil, Nat.zero_le limit⟩

theorem AtMost.append {limit more : Nat} {first second : List FetchEvent}
    (few : AtMost limit first) (fewMore : AtMost more second) :
    AtMost (limit + more) (first ++ second) := by
  obtain ⟨inner, few⟩ := few
  obtain ⟨moreInner, fewMore⟩ := fewMore
  refine ⟨inner_append.mpr ⟨inner, moreInner⟩, ?_⟩
  rw [List.countP_append]
  omega

theorem AtMost.mono {limit more : Nat} {news : List FetchEvent}
    (few : AtMost limit news) (fewer : limit ≤ more) : AtMost more news :=
  ⟨few.1, Nat.le_trans few.2 fewer⟩

namespace Calls

variable {Result Next : Type} {program : Fetching Result}
  {among : FetchError → Prop}
  {shape nextShape finalShape : List FetchEvent → Prop}

theorem pure (result : Result) (fits : shape []) :
    Calls among shape (Pure.pure result) :=
  Emits.pure ⟨smooth_nil, fits⟩

theorem throw {error : FetchError} (expected : error.isExpected = true)
    (isAmong : among error) (fits : shape []) :
    Calls among shape (MonadExcept.throw error : Fetching Result) :=
  Emits.throw ⟨fun _ => isAmong,
    (FetchError.fits_of_expected expected).mpr smooth_nil, fits⟩

theorem get {next : FetchState → Fetching Result}
    (calls : ∀ state, Calls among shape (next state)) :
    Calls among shape (MonadState.get >>= next) :=
  Emits.get calls

theorem mono (calls : Calls among shape program)
    (weaker : ∀ news, shape news → finalShape news) :
    Calls among finalShape program :=
  Emits.mono calls
    (fun _ news fits => ⟨fits.1, weaker news fits.2⟩)
    (fun _ news fits => ⟨fits.1, fits.2.1, weaker news fits.2.2⟩)

/-- A program that runs behind calls that went well. -/
theorem behind {program : Fetching Next}
    (calls : Calls among nextShape program) {news : List FetchEvent}
    (smooth : Smooth news)
    (joins : ∀ more, nextShape more → finalShape (news ++ more)) :
    Emits FetchState.log program
      (fun _ more => Smooth (news ++ more) ∧ finalShape (news ++ more))
      (fun error more => (error.isExpected = true → among error) ∧
        error.Fits (news ++ more) ∧ finalShape (news ++ more)) := by
  apply Emits.mono calls
  · intro _ more fits
    obtain ⟨moreSmooth, shaped⟩ := fits
    exact ⟨smooth_append.mpr ⟨smooth, moreSmooth⟩, joins more shaped⟩
  · intro _ more fits
    obtain ⟨isAmong, errorFits, shaped⟩ := fits
    exact ⟨isAmong, errorFits.append smooth, joins more shaped⟩

theorem bind {next : Result → Fetching Next}
    (calls : Calls among shape program)
    (continues : ∀ result, Calls among nextShape (next result))
    (joins : ∀ news more, shape news → nextShape more →
      finalShape (news ++ more))
    (weaker : ∀ news, shape news → finalShape news) :
    Calls among finalShape (program >>= next) := by
  apply Emits.bind calls
  · intro result news fits
    obtain ⟨smooth, shaped⟩ := fits
    exact (continues result).behind smooth fun more => joins news more shaped
  · intro _ news fits
    exact ⟨fits.1, fits.2.1, weaker news fits.2.2⟩

/-- Requests of two parts add up. -/
theorem bindAtMost {next : Result → Fetching Next} {limit more : Nat}
    (calls : Calls among (AtMost limit) program)
    (continues : ∀ result, Calls among (AtMost more) (next result)) :
    Calls among (AtMost (limit + more)) (program >>= next) :=
  calls.bind continues (fun _ _ few fewMore => few.append fewMore)
    fun _ few => few.mono (Nat.le_add_right limit more)

theorem bindNone {next : Result → Fetching Next} {limit : Nat}
    (calls : Calls among (AtMost 0) program)
    (continues : ∀ result, Calls among (AtMost limit) (next result)) :
    Calls among (AtMost limit) (program >>= next) := by
  have both : Calls among (AtMost (0 + limit)) (program >>= next) :=
    calls.bindAtMost continues
  rw [Nat.zero_add] at both
  exact both

/-- Expected errors are handled; others are not. -/
theorem tryCatch {handle : FetchError → Fetching Result}
    {left : FetchError → Prop} (calls : Calls among shape program)
    (handled : ∀ error, error.isExpected = true → among error →
      Calls left nextShape (handle error))
    (passed : ∀ error, error.isExpected = false →
      handle error = MonadExcept.throw error)
    (joins : ∀ news more, shape news → nextShape more →
      finalShape (news ++ more))
    (weaker : ∀ news, shape news → finalShape news) :
    Calls left finalShape (MonadExcept.tryCatch program handle) := by
  apply Emits.tryCatch calls
  · intro error news fits
    obtain ⟨isAmong, errorFits, shaped⟩ := fits
    cases expected : error.isExpected with
    | true =>
        have smooth := (FetchError.fits_of_expected expected).mp errorFits
        exact (handled error expected (isAmong expected)).behind smooth
          fun more => joins news more shaped
    | false =>
        rw [passed error expected]
        apply Emits.throw
        rw [List.append_nil]
        refine ⟨?_, errorFits, weaker news shaped⟩
        intro isExpected
        rw [expected] at isExpected
        cases isExpected
  · intro _ news fits
    exact ⟨fits.1, weaker news fits.2⟩

end Calls

/-! ## Addresses and requests -/

/-- The errors that `fetch` itself catches. -/
def FetchError.isRejection : FetchError → Bool
  | .crawl (.ssrf _) => true
  | _ => false

section Pieces

variable {world : FetchWorld} {among : FetchError → Prop}

open Fetching

theorem emits_emit (event : FetchEvent) :
    Emits FetchState.log (emit event) (fun _ news => news = [event])
      (fun _ _ => False) :=
  Emits.modify (fun _ => rfl) rfl

theorem AtMost.single {event : FetchEvent}
    (inner : event.isPermit = false ∧ event.leaksPermits = false)
    (isOther : event.isPageRequest = false) : AtMost 0 [event] := by
  constructor
  case left =>
    intro other member
    rw [List.mem_singleton.mp member]
    exact inner
  case right =>
    rw [List.countP_cons, isOther]
    exact Nat.le_refl 0

theorem smooth_single {event : FetchEvent}
    (expected : event.isUnexpected = false)
    (isLive : event.isCancelled = false) : Smooth [event] := by
  intro other member
  rw [List.mem_singleton.mp member]
  exact ⟨expected, isLive⟩

theorem emits_fail {Result : Type} (site : FetchSite) (message : String) :
    Emits FetchState.log (fail site message : Fetching Result)
      (fun _ _ => False)
      (fun error news => error = .crawl (.other message) ∧
        news = [.failed site]) := by
  unfold fail
  apply (emits_emit _).bind
  · intro _ news isNews
    rw [isNews]
    exact Emits.throw ⟨rfl, rfl⟩
  · exact fun _ _ never => never.elim

theorem emits_cancel {Result : Type} (site : FetchSite) :
    Emits FetchState.log (cancel site : Fetching Result)
      (fun _ _ => False)
      (fun error news => error = .cancelled ∧ news = [.cancelled site]) := by
  unfold cancel
  apply (emits_emit _).bind
  · intro _ news isNews
    rw [isNews]
    exact Emits.throw ⟨rfl, rfl⟩
  · exact fun _ _ never => never.elim

theorem fits_fail {site : FetchSite} (message : String)
    (unexpected : (FetchEvent.failed site).isUnexpected = true) :
    (FetchError.crawl (.other message)).Fits [.failed site] :=
  ⟨_, List.mem_singleton_self _, unexpected⟩

theorem fits_cancel (site : FetchSite) :
    FetchError.cancelled.Fits [.cancelled site] := by
  refine ⟨?_, _, List.mem_singleton_self _, rfl⟩
  intro event member
  rw [List.mem_singleton.mp member]
  rfl

theorem calls_fail {Result : Type} {site : FetchSite} {message : String}
    (unexpected : (FetchEvent.failed site).isUnexpected = true) :
    Calls among (AtMost 0) (fail site message : Fetching Result) := by
  apply (emits_fail site message).mono
  · exact fun _ _ never => never.elim
  · intro error news raised
    rw [raised.1, raised.2]
    exact ⟨fun expected => Bool.noConfusion expected,
      fits_fail message unexpected, AtMost.single ⟨rfl, rfl⟩ rfl⟩

theorem calls_cancel {Result : Type} {site : FetchSite}
    (keeps : (FetchEvent.cancelled site).leaksPermits = false) :
    Calls among (AtMost 0) (cancel site : Fetching Result) := by
  apply (emits_cancel site).mono
  · exact fun _ _ never => never.elim
  · intro error news raised
    rw [raised.1, raised.2]
    exact ⟨fun expected => Bool.noConfusion expected,
      fits_cancel site, AtMost.single ⟨rfl, keeps⟩ rfl⟩

theorem calls_orFail {Result : Type} {made : Except String Result}
    (site : FetchSite)
    (unexpected : (FetchEvent.failed site).isUnexpected = true) :
    Calls among (AtMost 0) (orFail site made) := by
  cases made with
  | ok result => exact Calls.pure result (AtMost.nil 0)
  | error message => exact calls_fail unexpected

theorem calls_await {Result : Type} {made : Awaited Result}
    (site : FetchSite)
    (unexpected : (FetchEvent.failed site).isUnexpected = true)
    (keeps : (FetchEvent.cancelled site).leaksPermits = false) :
    Calls among (AtMost 0) (await site made) := by
  cases made with
  | done result => exact Calls.pure result (AtMost.nil 0)
  | raised message => exact calls_fail unexpected
  | cancelled => exact calls_cancel keeps

theorem calls_waitFor (site : FetchSite)
    (keeps : (FetchEvent.cancelled site).leaksPermits = false) :
    Calls among (AtMost 0) (world.waitFor site) := by
  apply Calls.get
  intro state
  split
  · exact Calls.pure _ (AtMost.nil 0)
  · exact calls_cancel keeps

theorem validateIp_error {library : CrawlWorld} {address : String}
    {error : CrawlError} (raised : validateIp library address = .error error) :
    (FetchError.crawl error).isExpected = true →
      (FetchError.crawl error).isRejection = true := by
  unfold validateIp at raised
  intro expected
  split at raised
  · cases raised
    cases expected
  · split at raised
    · cases raised
      rfl
    · split at raised
      · cases raised
      · split at raised
        · cases raised
          rfl
        · split at raised
          · cases raised
            rfl
          · cases raised

theorem validateIps_error {library : CrawlWorld} {error : CrawlError} :
    ∀ addresses : List String,
      validateIps library addresses = .error error →
        (FetchError.crawl error).isExpected = true →
          (FetchError.crawl error).isRejection = true
  | [], raised => by cases raised
  | address :: addresses, raised => by
      unfold validateIps at raised
      split at raised
      · next failed =>
          cases raised
          exact validateIp_error failed
      · exact validateIps_error addresses raised

/-- Some errors include all that `fetch` catches itself. -/
def Rejections (among : FetchError → Prop) : Prop :=
  ∀ error, error.isRejection = true → among error

theorem calls_validateAddresses (rejections : Rejections among)
    (addresses : List String) :
    Calls among (AtMost 0) (world.validateAddresses addresses) := by
  unfold FetchWorld.validateAddresses
  split
  · exact Calls.pure _ (AtMost.nil 0)
  · exact calls_fail rfl
  · next error notOther failed =>
      have expected : (FetchError.crawl error).isExpected = true := by
        cases error with
        | other message => exact absurd rfl (notOther message)
        | ssrf message => rfl
        | timeout message => rfl
        | transport message => rfl
        | http message => rfl
      apply Calls.throw expected
      · exact rejections _ (validateIps_error addresses failed expected)
      · exact AtMost.nil 0

theorem calls_resolveHost (hostname : String) (port : Nat) :
    Calls among (AtMost 0) (world.resolveHost hostname port) := by
  apply Calls.get
  intro state
  apply (calls_await .resolver rfl rfl).bindNone
  exact fun infos => Calls.pure _ (AtMost.nil 0)

theorem calls_validateUrl (rejections : Rejections among) (url : String) :
    Calls among (AtMost 0) (world.validateUrl url) := by
  apply (calls_orFail .url rfl).bindNone
  intro parsed
  split
  · exact Calls.throw rfl (rejections _ rfl) (AtMost.nil 0)
  · split
    · exact Calls.throw rfl (rejections _ rfl) (AtMost.nil 0)
    · apply (calls_orFail .url rfl).bindNone
      intro port
      apply (calls_resolveHost _ _).bindNone
      intro addresses
      split
      · exact Calls.throw rfl (rejections _ rfl) (AtMost.nil 0)
      · apply (calls_validateAddresses rejections addresses).bindNone
        exact fun _ => Calls.pure _ (AtMost.nil 0)

/-- Any expected error. -/
def anyError : FetchError → Prop :=
  fun _ => True

theorem rejections_anyError : Rejections anyError :=
  fun _ _ => trivial

theorem calls_validateRebinding (url : String) (expected : List String) :
    Calls anyError (AtMost 0) (world.validateRebinding url expected) := by
  apply (calls_validateUrl rejections_anyError url).bindNone
  intro resolved
  split
  · exact Calls.throw rfl trivial (AtMost.nil 0)
  · exact Calls.pure _ (AtMost.nil 0)

/-- A request of a page is one request. -/
theorem calls_send (url : String) :
    Calls anyError (AtMost 1) (world.send .page url) := by
  have recorded : Calls anyError (AtMost 1) (emit (.requested .page url)) := by
    apply (emits_emit _).mono
    · intro _ news isNews
      rw [isNews]
      refine ⟨smooth_single rfl rfl, ?_, Nat.le_of_eq rfl⟩
      intro event member
      rw [List.mem_singleton.mp member]
      exact ⟨rfl, rfl⟩
    · exact fun _ _ never => never.elim
  have answered : Calls anyError (AtMost (1 + 0)) (world.send .page url) := by
    apply recorded.bindAtMost
    intro _
    apply Calls.get
    intro state
    split
    · exact calls_cancel rfl
    · exact Calls.pure _ (AtMost.nil 0)
    · exact Calls.throw rfl trivial (AtMost.nil 0)
    · exact Calls.throw rfl trivial (AtMost.nil 0)
    · exact Calls.throw rfl trivial (AtMost.nil 0)
    · exact calls_fail rfl
  exact answered

/-- The loop makes at most as many requests as its limit. -/
theorem calls_followRedirects (limit : Nat) (url : String)
    (expected : List String) :
    Calls anyError (AtMost limit)
      (world.followRedirects limit url expected) := by
  induction limit generalizing url expected with
  | zero => exact Calls.throw rfl trivial (AtMost.nil 0)
  | succ limit induction =>
      have requested : Calls anyError (AtMost (1 + limit))
          (world.followRedirects (limit + 1) url expected) := by
        apply (calls_send url).bindAtMost
        intro response
        split
        · split
          · exact Calls.pure _ (AtMost.nil limit)
          · apply (calls_orFail .join rfl).bindNone
            intro next
            apply (calls_validateUrl rejections_anyError next).bindNone
            exact fun addresses => induction next addresses
        · apply (calls_validateRebinding response.url expected).bindNone
          exact fun _ => Calls.pure _ (AtMost.nil limit)
      rw [Nat.add_comm] at requested
      exact requested

theorem calls_requestWithRedirects (request : CrawlRequest) :
    Calls anyError (AtMost 11) (world.requestWithRedirects request) := by
  apply (calls_validateUrl rejections_anyError request.url).bindNone
  exact fun addresses => calls_followRedirects 11 request.url addresses

/-! ## Attempts -/

/-- Some attempts, none of which touches permits. -/
def Tries (limit : Nat) (news : List FetchEvent) : Prop :=
  Inner news ∧ Attempts limit news

theorem AtMost.tries {news : List FetchEvent} (few : AtMost 0 news)
    (limit : Nat) : Tries limit news :=
  ⟨few.1, attempts_of_none limit (Nat.le_zero.mp few.2)⟩

theorem AtMost.prependTries {first second : List FetchEvent} {limit : Nat}
    (few : AtMost 0 first) (tries : Tries limit second) :
    Tries limit (first ++ second) :=
  ⟨inner_append.mpr ⟨few.1, tries.1⟩,
    tries.2.prepend (Nat.le_zero.mp few.2)⟩

theorem Tries.append {first second : List FetchEvent} {limit : Nat}
    (tries : Tries limit first) (few : AtMost 0 second) :
    Tries limit (first ++ second) :=
  ⟨inner_append.mpr ⟨tries.1, few.1⟩, tries.2.append (Nat.le_zero.mp few.2)⟩

/-- One more attempt in front of others. -/
theorem AtMost.consTries {first second : List FetchEvent} {limit : Nat}
    (few : AtMost 11 first) (tries : Tries limit second) :
    Tries (limit + 1) (first ++ second) := by
  obtain ⟨inner, front, attempts, back, isNews, noFront, noBack, short,
    small⟩ := tries
  refine ⟨inner_append.mpr ⟨few.1, inner⟩, [], (first ++ front) :: attempts,
    back, ?_, rfl, noBack, ?_, ?_⟩
  · rw [isNews]
    simp only [List.nil_append, List.flatten_cons, List.append_assoc]
  · exact Nat.succ_le_succ short
  · intro attempt member
    rcases List.mem_cons.mp member with isFirst | later
    · rw [isFirst, List.countP_append, noFront]
      exact few.2
    · exact small attempt later

theorem AtMost.oneTry {news : List FetchEvent} (few : AtMost 11 news)
    (limit : Nat) : Tries (limit + 1) news := by
  have tries := few.consTries ((AtMost.nil 0).tries limit)
  rw [List.append_nil] at tries
  exact tries

theorem calls_getWithRetriesFrom (request : CrawlRequest) :
    ∀ attempts retries : Nat, Calls anyError (Tries attempts)
      (world.getWithRetriesFrom request attempts retries)
  | 0, retries => Calls.throw rfl trivial ((AtMost.nil 0).tries 0)
  | attempts + 1, retries => by
      have attempted : Calls anyError (AtMost (11 + 0)) (do
          let response ← world.requestWithRedirects request
          return (response, retries)) := by
        apply (calls_requestWithRedirects request).bindAtMost
        exact fun _ => Calls.pure _ (AtMost.nil 0)
      have again : Calls anyError (Tries attempts) (do
          world.waitFor .backoff
          world.getWithRetriesFrom request attempts (retries + 1)) := by
        apply (calls_waitFor .backoff rfl).bind
        · exact fun _ =>
            calls_getWithRetriesFrom request attempts (retries + 1)
        · exact fun _ _ few tries => few.prependTries tries
        · exact fun _ few => few.tries attempts
      have nothing := (AtMost.nil 0).tries attempts
      unfold FetchWorld.getWithRetriesFrom
      apply attempted.tryCatch
      · intro error expected _
        split
        · split
          · exact Calls.throw rfl trivial nothing
          · exact again
        · split
          · exact Calls.throw rfl trivial nothing
          · exact again
        · exact Calls.throw expected trivial nothing
      · intro error unexpected
        split
        · cases unexpected
        · cases unexpected
        · rfl
      · exact fun _ _ few tries => few.consTries tries
      · exact fun _ few => few.oneTry attempts

/-! ## Where all exceptions are caught -/

/-- No expected error. -/
def noError : FetchError → Prop :=
  fun _ => False

/-- A program that only a cancellation ends early, where its exceptions are
caught. -/
def Caught {Result : Type} (program : Fetching Result) : Prop :=
  Emits FetchState.log program
    (fun _ news => Smooth news ∧ AtMost 0 news)
    (fun error news => AtMost 0 news ∧ match error with
      | .cancelled => FetchError.cancelled.Fits news
      | .crawl _ => Smooth news)

theorem caught_fail {Result : Type} {site : FetchSite} {message : String}
    (expected : (FetchEvent.failed site).isUnexpected = false) :
    Caught (fail site message : Fetching Result) := by
  apply (emits_fail site message).mono
  · exact fun _ _ never => never.elim
  · intro error news raised
    rw [raised.1, raised.2]
    exact ⟨AtMost.single ⟨rfl, rfl⟩ rfl, smooth_single expected rfl⟩

theorem caught_cancel {Result : Type} {site : FetchSite}
    (keeps : (FetchEvent.cancelled site).leaksPermits = false) :
    Caught (cancel site : Fetching Result) := by
  apply (emits_cancel site).mono
  · exact fun _ _ never => never.elim
  · intro error news raised
    rw [raised.1, raised.2]
    exact ⟨AtMost.single ⟨rfl, keeps⟩ rfl, fits_cancel site⟩

theorem caught_pure {Result : Type} (result : Result) :
    Caught (Pure.pure result) :=
  Emits.pure ⟨smooth_nil, AtMost.nil 0⟩

theorem caught_throw {Result : Type} (error : CrawlError) :
    Caught (MonadExcept.throw (.crawl error) : Fetching Result) :=
  Emits.throw ⟨AtMost.nil 0, smooth_nil⟩

theorem Caught.bind {Result Next : Type} {program : Fetching Result}
    {next : Result → Fetching Next} (caught : Caught program)
    (continues : ∀ result, Caught (next result)) :
    Caught (program >>= next) := by
  apply Emits.bind caught
  · intro result news fits
    obtain ⟨smooth, few⟩ := fits
    apply (continues result).mono
    · exact fun _ more fits =>
        ⟨smooth_append.mpr ⟨smooth, fits.1⟩, few.append fits.2⟩
    · intro error more fits
      refine ⟨few.append fits.1, ?_⟩
      cases error with
      | cancelled => exact FetchError.Fits.append smooth fits.2
      | crawl error => exact smooth_append.mpr ⟨smooth, fits.2⟩
  · exact fun _ _ fits => fits

/-- All is caught but a cancellation. -/
theorem Caught.tryCatch {Result : Type} {program : Fetching Result}
    {handle : FetchError → Fetching Result} (caught : Caught program)
    (handled : ∀ error, ∃ result,
      handle (.crawl error) = Pure.pure result)
    (passed : handle .cancelled = MonadExcept.throw .cancelled) :
    Calls noError (AtMost 0) (MonadExcept.tryCatch program handle) := by
  apply Emits.tryCatch caught
  · intro error news fits
    obtain ⟨few, fits⟩ := fits
    cases error with
    | cancelled =>
        rw [passed]
        apply Emits.throw
        rw [List.append_nil]
        exact ⟨fun expected => Bool.noConfusion expected, fits, few⟩
    | crawl error =>
        obtain ⟨result, isResult⟩ := handled error
        rw [isResult]
        apply Emits.pure
        rw [List.append_nil]
        exact ⟨fits, few⟩
  · exact fun _ _ fits => fits

theorem Calls.widen {Result : Type} {program : Fetching Result}
    {shape : List FetchEvent → Prop} (calls : Calls noError shape program) :
    Calls among shape program :=
  Emits.mono calls (fun _ _ fits => fits)
    (fun _ _ fits => ⟨fun expected => (fits.1 expected).elim, fits.2⟩)

theorem calls_renderWithPlaywright (url : String) :
    Calls noError (AtMost 0) (world.renderWithPlaywright url) := by
  apply Calls.get
  intro state
  split
  · have rendered : Caught
        (await .rendering (world.render state.log url)) := by
      cases world.render state.log url with
      | done result => exact caught_pure result
      | raised message => exact caught_fail rfl
      | cancelled => exact caught_cancel rfl
    exact rendered.tryCatch (fun _ => ⟨none, rfl⟩) rfl
  · exact Calls.pure _ (AtMost.nil 0)

theorem calls_readRobots (origin : String) :
    Calls noError (AtMost 0) (world.readRobots origin) := by
  have sent : Caught (world.send .robots (origin ++ "/robots.txt")) := by
    have recorded : Caught
        (emit (.requested .robots (origin ++ "/robots.txt"))) := by
      apply (emits_emit _).mono
      · intro _ news isNews
        rw [isNews]
        exact ⟨smooth_single rfl rfl, AtMost.single ⟨rfl, rfl⟩ rfl⟩
      · exact fun _ _ never => never.elim
    apply recorded.bind
    intro _
    apply Emits.get
    intro state
    split
    · exact caught_cancel rfl
    · exact caught_pure _
    · exact caught_throw _
    · exact caught_throw _
    · exact caught_throw _
    · exact caught_fail rfl
  exact (sent.bind fun _ => caught_pure _).tryCatch
    (fun _ => ⟨.allowAll, rfl⟩) rfl

end Pieces

end CompetiScope
