import CompetiScope.Crawler.Fetcher

/-!
# Fetches with permits

A fetch as it runs among others: it holds a global permit and one of its
domain while it requests pages, every call may raise, and it may be cancelled
wherever it waits.  The log tells which calls raised what nothing there
expects, and which permits were taken and given back.
-/

namespace CompetiScope

open Foundation

/-! ## The world -/

/-- A call that may raise, or that is waited for. -/
inductive FetchSite where
  | url
  | address
  | resolver
  | pageRequest
  | robotsRequest
  | robotsRules
  | join
  | decode
  | rendering
  | parsing
  | globalPermit
  | domainPermit
  | rateLimit
  | backoff
  deriving DecidableEq

inductive CrawlPermit where
  | overall
  | domain (name : String)
  deriving DecidableEq

inductive FetchEvent where
  | requested (purpose : RequestPurpose) (url : String)
  | acquired (permit : CrawlPermit)
  | released (permit : CrawlPermit)
  /-- A call raised what is neither an `HTTPError` nor an `SSRFError`. -/
  | failed (site : FetchSite)
  | cancelled (site : FetchSite)
  deriving DecidableEq

inductive FetchError where
  | crawl (error : CrawlError)
  | cancelled
  deriving DecidableEq

/-- What is waited for comes, raises or is cancelled. -/
inductive Awaited (Result : Type) where
  | done (result : Result)
  | raised (message : String)
  | cancelled

/-- A request may raise errors of its own as well. -/
inductive AwaitedAnswer where
  | answer (answer : HttpAnswer)
  | cancelled

/-- What is outside the process answers by all that was logged before; of the
library only what is computed is used. -/
structure FetchWorld where
  library : CrawlWorld
  resolve : List FetchEvent → String → Nat →
    Awaited (List (Option String))
  answer : List FetchEvent → RequestPurpose → String → AwaitedAnswer
  /-- A wait for a permit or for some time; `false` where it is cancelled. -/
  wait : List FetchEvent → FetchSite → Bool
  canFetch : RobotsRules → String → String → Except String Bool
  /-- The text of a browser; `none` where rendering raises. -/
  render : List FetchEvent → String → Awaited (Option String)
  /-- `parse_html`: the text and the links of a page. -/
  parseHtml : FetchedPage → Except String (String × List String)

structure FetchState where
  log : List FetchEvent := []
  robotsCache : Dict String RobotsRules := ∅

abbrev Fetching := EStateM FetchError FetchState

namespace Fetching

def emit (event : FetchEvent) : Fetching Unit :=
  modify fun state => { state with log := state.log ++ [event] }

/-- An exception that nothing there expects. -/
def fail {Result : Type} (site : FetchSite) (message : String) :
    Fetching Result := do
  emit (.failed site)
  throw (.crawl (.other message))

def cancel {Result : Type} (site : FetchSite) : Fetching Result := do
  emit (.cancelled site)
  throw .cancelled

/-- A library call that may raise. -/
def orFail {Result : Type} (site : FetchSite) :
    Except String Result → Fetching Result
  | .ok result => pure result
  | .error message => fail site message

/-- A call that is waited for. -/
def await {Result : Type} (site : FetchSite) :
    Awaited Result → Fetching Result
  | .done result => pure result
  | .raised message => fail site message
  | .cancelled => cancel site

end Fetching

open Fetching

namespace FetchWorld

variable (world : FetchWorld)

/-- A wait that only a cancellation ends early. -/
def waitFor (site : FetchSite) : Fetching Unit := do
  let state ← get
  if world.wait state.log site then return () else cancel site

/-! ## Addresses -/

/-- `SSRFGuard.resolve`. -/
def resolveHost (hostname : String) (port : Nat) :
    Fetching (List String) := do
  let state ← get
  let infos ← await .resolver (world.resolve state.log hostname port)
  return (infos.filterMap id).dedup

/-- `SSRFGuard.validate_ip`, of all addresses. -/
def validateAddresses (addresses : List String) : Fetching Unit :=
  match validateIps world.library addresses with
  | .ok _ => return ()
  | .error (.other message) => fail .address message
  | .error error => throw (.crawl error)

/-- `SSRFGuard.validate_url`. -/
def validateUrl (url : String) : Fetching (List String) := do
  let parsed ← orFail .url (world.library.urlparse url)
  if parsed.scheme ∉ ["http", "https"] then
    throw (.crawl (.ssrf ("Unsupported URL scheme: " ++ parsed.scheme)))
  else if parsed.hostname.getD "" = "" then
    throw (.crawl (.ssrf "URL hostname is required"))
  else
    let port ← orFail .url parsed.port
    let hostname := parsed.hostname.getD ""
    let addresses ← world.resolveHost hostname
      (if port.getD 0 = 0 then defaultPort parsed.scheme else port.getD 0)
    if addresses = [] then
      throw (.crawl (.ssrf ("Hostname did not resolve: " ++ hostname)))
    else
      world.validateAddresses addresses
      return addresses

/-- `SSRFGuard.validate_rebinding`. -/
def validateRebinding (url : String) (expectedAddresses : List String) :
    Fetching Unit := do
  let resolved ← world.validateUrl url
  if expectedAddresses ≠ [] ∧
      ∀ address ∈ expectedAddresses, address ∉ resolved then
    throw (.crawl (.ssrf "DNS rebinding detected"))
  else return ()

/-! ## Requests -/

/-- The call that a request is made by. -/
def requestSite : RequestPurpose → FetchSite
  | .robots => .robotsRequest
  | _ => .pageRequest

/-- One request, without redirects. -/
def send (purpose : RequestPurpose) (url : String) :
    Fetching HttpResponse := do
  emit (.requested purpose url)
  let state ← get
  match world.answer state.log purpose url with
  | .cancelled => cancel (requestSite purpose)
  | .answer (.response response) => return response
  | .answer (.timeout message) => throw (.crawl (.timeout message))
  | .answer (.transport message) => throw (.crawl (.transport message))
  | .answer (.http message) => throw (.crawl (.http message))
  | .answer (.other message) => fail (requestSite purpose) message

/-- The loop of `_request_with_redirects`. -/
def followRedirects : Nat → String → List String →
    Fetching HttpResponse
  | 0, _, _ => throw (.crawl (.http "Exceeded maximum redirects"))
  | limit + 1, currentUrl, expectedAddresses => do
      let response ← world.send .page currentUrl
      if response.isRedirect then
        if response.location.getD "" = "" then return response
        else
          let next ← orFail .join (world.library.urljoin response.url
            (response.location.getD ""))
          let addresses ← world.validateUrl next
          followRedirects limit next addresses
      else
        world.validateRebinding response.url expectedAddresses
        return response

def maxRedirects : Nat := 10

/-- `_request_with_redirects`. -/
def requestWithRedirects (request : CrawlRequest) :
    Fetching HttpResponse := do
  let expectedAddresses ← world.validateUrl request.url
  world.followRedirects (maxRedirects + 1) request.url expectedAddresses

/-- The rest of the attempts of `_get_with_retries`. -/
def getWithRetriesFrom (request : CrawlRequest) :
    Nat → Nat → Fetching (HttpResponse × Nat)
  | 0, _ => throw (.crawl (.timeout "Exhausted retries"))
  | attempts + 1, retries =>
      tryCatch
        (do
          let response ← world.requestWithRedirects request
          return (response, retries))
        fun
        | .crawl (.timeout message) =>
            if attempts = 0 then throw (.crawl (.timeout message))
            else do
              world.waitFor .backoff
              getWithRetriesFrom request attempts (retries + 1)
        | .crawl (.transport message) =>
            if attempts = 0 then throw (.crawl (.transport message))
            else do
              world.waitFor .backoff
              getWithRetriesFrom request attempts (retries + 1)
        | error => throw error

/-! ## The fetcher -/

/-- `_render_with_playwright`. -/
def renderWithPlaywright (url : String) : Fetching (Option String) := do
  let state ← get
  if world.library.playwrightInstalled then
    tryCatch (await .rendering (world.render state.log url)) fun
      | .cancelled => throw .cancelled
      | .crawl _ => return none
  else return none

/-- The `try` of `_do_fetch`. -/
def fetchPage (request : CrawlRequest) : Fetching CrawlResult := do
  let (response, retries) ←
    world.getWithRetriesFrom request CrawlWorld.maxRetries 0
  let text ← orFail .decode (world.library.decode response
    (response.content.take (min request.maxBytes request.maxTotalBytes)))
  let rendered ←
    if world.library.renderModeAllows request.renderJs then
      world.renderWithPlaywright response.url
    else pure none
  let success := 200 ≤ response.statusCode && response.statusCode < 400
  return {
    page := some (world.library.fetchedPage request response text rendered)
    success := success
    error :=
      if success then none
      else some ("HTTP " ++ toString response.statusCode)
    retries := retries }

/-- `_do_fetch`. -/
def doFetch (request : CrawlRequest) : Fetching CrawlResult :=
  tryCatch (world.fetchPage request) fun
    | .cancelled => throw .cancelled
    | .crawl (.other message) => throw (.crawl (.other message))
    | .crawl (.timeout _) =>
        return .failed "Timeout after retries" CrawlWorld.maxRetries
    | .crawl error => return .failed error.message CrawlWorld.maxRetries

/-- `DomainPolicy.is_denied`. -/
def isDenied (url : String) : Fetching Bool := do
  let parsed ← orFail .url (world.library.urlparse url)
  return decide (parsed.hostname.getD "" ∈ denyDomains)

/-- The message of the `SSRFError` a validation raises. -/
def rejection (url : String) : Fetching (Option String) :=
  tryCatch
    (do
      let _ ← world.validateUrl url
      return none)
    fun
    | .crawl (.ssrf message) => return some message
    | error => throw error

/-- The rules of an origin; only a cancellation passes the `except`. -/
def readRobots (origin : String) : Fetching RobotsRules :=
  tryCatch
    (do
      let response ← world.send .robots (origin ++ "/robots.txt")
      return if response.statusCode = 200 then .parsed response.text
        else .allowAll)
    fun
    | .cancelled => throw .cancelled
    | .crawl _ => return .allowAll

/-- `DomainPolicy.check_robots`. -/
def checkRobots (url : String) : Fetching Bool := do
  let parsed ← orFail .url (world.library.urlparse url)
  let origin := parsed.scheme ++ "://" ++ parsed.netloc
  let state ← get
  match state.robotsCache.get? origin with
  | some rules => orFail .robotsRules (world.canFetch rules botUserAgent url)
  | none =>
      let rules ← world.readRobots origin
      modify fun state =>
        { state with robotsCache := state.robotsCache.set origin rules }
      orFail .robotsRules (world.canFetch rules botUserAgent url)

/-- The domain whose permits a URL takes. -/
def policyDomain (parsed : ParsedUrl) : String :=
  if parsed.hostname.getD "" = "" then "unknown"
  else parsed.hostname.getD ""

/-- `DomainPolicy.acquire`; the rate limit is one more wait. -/
def acquire (url : String) : Fetching Unit := do
  let parsed ← orFail .url (world.library.urlparse url)
  world.waitFor .globalPermit
  emit (.acquired .overall)
  world.waitFor .domainPermit
  emit (.acquired (.domain (policyDomain parsed)))
  world.waitFor .rateLimit

/-- `DomainPolicy.release`. -/
def release (url : String) : Fetching Unit := do
  let parsed ← orFail .url (world.library.urlparse url)
  emit (.released (.domain (policyDomain parsed)))
  emit (.released .overall)

/-- `PageFetcher.fetch`. -/
def fetch (request : CrawlRequest) : Fetching CrawlResult := do
  if ← world.isDenied request.url then
    return .failed ("Domain denied: " ++ request.url) 0
  else
    match ← world.rejection request.url with
    | some message => return .failed message 0
    | none =>
        let allowed ←
          if request.respectRobots then world.checkRobots request.url
          else pure true
        if allowed then
          world.acquire request.url
          tryFinally (world.doFetch request) (world.release request.url)
        else return .failed "Blocked by robots.txt" 0

/-! ## The scheduler -/

/-- A crawled page and its links. -/
structure CrawledPage where
  result : CrawlResult
  links : Option (List String) := none

/-- `parse_html` of the page of a success. -/
def parsed (result : CrawlResult) : Fetching (String × CrawledPage) :=
  match result.success, result.page with
  | true, some page => do
      let (text, links) ← orFail .parsing (world.parseHtml page)
      return (text, { result := result, links := some links })
  | _, _ => return ("", { result := result })

/-- `_should_auto_render`, of a page with some text. -/
def shouldAutoRender (result : CrawlResult) (text : String) : Bool :=
  (strip (world.library.kbJsRender.getD "auto")).toLower = "auto" &&
    result.success &&
      result.page.any fun page =>
        (strip text).length < 100 ||
          contains page.html "window.__INITIAL_STATE__" ||
          contains page.html "data-reactroot"

/-- `crawl_sync`. -/
def crawlSync (request : CrawlRequest) : Fetching CrawledPage := do
  let result ← world.fetch request
  let (text, crawled) ← world.parsed result
  if world.shouldAutoRender result text && !request.renderJs then
    let rendered ← world.fetch { request with renderJs := true }
    if rendered.success && rendered.page.isSome then
      let (_, crawledAgain) ← world.parsed rendered
      return crawledAgain
    else return crawled
  else return crawled

end FetchWorld

end CompetiScope
