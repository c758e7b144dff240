import CompetiScope.Foundation.Dict
import CompetiScope.Foundation.Logged
import CompetiScope.Foundation.Text

/-!
# Fetching pages

A fetch validates the addresses of a URL, asks robots.txt, follows redirects
itself and may have a browser render the page.  Name servers, web servers and
the browser answer out of a world that sees all that was logged before, so no
two answers need to agree.
-/

namespace CompetiScope

open Foundation

/-! ## The world -/

/-- What `validate_ip` reads of an address. -/
structure IpAddress where
  text : String
  version : Nat
  value : Nat
  isLoopback : Bool := false
  isPrivate : Bool := false
  isLinkLocal : Bool := false
  isMulticast : Bool := false
  isReserved : Bool := false
  isUnspecified : Bool := false
  isGlobal : Bool := true

/-- What is read of a parsed URL; reading the port may raise. -/
structure ParsedUrl where
  scheme : String
  netloc : String
  hostname : Option String
  port : Except String (Option Nat) := .ok none

structure HttpResponse where
  url : String
  statusCode : Nat
  location : Option String := none
  contentType : String := ""
  content : List UInt8 := []
  text : String := ""
  deriving DecidableEq

/-- `is_redirect`: any status code of the 300s. -/
def HttpResponse.isRedirect (response : HttpResponse) : Bool :=
  300 ≤ response.statusCode && response.statusCode ≤ 399

/-- What a request comes to. -/
inductive HttpAnswer where
  | response (response : HttpResponse)
  | timeout (message : String)
  | transport (message : String)
  | http (message : String)
  | other (message : String)

/-- A navigation: the redirects the browser follows and the content of the
page, unless it raises. -/
structure Navigation where
  redirects : List String := []
  content : Option String := none

inductive RequestPurpose where
  | page
  | robots
  | navigation
  | redirect
  deriving DecidableEq

inductive CrawlEvent where
  | accepted (url : String) (addresses : List String)
  | requested (purpose : RequestPurpose) (url : String)
  | received (purpose : RequestPurpose) (response : HttpResponse)
  | rendered (content : String)
  deriving DecidableEq

/-- What `robots.txt` says. -/
inductive RobotsRules where
  | allowAll
  | parsed (text : String)

/-- Libraries and everything outside the process.  A browser may fail before
its first request. -/
structure CrawlWorld where
  urlparse : String → Except String ParsedUrl
  urljoin : String → String → Except String String
  ipAddress : String → Except String IpAddress
  getaddrinfo : List CrawlEvent → String → Nat →
    Except String (List (Option String))
  answer : List CrawlEvent → String → HttpAnswer
  navigate : List CrawlEvent → String → Option Navigation
  playwrightInstalled : Bool
  kbJsRender : Option String
  decode : HttpResponse → List UInt8 → Except String String
  sha256Hex : List UInt8 → String
  canFetch : String → String → String → Bool

inductive CrawlError where
  | ssrf (message : String)
  | timeout (message : String)
  | transport (message : String)
  | http (message : String)
  | other (message : String)
  deriving DecidableEq

/-- The message of the exception. -/
def CrawlError.message : CrawlError → String
  | .ssrf message => message
  | .timeout message => message
  | .transport message => message
  | .http message => message
  | .other message => message

structure CrawlerState where
  log : List CrawlEvent := []
  robotsCache : Dict String RobotsRules := ∅

abbrev Crawl := EStateM CrawlError CrawlerState

def record (event : CrawlEvent) : Crawl Unit :=
  modify fun state => { state with log := state.log ++ [event] }

/-- A library call that may raise. -/
def orRaise {Result : Type} : Except String Result → Crawl Result
  | .ok result => pure result
  | .error message => throw (.other message)

/-! ## Addresses -/

structure SSRFGuard where
  dnsRebindingProtection : Bool := true

section Guard

variable (world : CrawlWorld) (guard : SSRFGuard)

/-- An address of the cloud's metadata service. -/
def IpAddress.isCloudMetadata (ip : IpAddress) : Bool :=
  ip.version = 4 && ip.value = 0xA9FEA9FE ||
    ip.version = 6 && ip.value = 0xFD000EC2000000000000000000000254

/-- An address of `198.18.0.0/15`. -/
def IpAddress.inDockerDesktopProxyNet (ip : IpAddress) : Bool :=
  decide (0xC6120000 ≤ ip.value) && decide (ip.value < 0xC6140000)

/-- `validate_ip`. -/
def validateIp (address : String) : Except CrawlError Unit :=
  match world.ipAddress address with
  | .error message => .error (.other message)
  | .ok ip =>
      if ip.isCloudMetadata then
        .error (.ssrf ("Blocked cloud metadata address: " ++ ip.text))
      else if ip.version = 4 ∧ ip.inDockerDesktopProxyNet then .ok ()
      else if ip.isLoopback || ip.isPrivate || ip.isLinkLocal ||
          ip.isMulticast || ip.isReserved || ip.isUnspecified ||
          !ip.isGlobal then
        .error (.ssrf ("Blocked non-public address: " ++ ip.text))
      else if ip.version = 4 ∧ ip.value = 0xFFFFFFFF then
        .error (.ssrf ("Blocked broadcast address: " ++ ip.text))
      else .ok ()

def validateIps : List String → Except CrawlError Unit
  | [] => .ok ()
  | address :: addresses =>
      match validateIp world address with
      | .error error => .error error
      | .ok _ => validateIps addresses

/-- `resolve`: the set of addresses. -/
def resolve (hostname : String) (port : Nat) : Crawl (List String) := do
  let state ← get
  let infos ← orRaise (world.getaddrinfo state.log hostname port)
  return (infos.filterMap id).dedup

def defaultPort (scheme : String) : Nat :=
  if scheme = "https" then 443 else 80

/-- `validate_url`; what it accepts is logged. -/
def validateUrl (url : String) : Crawl (List String) := do
  let parsed ← orRaise (world.urlparse url)
  if parsed.scheme ∉ ["http", "https"] then
    throw (.ssrf ("Unsupported URL scheme: " ++ parsed.scheme))
  else if parsed.hostname.getD "" = "" then
    throw (.ssrf "URL hostname is required")
  else
    let port ← orRaise parsed.port
    let hostname := parsed.hostname.getD ""
    let addresses ← resolve world hostname
      (if port.getD 0 = 0 then defaultPort parsed.scheme else port.getD 0)
    if addresses = [] then
      throw (.ssrf ("Hostname did not resolve: " ++ hostname))
    else
      match validateIps world addresses with
      | .error error => throw error
      | .ok _ =>
          record (.accepted url addresses)
          return addresses

/-- `validate_rebinding`. -/
def validateRebinding (url : String) (expectedAddresses : List String) :
    Crawl Unit := do
  if guard.dnsRebindingProtection then
    let resolved ← validateUrl world url
    if expectedAddresses ≠ [] ∧
        ∀ address ∈ expectedAddresses, address ∉ resolved then
      throw (.ssrf "DNS rebinding detected")
    else return ()
  else return ()

end Guard

/-! ## Requests -/

section Requests

variable (world : CrawlWorld) (guard : SSRFGuard)

/-- One request, without redirects. -/
def send (purpose : RequestPurpose) (url : String) : Crawl HttpResponse := do
  record (.requested purpose url)
  let state ← get
  match world.answer state.log url with
  | .response response =>
      record (.received purpose response)
      return response
  | .timeout message => throw (.timeout message)
  | .transport message => throw (.transport message)
  | .http message => throw (.http message)
  | .other message => throw (.other message)

/-- The loop over the redirects from a URL that was accepted; without a
response where the limit is exceeded. -/
def followRedirects (purpose : RequestPurpose) : Nat → String →
    List String → Crawl (Option HttpResponse)
  | 0, _, _ => return none
  | limit + 1, currentUrl, expectedAddresses => do
      let response ← send world purpose currentUrl
      if response.isRedirect then
        if response.location.getD "" = "" then return some response
        else
          let next ← orRaise
            (world.urljoin response.url (response.location.getD ""))
          let addresses ← validateUrl world next
          followRedirects purpose limit next addresses
      else
        validateRebinding world guard response.url expectedAddresses
        return some response

end Requests

/-! ## The fetcher -/

structure CrawlRequest where
  url : String
  renderJs : Bool := false
  respectRobots : Bool := true
  maxBytes : Nat := 5000000
  maxTotalBytes : Nat := 50000000

/-- The columns of a `ParsedPage` that a fetch fills. -/
structure FetchedPage where
  url : String
  html : String
  contentHash : String
  contentLength : Nat
  contentType : String
  statusCode : Nat
  deriving DecidableEq

structure CrawlResult where
  page : Option FetchedPage := none
  success : Bool
  error : Option String := none
  retries : Nat := 0
  deriving DecidableEq

def CrawlResult.failed (error : String) (retries : Nat) : CrawlResult :=
  { success := false
    error := some error
    retries := retries }

def denyDomains : List String := ["localhost", "127.0.0.1", "0.0.0.0"]

def botUserAgent : String :=
  "CompetiscopeBot/1.0 (+https://competiscope.example.com/bot)"

namespace CrawlWorld

variable (world : CrawlWorld)

/-- `DomainPolicy.is_denied`. -/
def isDenied (url : String) : Crawl Bool := do
  let parsed ← orRaise (world.urlparse url)
  return decide (parsed.hostname.getD "" ∈ denyDomains)

/-- `can_fetch` of the parser that was cached. -/
def allows (rules : RobotsRules) (url : String) : Bool :=
  match rules with
  | .allowAll => true
  | .parsed text => world.canFetch text botUserAgent url

/-- The rules of an origin; a failure allows everything. -/
def readRobots (origin : String) : Crawl RobotsRules :=
  tryCatch
    (do
      let response ← send world .robots (origin ++ "/robots.txt")
      return if response.statusCode = 200 then .parsed response.text
        else .allowAll)
    fun _ => return .allowAll

/-- `DomainPolicy.check_robots`. -/
def checkRobots (url : String) : Crawl Bool := do
  let parsed ← orRaise (world.urlparse url)
  let origin := parsed.scheme ++ "://" ++ parsed.netloc
  let state ← get
  match state.robotsCache.get? origin with
  | some rules => return world.allows rules url
  | none =>
      let rules ← world.readRobots origin
      modify fun state =>
        { state with robotsCache := state.robotsCache.set origin rules }
      return world.allows rules url

/-- `_request_with_redirects`. -/
def requestWithRedirects (request : CrawlRequest) : Crawl HttpResponse := do
  let expectedAddresses ← validateUrl world request.url
  match ← followRedirects world { } .page 11 request.url
      expectedAddresses with
  | some response => return response
  | none => throw (.http "Exceeded maximum redirects")

/-- The rest of the attempts of `_get_with_retries`. -/
def getWithRetriesFrom (request : CrawlRequest) :
    Nat → Nat → Crawl (HttpResponse × Nat)
  | 0, _ => throw (.timeout "Exhausted retries")
  | attempts + 1, retries =>
      tryCatch
        (do
          let response ← world.requestWithRedirects request
          return (response, retries))
        fun
        | .timeout message =>
            if attempts = 0 then throw (.timeout message)
            else getWithRetriesFrom request attempts (retries + 1)
        | .transport message =>
            if attempts = 0 then throw (.transport message)
            else getWithRetriesFrom request attempts (retries + 1)
        | error => throw error

def maxRetries : Nat := 3

/-- `_render_mode_allows`. -/
def renderModeAllows (renderJs : Bool) : Bool :=
  let mode := (strip (world.kbJsRender.getD "auto")).toLower
  if mode = "never" then false
  else if mode = "always" then true
  else renderJs

/-- The redirects of a navigation are requests of the browser. -/
def recordRedirects : List String → Crawl Unit
  | [] => return ()
  | url :: urls => do
      record (.requested .redirect url)
      recordRedirects urls

/-- `_render_with_playwright`. -/
def renderWithPlaywright (url : String) : Crawl (Option String) := do
  let state ← get
  if world.playwrightInstalled then
    match world.navigate state.log url with
    | none => return none
    | some navigation =>
        record (.requested .navigation url)
        recordRedirects navigation.redirects
        match navigation.content with
        | none => return none
        | some content =>
            record (.rendered content)
            return some content
  else return none

/-- What is rendered, if anything, replaces the page. -/
def fetchedPage (request : CrawlRequest) (response : HttpResponse)
    (text : String) (rendered : Option String) : FetchedPage :=
  let byteLimit := min request.maxBytes request.maxTotalBytes
  let isRendered := rendered.getD "" ≠ ""
  let text :=
    if isRendered then
      String.ofList ((rendered.getD "").toList.take byteLimit)
    else text
  let content :=
    if isRendered then text.toUTF8.toList
    else response.content.take byteLimit
  { url := response.url
    html := text
    contentHash := String.ofList ((world.sha256Hex content).toList.take 16)
    contentLength := content.length
    contentType := response.contentType
    statusCode := response.statusCode }

/-- The `try` of `_do_fetch`. -/
def fetchPage (request : CrawlRequest) : Crawl CrawlResult := do
  let (response, retries) ← world.getWithRetriesFrom request maxRetries 0
  let text ← orRaise (world.decode response
    (response.content.take (min request.maxBytes request.maxTotalBytes)))
  let rendered ←
    if world.renderModeAllows request.renderJs then
      world.renderWithPlaywright response.url
    else pure none
  let success := 200 ≤ response.statusCode && response.statusCode < 400
  return {
    page := some (world.fetchedPage request response text rendered)
    success := success
    error :=
      if success then none
      else some ("HTTP " ++ toString response.statusCode)
    retries := retries }

/-- `_do_fetch`. -/
def doFetch (request : CrawlRequest) : Crawl CrawlResult :=
  tryCatch (world.fetchPage request) fun
    | .timeout _ => return .failed "Timeout after retries" maxRetries
    | .other message => throw (.other message)
    | error => return .failed error.message maxRetries

/-- The message of the `SSRFError` a validation raises. -/
def rejection (url : String) : Crawl (Option String) :=
  tryCatch
    (do
      let _ ← validateUrl world url
      return none)
    fun
    | .ssrf message => return some message
    | error => throw error

/-- `PageFetcher.fetch`. -/
def fetch (request : CrawlRequest) : Crawl CrawlResult := do
  if ← world.isDenied request.url then
    return .failed ("Domain denied: " ++ request.url) 0
  else
    match ← world.rejection request.url with
    | some message => return .failed message 0
    | none =>
        let allowed ←
          if request.respectRobots then world.checkRobots request.url
          else pure true
        if allowed then world.doFetch request
        else return .failed "Blocked by robots.txt" 0

end CrawlWorld

/-! ## Checking robots.txt -/

structure RobotsCheckResult where
  url : String
  robotsUrl : String
  allowed : Bool
  checked : Bool
  statusCode : Option Nat := none
  error : Option String := none
  deriving DecidableEq

namespace CrawlWorld

variable (world : CrawlWorld)

/-- A check that got no answer to go by. -/
def unchecked (url robotsUrl : String) (allowed : Bool) (error : String) :
    RobotsCheckResult :=
  { url := url
    robotsUrl := robotsUrl
    allowed := allowed
    checked := false
    error := some error }

/-- What follows from the response. -/
def robotsResult (userAgent url robotsUrl : String)
    (response : HttpResponse) : RobotsCheckResult :=
  if 400 ≤ response.statusCode then
    { unchecked url robotsUrl true
        ("robots.txt returned " ++ toString response.statusCode) with
      statusCode := some response.statusCode }
  else
    { url := url
      robotsUrl := robotsUrl
      allowed := world.canFetch response.text userAgent url
      checked := true
      statusCode := some response.statusCode }

/-- `robots_check`. -/
def robotsCheck (guard : SSRFGuard) (userAgent url : String) :
    Crawl RobotsCheckResult := do
  let parsed ← orRaise (world.urlparse url)
  if parsed.scheme ∉ ["http", "https"] ∨ parsed.netloc = "" then
    return unchecked url "" false "invalid_url"
  else
    let robotsUrl ← orRaise (world.urljoin
      (parsed.scheme ++ "://" ++ parsed.netloc) "/robots.txt")
    tryCatch
      (do
        let expectedAddresses ← validateUrl world robotsUrl
        match ← followRedirects world guard .robots 6 robotsUrl
            expectedAddresses with
        | some response =>
            return world.robotsResult userAgent url robotsUrl response
        | none =>
            return unchecked url robotsUrl false
              "robots_redirect_limit_exceeded")
      fun
      | .ssrf message => return unchecked url robotsUrl false message
      | error => return unchecked url robotsUrl true error.message

end CrawlWorld

end CompetiScope
