import CompetiScope.Crawler.Fetcher

/-!
# Requests to validated destinations

The loop over redirects validates every URL before its request.  A redirect
without a location ends the loop before the addresses are validated again, and
the browser validates nothing; these and the request for robots.txt are all
that can go out or come back unguarded.
-/

namespace CompetiScope

open Foundation

/-! ## Guarded logs -/

namespace CrawlEvent

def acceptedUrl : CrawlEvent → Option String
  | .accepted url _ => some url
  | _ => none

def requestedUrl : CrawlEvent → Option String
  | .requested _ url => some url
  | _ => none

/-- The event brings the text of a page or a file. -/
def bringsBody : CrawlEvent → Bool
  | .received _ _ => true
  | .rendered content => content ≠ ""
  | _ => false

end CrawlEvent

/-- Every request comes right after the acceptance of its URL; `previous` is
the URL the event before accepted. -/
def RequestsAccepted : Option String → List CrawlEvent → Prop
  | _, [] => True
  | previous, event :: events =>
      (∀ url ∈ event.requestedUrl, previous = some url) ∧
        RequestsAccepted event.acceptedUrl events

/-- The response came between two validations that share an address. -/
def EndsRechecked (response : HttpResponse) (events : List CrawlEvent) :
    Prop :=
  ∃ before purpose url expected again,
    events = before ++
      [.accepted url expected, .requested purpose url,
        .received purpose response, .accepted response.url again] ∧
      ∃ address ∈ expected, address ∈ again

/-- The last body that came was rechecked. -/
def BodyRechecked (events : List CrawlEvent) : Prop :=
  ∃ response before after, events = before ++ after ∧
    EndsRechecked response before ∧
    ∀ event ∈ after, event.bringsBody = false

/-- Requests go to validated URLs only, and a body that is returned was
rechecked. -/
structure CrawlGuarded (events : List CrawlEvent) (hasBody : Prop) : Prop where
  requests : RequestsAccepted none events
  body : hasBody → BodyRechecked events

/-- A located redirect names the URL to go on with. -/
def HttpResponse.isLocated (response : HttpResponse) : Prop :=
  response.isRedirect = true → response.location.getD "" ≠ ""

instance (response : HttpResponse) : Decidable response.isLocated :=
  inferInstanceAs (Decidable (_ → _))

/-- What the world may do in a fetch: robots.txt is the page itself, a
redirect has a location unless its content cannot be decoded, and the browser
neither follows redirects nor renders anything. -/
def CrawlWorld.Permits (world : CrawlWorld) (request : CrawlRequest) :
    CrawlEvent → Prop
  | .requested .robots url => url = request.url
  | .requested .redirect _ => False
  | .received .page response =>
      response.isLocated ∨
        (world.decode response (response.content.take
          (min request.maxBytes request.maxTotalBytes))).isOk = false
  | .rendered content => content = ""
  | _ => True

/-- What may come back in a check of robots.txt: an error, or a redirect with
a location or a response that the guard rechecks. -/
def SSRFGuard.Permits (guard : SSRFGuard) : CrawlEvent → Prop
  | .received _ response =>
      response.statusCode < 400 →
        response.isLocated ∧
          (response.isRedirect = false → guard.dnsRebindingProtection = true)
  | _ => True

/-! ## Rules for logs -/

section Logs

theorem RequestsAccepted.weaken {events : List CrawlEvent}
    (accepted : RequestsAccepted none events) (previous : Option String) :
    RequestsAccepted previous events := by
  cases events with
  | nil => trivial
  | cons event events =>
      refine ⟨fun url isUrl => ?_, accepted.2⟩
      cases accepted.1 url isUrl

theorem RequestsAccepted.append {previous : Option String}
    {first second : List CrawlEvent}
    (accepted : RequestsAccepted previous first)
    (more : RequestsAccepted none second) :
    RequestsAccepted previous (first ++ second) := by
  induction first generalizing previous with
  | nil => exact more.weaken previous
  | cons event first induction =>
      exact ⟨accepted.1, induction accepted.2⟩

theorem RequestsAccepted.left {previous : Option String}
    {first second : List CrawlEvent}
    (accepted : RequestsAccepted previous (first ++ second)) :
    RequestsAccepted previous first := by
  induction first generalizing previous with
  | nil => trivial
  | cons event first induction =>
      exact ⟨accepted.1, induction accepted.2⟩

/-- A request right after a log that ends with the acceptance of its URL. -/
theorem RequestsAccepted.append_requested {previous : Option String}
    {before : List CrawlEvent} {url : String} {addresses : List String}
    (accepted : RequestsAccepted previous
      (before ++ [.accepted url addresses]))
    (purpose : RequestPurpose) :
    RequestsAccepted previous
      (before ++ [.accepted url addresses, .requested purpose url]) := by
  induction before generalizing previous with
  | nil =>
      refine ⟨accepted.1, ?_, trivial⟩
      intro other isOther
      cases isOther
      rfl
  | cons event before induction =>
      exact ⟨accepted.1, induction accepted.2⟩

/-- What comes right before a request accepted its URL. -/
theorem RequestsAccepted.acceptedUrl_eq {previous : Option String}
    {before after : List CrawlEvent} {event : CrawlEvent}
    {purpose : RequestPurpose} {url : String}
    (accepted : RequestsAccepted previous
      (before ++ event :: .requested purpose url :: after)) :
    event.acceptedUrl = some url := by
  induction before generalizing previous with
  | nil => exact accepted.2.1 url rfl
  | cons first before induction => exact induction accepted.2

theorem EndsRechecked.prepend {response : HttpResponse}
    {events : List CrawlEvent} (ends : EndsRechecked response events)
    (first : List CrawlEvent) : EndsRechecked response (first ++ events) := by
  obtain ⟨before, purpose, url, expected, again, rfl, shared⟩ := ends
  exact ⟨first ++ before, purpose, url, expected, again,
    (List.append_assoc _ _ _).symm, shared⟩

theorem BodyRechecked.prepend {events : List CrawlEvent}
    (rechecked : BodyRechecked events) (first : List CrawlEvent) :
    BodyRechecked (first ++ events) := by
  obtain ⟨response, before, after, rfl, ends, quiet⟩ := rechecked
  exact ⟨response, first ++ before, after, (List.append_assoc _ _ _).symm,
    ends.prepend first, quiet⟩

/-- A body that comes last was not rechecked. -/
theorem not_bodyRechecked {before : List CrawlEvent} {event : CrawlEvent}
    (brings : event.bringsBody = true) :
    ¬ BodyRechecked (before ++ [event]) := by
  rintro ⟨response, rechecked, after, same, ends, quiet⟩
  rcases List.eq_nil_or_concat after with rfl | ⟨init, last, rfl⟩
  · obtain ⟨start, purpose, url, expected, again, rfl, -⟩ := ends
    rw [List.append_nil] at same
    have lasts := congrArg List.getLast? same
    rw [List.getLast?_concat, List.getLast?_append] at lasts
    cases Option.some.inj lasts
    cases brings
  · rw [List.concat_eq_append] at same quiet
    have lasts := congrArg List.getLast? same
    rw [List.getLast?_concat, ← List.append_assoc,
      List.getLast?_concat] at lasts
    cases Option.some.inj lasts
    have quietHere := quiet event (by simp)
    rw [brings] at quietHere
    cases quietHere

end Logs

/-! ## What is logged -/

section Emitted

variable {world : CrawlWorld} {guard : SSRFGuard} {purpose : RequestPurpose}

theorem emits_record (event : CrawlEvent) :
    Emits CrawlerState.log (record event) (fun _ news => news = [event])
      (fun _ _ => False) :=
  Emits.modify (fun _ => rfl) rfl

theorem emits_orRaise {Result : Type} (made : Except String Result) :
    Emits CrawlerState.log (orRaise made)
      (fun result news => made = .ok result ∧ news = [])
      (fun _ news => made.isOk = false ∧ news = []) := by
  cases made with
  | ok result => exact Emits.pure ⟨rfl, rfl⟩
  | error message => exact Emits.throw ⟨rfl, rfl⟩

theorem emits_resolve (hostname : String) (port : Nat) :
    Emits CrawlerState.log (resolve world hostname port)
      (fun _ news => news = []) (fun _ news => news = []) := by
  unfold resolve
  apply Emits.get
  intro state
  refine (emits_orRaise _).bind ?_ fun _ _ raised => raised.2
  rintro infos _ ⟨-, rfl⟩
  exact Emits.pure rfl

/-- A validation logs what it accepts. -/
theorem emits_validateUrl (url : String) :
    Emits CrawlerState.log (validateUrl world url)
      (fun addresses news =>
        addresses ≠ [] ∧ news = [.accepted url addresses])
      (fun _ news => news = []) := by
  unfold validateUrl
  refine (emits_orRaise _).bind ?_ fun _ _ raised => raised.2
  rintro parsed _ ⟨-, rfl⟩
  split
  · exact Emits.throw rfl
  · split
    · exact Emits.throw rfl
    · refine (emits_orRaise _).bind ?_ fun _ _ raised => raised.2
      rintro port _ ⟨-, rfl⟩
      refine (emits_resolve _ _).bind ?_ fun _ _ raised => raised
      rintro addresses _ rfl
      split
      · exact Emits.throw rfl
      · next someAddress =>
        split
        · exact Emits.throw rfl
        · refine (emits_record _).bind ?_ fun _ _ raised => raised.elim
          rintro _ _ rfl
          exact Emits.pure ⟨someAddress, rfl⟩

/-- A second validation shares an address with the first, if there is one. -/
theorem emits_validateRebinding (url : String) {expected : List String}
    (someExpected : expected ≠ []) :
    Emits CrawlerState.log (validateRebinding world guard url expected)
      (fun _ news =>
        guard.dnsRebindingProtection = false ∧ news = [] ∨
          guard.dnsRebindingProtection = true ∧
            ∃ again, news = [.accepted url again] ∧
              ∃ address ∈ expected, address ∈ again)
      (fun _ news => guard.dnsRebindingProtection = true ∧
        (news = [] ∨ ∃ again, news = [.accepted url again])) := by
  unfold validateRebinding
  split
  · next protects =>
    refine (emits_validateUrl url).bind ?_ fun _ _ raised =>
      ⟨protects, .inl raised⟩
    rintro again _ ⟨-, rfl⟩
    split
    · exact Emits.throw ⟨protects, .inr ⟨again, rfl⟩⟩
    · next shared =>
      apply Emits.pure
      refine .inr ⟨protects, again, rfl, ?_⟩
      by_contra disjoint
      apply shared
      refine ⟨someExpected, fun address member inAgain => ?_⟩
      exact disjoint ⟨address, member, inAgain⟩
  · next off => exact Emits.pure (.inl ⟨Bool.eq_false_iff.mpr off, rfl⟩)

/-- A request logs itself and its response. -/
theorem emits_send (url : String) :
    Emits CrawlerState.log (send world purpose url)
      (fun response news =>
        news = [.requested purpose url, .received purpose response])
      (fun _ news => news = [.requested purpose url]) := by
  unfold send
  refine (emits_record _).bind ?_ fun _ _ raised => raised.elim
  rintro _ _ rfl
  apply Emits.get
  intro state
  split
  · next response _ =>
    refine (emits_record _).bind ?_ fun _ _ raised => raised.elim
    rintro _ _ rfl
    exact Emits.pure rfl
  · exact Emits.throw rfl
  · exact Emits.throw rfl
  · exact Emits.throw rfl
  · exact Emits.throw rfl

end Emitted

/-! ## The loop over redirects -/

/-- An event of a loop with the given purpose. -/
def CrawlEvent.inLoop (purpose : RequestPurpose) : CrawlEvent → Prop
  | .accepted _ _ => True
  | .requested made _ => made = purpose
  | .received made _ => made = purpose
  | .rendered _ => False

/-- Redirects have a location, and the guard rechecks what is none. -/
def Located (guard : SSRFGuard) (events : List CrawlEvent) : Prop :=
  ∀ purpose response, .received purpose response ∈ events →
    response.isLocated ∧
      (response.isRedirect = false → guard.dnsRebindingProtection = true)

/-- The log of loops: requests are accepted, and none is the browser's. -/
structure LoopLog (purpose : RequestPurpose) (events : List CrawlEvent) :
    Prop where
  requests : RequestsAccepted none events
  loop : ∀ event ∈ events, event.inLoop purpose

/-- How a loop comes to what it returns. -/
inductive LoopEnds (guard : SSRFGuard) (purpose : RequestPurpose)
    (events : List CrawlEvent) : Option HttpResponse → Prop where
  | exhausted (located : Located guard events) : LoopEnds guard purpose events none
  | rechecked (response : HttpResponse) (located : Located guard events)
      (protects : guard.dnsRebindingProtection = true)
      (ends : EndsRechecked response events) :
      LoopEnds guard purpose events (some response)
  | unprotected (response : HttpResponse)
      (off : guard.dnsRebindingProtection = false)
      (final : response.isRedirect = false)
      (last : ∃ before, Located guard before ∧
        events = before ++ [.received purpose response]) :
      LoopEnds guard purpose events (some response)
  | unlocated (response : HttpResponse) (unlocated : ¬ response.isLocated)
      (last : ∃ before, Located guard before ∧
        events = before ++ [.received purpose response]) :
      LoopEnds guard purpose events (some response)

section Loops

variable {world : CrawlWorld} {guard : SSRFGuard} {purpose : RequestPurpose}

theorem Located.append {first second : List CrawlEvent}
    (located : Located guard first) (more : Located guard second) :
    Located guard (first ++ second) := by
  intro purpose response member
  rcases List.mem_append.mp member with inFirst | inSecond
  · exact located purpose response inFirst
  · exact more purpose response inSecond

theorem LoopLog.append {first second : List CrawlEvent}
    (log : LoopLog purpose first) (more : LoopLog purpose second) :
    LoopLog purpose (first ++ second) where
  requests := log.requests.append more.requests
  loop := by
    intro event member
    rcases List.mem_append.mp member with inFirst | inSecond
    · exact log.loop event inFirst
    · exact more.loop event inSecond

/-- What was located before does not change how a loop ends. -/
theorem LoopEnds.prepend {first events : List CrawlEvent}
    {made : Option HttpResponse} (ends : LoopEnds guard purpose events made)
    (located : Located guard first) :
    LoopEnds guard purpose (first ++ events) made := by
  cases ends with
  | exhausted more => exact .exhausted (located.append more)
  | rechecked response more protects shape =>
      exact .rechecked response (located.append more) protects
        (shape.prepend first)
  | unprotected response off final last =>
      obtain ⟨before, more, rfl⟩ := last
      exact .unprotected response off final
        ⟨first ++ before, located.append more,
          (List.append_assoc _ _ _).symm⟩
  | unlocated response unlocated last =>
      obtain ⟨before, more, rfl⟩ := last
      exact .unlocated response unlocated
        ⟨first ++ before, located.append more,
          (List.append_assoc _ _ _).symm⟩

theorem loopLog_accepted (url : String) (addresses : List String) :
    LoopLog purpose [.accepted url addresses] where
  requests := ⟨fun _ isUrl => (nomatch isUrl), trivial⟩
  loop := by
    intro event member
    cases List.mem_singleton.mp member
    trivial

theorem loopLog_requested (url : String) (addresses : List String) :
    LoopLog purpose [.accepted url addresses, .requested purpose url] where
  requests :=
    @RequestsAccepted.append_requested none [] _ _
      (@loopLog_accepted purpose url addresses).requests purpose
  loop := by
    intro event member
    simp only [List.mem_cons, List.not_mem_nil, or_false] at member
    rcases member with rfl | rfl
    · trivial
    · rfl

/-- The log of one round of the loop. -/
theorem loopLog_round (url : String) (addresses : List String)
    (response : HttpResponse) :
    LoopLog purpose
      [.accepted url addresses, .requested purpose url,
        .received purpose response] := by
  have received : LoopLog purpose [.received purpose response] := by
    constructor
    case requests => exact ⟨fun _ isUrl => (nomatch isUrl), trivial⟩
    case loop =>
      intro event member
      cases List.mem_singleton.mp member
      rfl
  exact (loopLog_requested url addresses).append received

theorem located_requested (url : String) (addresses : List String) :
    Located guard [.accepted url addresses, .requested purpose url] := by
  intro made response member
  simp at member

theorem located_accepted (url : String) (addresses : List String) :
    Located guard [.accepted url addresses] := by
  intro made response member
  simp at member

theorem located_round {url : String} {addresses : List String}
    {response : HttpResponse} (located : response.isLocated)
    (rechecks : response.isRedirect = false →
      guard.dnsRebindingProtection = true) :
    Located guard
      [.accepted url addresses, .requested purpose url,
        .received purpose response] := by
  intro made other member
  simp only [List.mem_cons, List.not_mem_nil, or_false, reduceCtorEq,
    false_or] at member
  cases member
  exact ⟨located, rechecks⟩

/-- From a URL that was accepted the loop sends accepted requests, and it
returns a response that was rechecked unless the guard is off or a redirect
has no location. -/
theorem emits_followRedirects (limit : Nat) {url : String}
    {expected : List String} (someExpected : expected ≠ []) :
    Emits CrawlerState.log
      (followRedirects world guard purpose limit url expected)
      (fun made news => LoopLog purpose (.accepted url expected :: news) ∧
        LoopEnds guard purpose (.accepted url expected :: news) made)
      (fun _ news => LoopLog purpose (.accepted url expected :: news) ∧
        Located guard (.accepted url expected :: news)) := by
  induction limit generalizing url expected with
  | zero =>
      apply Emits.pure
      exact ⟨loopLog_accepted url expected,
        .exhausted (located_accepted url expected)⟩
  | succ limit induction =>
      have round := @loopLog_round purpose url expected
      unfold followRedirects
      refine (emits_send url).bind ?_ ?_
      · rintro response _ rfl
        split
        · next isRedirect =>
          split
          · next noLocation =>
            apply Emits.pure
            refine ⟨round response, .unlocated response ?_
              ⟨[.accepted url expected, .requested purpose url],
                located_requested url expected, rfl⟩⟩
            exact fun located => located isRedirect noLocation
          · next location =>
            have located : Located guard
                [.accepted url expected, .requested purpose url,
                  .received purpose response] :=
              located_round (fun _ => location) fun notRedirect => by
                rw [isRedirect] at notRedirect
                cases notRedirect
            refine (emits_orRaise _).bind ?_ ?_
            · rintro next _ ⟨-, rfl⟩
              refine (emits_validateUrl next).bind ?_ ?_
              · rintro addresses _ ⟨someAddress, rfl⟩
                refine (induction someAddress).mono ?_ ?_
                · rintro made news ⟨log, ends⟩
                  exact ⟨(round response).append log, ends.prepend located⟩
                · rintro error news ⟨log, more⟩
                  exact ⟨(round response).append log, located.append more⟩
              · rintro error _ rfl
                exact ⟨round response, located⟩
            · rintro error _ ⟨-, rfl⟩
              exact ⟨round response, located⟩
        · next notRedirect =>
          have located (protects : guard.dnsRebindingProtection = true) :
              Located guard
                [.accepted url expected, .requested purpose url,
                  .received purpose response] :=
            located_round (fun isRedirect => (notRedirect isRedirect).elim)
              fun _ => protects
          refine (emits_validateRebinding response.url someExpected).bind
            ?_ ?_
          · rintro _ news (⟨off, rfl⟩ | ⟨protects, again, rfl, shared⟩)
            · apply Emits.pure
              exact ⟨round response, .unprotected response off
                (Bool.eq_false_iff.mpr notRedirect)
                ⟨[.accepted url expected, .requested purpose url],
                  located_requested url expected, rfl⟩⟩
            · apply Emits.pure
              exact ⟨(round response).append (loopLog_accepted _ again),
                .rechecked response
                  ((located protects).append (located_accepted _ again))
                  protects ⟨[], purpose, url, expected, again, rfl, shared⟩⟩
          · rintro error news ⟨protects, rfl | ⟨again, rfl⟩⟩
            · exact ⟨round response, located protects⟩
            · exact ⟨(round response).append (loopLog_accepted _ again),
                (located protects).append (located_accepted _ again)⟩
      · rintro error _ rfl
        exact ⟨loopLog_requested url expected, located_requested url expected⟩

theorem loopLog_nil : LoopLog purpose [] :=
  ⟨trivial, fun _ member => (nomatch member)⟩

theorem located_nil : Located guard [] := fun _ _ member => (nomatch member)

theorem LoopEnds.located_of_none {events : List CrawlEvent}
    (ends : LoopEnds guard purpose events none) : Located guard events := by
  cases ends with
  | exhausted located => exact located

theorem emits_requestWithRedirects (request : CrawlRequest) :
    Emits CrawlerState.log (world.requestWithRedirects request)
      (fun response news => LoopLog .page news ∧
        LoopEnds { } .page news (some response))
      (fun _ news => LoopLog .page news ∧ Located { } news) := by
  unfold CrawlWorld.requestWithRedirects
  refine (emits_validateUrl request.url).bind ?_ ?_
  · rintro expected _ ⟨someExpected, rfl⟩
    refine (emits_followRedirects 11 someExpected).bind ?_ fun _ _ raised =>
      raised
    rintro made news ⟨log, ends⟩
    cases made with
    | none =>
        apply Emits.throw
        rw [List.append_nil]
        exact ⟨log, ends.located_of_none⟩
    | some response =>
        apply Emits.pure
        rw [List.append_nil]
        exact ⟨log, ends⟩
  · rintro error _ rfl
    exact ⟨loopLog_nil, located_nil⟩

/-- Every attempt of a fetch is a loop of its own. -/
theorem emits_getWithRetriesFrom {request : CrawlRequest} (attempts : Nat)
    (retries : Nat) :
    Emits CrawlerState.log
      (world.getWithRetriesFrom request attempts retries)
      (fun made news => LoopLog .page news ∧
        LoopEnds { } .page news (some made.1))
      (fun _ news => LoopLog .page news ∧ Located { } news) := by
  induction attempts generalizing retries with
  | zero => exact Emits.throw ⟨loopLog_nil, located_nil⟩
  | succ attempts induction =>
      have again : ∀ news, LoopLog .page news ∧ Located { } news →
          Emits CrawlerState.log
            (world.getWithRetriesFrom request attempts (retries + 1))
            (fun made more => LoopLog .page (news ++ more) ∧
              LoopEnds { } .page (news ++ more) (some made.1))
            (fun _ more => LoopLog .page (news ++ more) ∧
              Located { } (news ++ more)) := by
        rintro news ⟨log, located⟩
        apply (induction (retries + 1)).mono
        · rintro made more ⟨laterLog, ends⟩
          exact ⟨log.append laterLog, ends.prepend located⟩
        · rintro error more ⟨laterLog, laterLocated⟩
          exact ⟨log.append laterLog, located.append laterLocated⟩
      unfold CrawlWorld.getWithRetriesFrom
      refine @Emits.tryCatch _ _ _ _ _ _ (fun made news => LoopLog .page news ∧
        LoopEnds { } .page news (some made.1)) (fun _ news =>
          LoopLog .page news ∧ Located { } news) _ _ _ ?_ ?_ ?_
      · refine (emits_requestWithRedirects request).bind ?_ fun _ _ raised =>
          raised
        rintro response news made
        apply Emits.pure
        rw [List.append_nil]
        exact made
      · intro error news raised
        split
        · split
          · apply Emits.throw
            rwa [List.append_nil]
          · exact again news raised
        · split
          · apply Emits.throw
            rwa [List.append_nil]
          · exact again news raised
        · apply Emits.throw
          rwa [List.append_nil]
      · exact fun _ _ returned => returned

end Loops

/-! ## The end of a fetch -/

/-- How a fetch goes on after robots.txt: within what is permitted, with a
request nothing validated, or with a body nothing rechecked. -/
inductive PageEnds (world : CrawlWorld) (request : CrawlRequest)
    (hasBody : Prop) (events : List CrawlEvent) : Prop where
  | sound (requests : RequestsAccepted none events)
      (permitted : ∀ event ∈ events, world.Permits request event)
      (body : hasBody → BodyRechecked events)
  | refused (permitted : ∃ event ∈ events, ¬ world.Permits request event)
      (request : ∃ before event purpose url after,
        events = before ++ event :: .requested purpose url :: after ∧
          event.acceptedUrl ≠ some url)
  | stale (permitted : ∃ event ∈ events, ¬ world.Permits request event)
      (body : hasBody)
      (last : ∃ before event, events = before ++ [event] ∧
        event.bringsBody = true)

section Pages

variable {world : CrawlWorld} {request : CrawlRequest}

theorem LoopLog.permits {events : List CrawlEvent}
    (log : LoopLog .page events) (located : Located { } events) :
    ∀ event ∈ events, world.Permits request event := by
  intro event member
  have inLoop := log.loop event member
  cases event with
  | accepted url addresses => trivial
  | requested purpose url =>
      cases inLoop
      trivial
  | received purpose response =>
      cases inLoop
      exact .inl (located .page response member).1
  | rendered content => cases inLoop

theorem emits_recordRedirects (urls : List String) :
    Emits CrawlerState.log (CrawlWorld.recordRedirects urls)
      (fun _ news => news = urls.map (.requested .redirect))
      (fun _ _ => False) := by
  induction urls with
  | nil => exact Emits.pure rfl
  | cons url urls induction =>
      refine (emits_record _).bind ?_ fun _ _ raised => raised.elim
      rintro _ _ rfl
      refine induction.mono ?_ fun _ _ raised => raised
      rintro _ _ rfl
      rfl

/-- What the browser logs: the page, the redirects and the content. -/
theorem emits_renderWithPlaywright (url : String) :
    Emits CrawlerState.log (world.renderWithPlaywright url)
      (fun made news => news = [] ∨
        ∃ redirects : List String,
          news = .requested .navigation url ::
            (redirects.map (.requested .redirect) ++
              (made.map CrawlEvent.rendered).toList))
      (fun _ _ => False) := by
  unfold CrawlWorld.renderWithPlaywright
  apply Emits.get
  intro state
  split
  · split
    · exact Emits.pure (.inl rfl)
    · next navigation _ =>
      refine (emits_record _).bind ?_ fun _ _ raised => raised.elim
      rintro _ _ rfl
      refine (emits_recordRedirects _).bind ?_ fun _ _ raised => raised.elim
      rintro _ _ rfl
      split
      · exact Emits.pure (.inr ⟨navigation.redirects, rfl⟩)
      · refine (emits_record _).bind ?_ fun _ _ raised => raised.elim
        rintro _ _ rfl
        exact Emits.pure (.inr ⟨navigation.redirects, rfl⟩)
  · exact Emits.pure (.inl rfl)

/-- A browser that neither follows redirects nor renders anything sends one
request to the URL that was rechecked. -/
theorem pageEnds_navigated {response : HttpResponse}
    {events : List CrawlEvent} {made : Option String}
    (log : LoopLog .page events) (located : Located { } events)
    (shape : EndsRechecked response events) :
    PageEnds world request True
      (events ++ .requested .navigation response.url ::
        (made.map CrawlEvent.rendered).toList) := by
  have requests : RequestsAccepted none
      (events ++ [.requested .navigation response.url]) := by
    obtain ⟨before, purpose, url, expected, again, rfl, -⟩ := shape
    have more := @RequestsAccepted.append_requested none
      (before ++ [.accepted url expected, .requested purpose url,
        .received purpose response]) response.url again
      (by simpa using log.requests) .navigation
    simpa using more
  have rechecked : ∀ more, (∀ event ∈ more, event.bringsBody = false) →
      BodyRechecked (events ++ .requested .navigation response.url :: more) :=
    fun more quiet => ⟨response, events, _, rfl, shape, fun event member => by
      rcases List.mem_cons.mp member with rfl | later
      · rfl
      · exact quiet event later⟩
  have permitted : ∀ event ∈
      events ++ [.requested .navigation response.url],
      world.Permits request event := by
    intro event member
    rcases List.mem_append.mp member with inLoop | isLast
    · exact log.permits located event inLoop
    · cases List.mem_singleton.mp isLast
      trivial
  cases made with
  | none =>
      exact .sound requests permitted fun _ =>
        rechecked [] fun _ member => (nomatch member)
  | some content =>
      have whole : events ++ .requested .navigation response.url ::
          [.rendered content] =
            (events ++ [.requested .navigation response.url]) ++
              [.rendered content] := by
        rw [List.append_assoc]
        rfl
      by_cases empty : content = ""
      · refine .sound ?_ ?_ ?_
        · dsimp only [Option.map, Option.toList]
          rw [whole]
          exact requests.append ⟨fun _ isUrl => (nomatch isUrl), trivial⟩
        · dsimp only [Option.map, Option.toList]
          rw [whole]
          intro event member
          rcases List.mem_append.mp member with before | isLast
          · exact permitted event before
          · cases List.mem_singleton.mp isLast
            exact empty
        · intro _
          apply rechecked
          intro event member
          cases List.mem_singleton.mp member
          simp [CrawlEvent.bringsBody, empty]
      · refine .stale ⟨.rendered content, by simp, empty⟩ trivial
          ⟨_, .rendered content, whole, ?_⟩
        simpa [CrawlEvent.bringsBody] using empty

/-- A page that is returned was rechecked unless a redirect had no location or
the browser went on. -/
theorem pageEnds_returned {response : HttpResponse} {text : String}
    {events news : List CrawlEvent} {made : Option String}
    (log : LoopLog .page events)
    (ends : LoopEnds { } .page events (some response))
    (decoded : world.decode response (response.content.take
      (min request.maxBytes request.maxTotalBytes)) = .ok text)
    (rendered : news = [] ∨ ∃ redirects : List String,
      news = .requested .navigation response.url ::
        (redirects.map (.requested .redirect) ++
          (made.map CrawlEvent.rendered).toList)) :
    PageEnds world request True (events ++ news) := by
  cases ends with
  | unprotected _ off => cases off
  | unlocated _ unlocated last =>
      obtain ⟨before, located, rfl⟩ := last
      have unpermitted : ∃ event ∈ before ++ [.received .page response] ++ news,
          ¬ world.Permits request event := by
        refine ⟨.received .page response, by simp, ?_⟩
        rintro (isLocated | undecoded)
        · exact unlocated isLocated
        · rw [decoded] at undecoded
          cases undecoded
      rcases rendered with rfl | ⟨redirects, rfl⟩
      · refine .stale unpermitted trivial ⟨before, _, List.append_nil _, rfl⟩
      · refine .refused unpermitted ⟨before, .received .page response,
          .navigation, response.url, _, List.append_assoc _ _ _, ?_⟩
        exact fun same => nomatch same
  | rechecked _ located _ shape =>
      have permitted : ∀ event ∈ events, world.Permits request event :=
        log.permits located
      rcases rendered with rfl | ⟨redirects, rfl⟩
      · rw [List.append_nil]
        exact .sound log.requests permitted fun _ =>
          ⟨response, events, [], (List.append_nil _).symm, shape,
            fun _ member => (nomatch member)⟩
      · cases redirects with
        | cons url urls =>
            refine .refused ⟨.requested .redirect url, by simp, id⟩ ⟨events,
              .requested .navigation response.url, .redirect, url, _, rfl, ?_⟩
            exact fun same => nomatch same
        | nil => exact pageEnds_navigated log located shape

/-- Content that cannot be decoded is not returned. -/
theorem pageEnds_undecoded {response : HttpResponse}
    {events : List CrawlEvent} (log : LoopLog .page events)
    (ends : LoopEnds { } .page events (some response))
    (undecoded : (world.decode response (response.content.take
      (min request.maxBytes request.maxTotalBytes))).isOk = false) :
    PageEnds world request False events := by
  refine .sound log.requests ?_ False.elim
  cases ends with
  | unprotected _ off => cases off
  | rechecked _ located => exact log.permits located
  | unlocated _ _ last =>
      obtain ⟨before, located, rfl⟩ := last
      intro event member
      rcases List.mem_append.mp member with inBefore | isLast
      · have beforeLog : LoopLog .page before :=
          { requests := log.requests.left
            loop := fun event inBefore =>
              log.loop event (List.mem_append_left _ inBefore) }
        exact beforeLog.permits located event inBefore
      · cases List.mem_singleton.mp isLast
        exact .inr undecoded

/-- What a fetch returns once it asks for the page. -/
theorem emits_fetchPage :
    Emits CrawlerState.log (world.fetchPage request)
      (fun made news =>
        PageEnds world request (made.page.isSome = true) news)
      (fun _ news => PageEnds world request False news) := by
  unfold CrawlWorld.fetchPage
  refine (emits_getWithRetriesFrom _ _).bind ?_ ?_
  · rintro ⟨response, retries⟩ events ⟨log, ends⟩
    refine (emits_orRaise _).bind ?_ ?_
    · rintro text _ ⟨decoded, rfl⟩
      split
      · refine (emits_renderWithPlaywright _).bind ?_ fun _ _ raised =>
          raised.elim
        rintro made news rendered
        apply Emits.pure
        have ended := pageEnds_returned log ends decoded rendered
        simpa using ended
      · apply Emits.pure
        have ended := @pageEnds_returned _ _ _ _ _ _ none log ends decoded
          (.inl rfl)
        simpa using ended
    · rintro error _ ⟨undecoded, rfl⟩
      rw [List.append_nil]
      exact pageEnds_undecoded log ends undecoded
  · rintro error news ⟨log, located⟩
    exact .sound log.requests (log.permits located) False.elim

theorem emits_doFetch :
    Emits CrawlerState.log (world.doFetch request)
      (fun made news =>
        PageEnds world request (made.page.isSome = true) news)
      (fun _ news => PageEnds world request False news) := by
  unfold CrawlWorld.doFetch
  refine emits_fetchPage.tryCatch ?_ fun _ _ returned => returned
  intro error news ended
  have failed : ∀ message retries, PageEnds world request
      ((CrawlResult.failed message retries).page.isSome = true)
      (news ++ []) := by
    intro message retries
    rw [List.append_nil]
    simpa [CrawlResult.failed] using ended
  split
  · exact Emits.pure (failed _ _)
  · apply Emits.throw
    rwa [List.append_nil]
  · exact Emits.pure (failed _ _)

/-- A URL is rejected without a trace. -/
theorem emits_rejection (url : String) :
    Emits CrawlerState.log (world.rejection url)
      (fun made news => made = none ∧
          (∃ addresses, news = [.accepted url addresses]) ∨
        made.isSome = true ∧ news = [])
      (fun _ news => news = []) := by
  unfold CrawlWorld.rejection
  refine @Emits.tryCatch _ _ _ _ _ _ (fun made news => made = none ∧
    ∃ addresses, news = [.accepted url addresses]) (fun _ news => news = []) _ _ _ ?_ ?_ fun _ _ accepted =>
        .inl accepted
  · refine (emits_validateUrl url).bind ?_ fun _ _ raised => raised
    rintro addresses _ ⟨-, rfl⟩
    exact Emits.pure ⟨rfl, addresses, rfl⟩
  · rintro error _ rfl
    split
    · exact Emits.pure (.inr ⟨rfl, rfl⟩)
    · exact Emits.throw rfl

/-- The request for robots.txt and what it comes to. -/
def RobotsLog (news : List CrawlEvent) : Prop :=
  news = [] ∨ ∃ robotsUrl more, news = .requested .robots robotsUrl :: more ∧
    ∀ event ∈ more, ∃ response, event = .received .robots response

theorem emits_readRobots (origin : String) :
    Emits CrawlerState.log (world.readRobots origin)
      (fun _ news => RobotsLog news) (fun _ _ => False) := by
  unfold CrawlWorld.readRobots
  refine @Emits.tryCatch _ _ _ _ _ _ (fun _ news => RobotsLog news)
    (fun _ news => RobotsLog news) _ _ _ ?_ ?_ fun _ _ logged => logged
  · refine (emits_send _).bind ?_ fun _ _ raised =>
      .inr ⟨_, [], raised, fun _ member => (nomatch member)⟩
    rintro response _ rfl
    refine Emits.pure (.inr ⟨_, [.received .robots response], rfl, ?_⟩)
    intro event member
    exact ⟨response, List.mem_singleton.mp member⟩
  · intro error news logged
    apply Emits.pure
    rwa [List.append_nil]

theorem emits_checkRobots (url : String) :
    Emits CrawlerState.log (world.checkRobots url)
      (fun _ news => RobotsLog news) (fun _ news => news = []) := by
  unfold CrawlWorld.checkRobots
  refine (emits_orRaise _).bind ?_ fun _ _ raised => raised.2
  rintro parsed _ ⟨-, rfl⟩
  apply Emits.get
  intro state
  split
  · exact Emits.pure (.inl rfl)
  · refine (emits_readRobots _).bind ?_ fun _ _ raised => raised.elim
    intro rules news logged
    refine @Emits.bind _ _ _ _ _ _ _ (fun _ more => more = [])
      (fun _ _ => False) _ _ _ ?_ ?_ fun _ _ raised => raised.elim
    · exact Emits.modify (fun state => (List.append_nil _).symm) rfl
    · rintro _ _ rfl
      apply Emits.pure
      simpa using logged

/-- What was permitted is what is guarded. -/
def SettledRequests (world : CrawlWorld) (request : CrawlRequest)
    (hasBody : Prop)
    (events : List CrawlEvent) : Prop :=
  CrawlGuarded events hasBody ↔
    ∀ event ∈ events, world.Permits request event

theorem RobotsLog.accepted_iff {robots : List CrawlEvent}
    (logged : RobotsLog robots) (addresses : List String) :
    RequestsAccepted none (.accepted request.url addresses :: robots) ↔
      ∀ event ∈ CrawlEvent.accepted request.url addresses :: robots,
        world.Permits request event := by
  rcases logged with rfl | ⟨robotsUrl, more, rfl, responses⟩
  · constructor
    · intro _ event member
      cases List.mem_singleton.mp member
      trivial
    · exact fun _ => (@loopLog_accepted .page _ _).requests
  · constructor
    · rintro ⟨-, accepted, -⟩ event member
      rcases List.mem_cons.mp member with rfl | member
      · trivial
      · rcases List.mem_cons.mp member with rfl | isMore
        · exact (Option.some.inj (accepted robotsUrl rfl)).symm
        · obtain ⟨response, rfl⟩ := responses event isMore
          trivial
    · intro permitted
      have same : robotsUrl = request.url := permitted
        (.requested .robots robotsUrl) (by simp)
      refine ⟨fun _ isUrl => (nomatch isUrl), fun url isUrl => ?_, ?_⟩
      · cases isUrl
        rw [same]
        rfl
      · have none : RequestsAccepted none more := by
          clear permitted
          induction more with
          | nil => trivial
          | cons event more induction =>
              obtain ⟨response, rfl⟩ := responses event List.mem_cons_self
              refine ⟨fun _ isUrl => (nomatch isUrl), induction ?_⟩
              exact fun event member =>
                responses event (List.mem_cons_of_mem _ member)
        exact none

/-- The page is settled behind the validation of its URL and robots.txt. -/
theorem PageEnds.settled {hasBody : Prop} {events robots : List CrawlEvent}
    (ends : PageEnds world request hasBody events)
    (logged : RobotsLog robots) (addresses : List String) :
    SettledRequests world request hasBody
      (.accepted request.url addresses :: robots ++ events) := by
  have first := @RobotsLog.accepted_iff world request robots logged addresses
  generalize CrawlEvent.accepted request.url addresses :: robots = start
    at first ⊢
  cases ends with
  | sound requests permitted body =>
      constructor
      · intro guarded event member
        rcases List.mem_append.mp member with inStart | inEvents
        · exact first.mp guarded.requests.left event inStart
        · exact permitted event inEvents
      · intro allPermitted
        constructor
        case requests =>
          apply RequestsAccepted.append _ requests
          exact first.mpr fun event inStart =>
            allPermitted event (List.mem_append_left _ inStart)
        case body => exact fun returned => (body returned).prepend start
  | refused permitted refused =>
      obtain ⟨event, member, unpermitted⟩ := permitted
      obtain ⟨before, other, purpose, url, after, rfl, notAccepted⟩ := refused
      constructor
      · rintro ⟨requests, -⟩
        rw [← List.append_assoc] at requests
        exact (notAccepted requests.acceptedUrl_eq).elim
      · intro allPermitted
        exact (unpermitted (allPermitted event
          (List.mem_append_right _ member))).elim
  | stale permitted returned last =>
      obtain ⟨event, member, unpermitted⟩ := permitted
      obtain ⟨before, final, rfl, brings⟩ := last
      constructor
      · rintro ⟨-, body⟩
        have rechecked := body returned
        rw [← List.append_assoc] at rechecked
        exact (not_bodyRechecked brings rechecked).elim
      · intro allPermitted
        exact (unpermitted (allPermitted event
          (List.mem_append_right _ member))).elim

theorem settled_nil : SettledRequests world request False [] :=
  ⟨fun _ _ member => (nomatch member), fun _ => ⟨trivial, False.elim⟩⟩

theorem pageEnds_nil : PageEnds world request False [] :=
  .sound trivial (fun _ member => (nomatch member)) False.elim

/-- Every fetch is guarded just when the world does what is permitted. -/
theorem emits_fetch :
    Emits CrawlerState.log (world.fetch request)
      (fun made news =>
        SettledRequests world request (made.page.isSome = true) news)
      (fun _ news => SettledRequests world request False news) := by
  have failed : ∀ message retries news,
      SettledRequests world request False news →
        SettledRequests world request
          ((CrawlResult.failed message retries).page.isSome = true) news := by
    intro message retries news settled
    simpa [CrawlResult.failed] using settled
  unfold CrawlWorld.fetch
  refine @Emits.bind _ _ _ _ _ _ _ (fun _ news => news = [])
    (fun _ news => news = []) _ _ _ ?_ ?_ ?_
  · unfold CrawlWorld.isDenied
    refine (emits_orRaise _).bind ?_ fun _ _ raised => raised.2
    rintro parsed _ ⟨-, rfl⟩
    exact Emits.pure rfl
  · rintro denied _ rfl
    split
    · exact Emits.pure (failed _ _ _ settled_nil)
    · refine (emits_rejection request.url).bind ?_ ?_
      · rintro made news (⟨rfl, addresses, rfl⟩ | ⟨rejected, rfl⟩)
        · have continues : ∀ (allowed : Bool) robots, RobotsLog robots →
              Emits CrawlerState.log
                (if allowed then world.doFetch request
                  else pure (.failed "Blocked by robots.txt" 0))
                (fun made more => SettledRequests world request
                  (made.page.isSome = true)
                  (.accepted request.url addresses :: robots ++ more))
                (fun _ more => SettledRequests world request False
                  (.accepted request.url addresses :: robots ++ more)) := by
            intro allowed robots logged
            split
            · refine emits_doFetch.mono ?_ ?_
              · intro made more ended
                exact ended.settled logged addresses
              · intro error more ended
                exact ended.settled logged addresses
            · apply Emits.pure
              exact failed _ _ _ (pageEnds_nil.settled logged addresses)
          dsimp only
          split
          · refine (emits_checkRobots request.url).bind ?_ ?_
            · exact fun allowed robots logged =>
                continues allowed robots logged
            · rintro error _ rfl
              exact pageEnds_nil.settled (.inl rfl) addresses
          · exact continues true [] (.inl rfl)
        · cases made with
          | none => cases rejected
          | some message => exact Emits.pure (failed _ _ _ settled_nil)
      · rintro error _ rfl
        exact settled_nil
  · rintro error _ rfl
    exact settled_nil

end Pages

/-! ## A check of robots.txt -/

section Robots

variable {world : CrawlWorld} {guard : SSRFGuard}

theorem Located.guardPermits {events : List CrawlEvent}
    (located : Located guard events) :
    ∀ event ∈ events, guard.Permits event := by
  intro event member
  cases event with
  | received purpose response =>
      exact fun _ => located purpose response member
  | accepted url addresses => trivial
  | requested purpose url => trivial
  | rendered content => trivial

/-- What a check was permitted to meet is what is guarded. -/
def Checked (guard : SSRFGuard) (hasBody : Prop)
    (events : List CrawlEvent) : Prop :=
  CrawlGuarded events hasBody ↔ ∀ event ∈ events, guard.Permits event

theorem checked_of_permitted {hasBody : Prop} {events : List CrawlEvent}
    (requests : RequestsAccepted none events)
    (permitted : ∀ event ∈ events, guard.Permits event)
    (body : hasBody → BodyRechecked events) : Checked guard hasBody events :=
  ⟨fun _ => permitted, fun _ => ⟨requests, body⟩⟩

theorem checked_of_stale {hasBody : Prop} {before : List CrawlEvent}
    {purpose : RequestPurpose} {response : HttpResponse} (returned : hasBody)
    (unpermitted : ¬ guard.Permits (.received purpose response)) :
    Checked guard hasBody (before ++ [.received purpose response]) := by
  constructor
  · rintro ⟨-, body⟩
    exact (not_bodyRechecked rfl (body returned)).elim
  · intro permitted
    exact (unpermitted (permitted _ (by simp))).elim

/-- The outcome of a check by how its loop ended. -/
theorem LoopEnds.checked {events : List CrawlEvent}
    {response : HttpResponse} (log : LoopLog .robots events)
    (ends : LoopEnds guard .robots events (some response)) :
    Checked guard (response.statusCode < 400) events := by
  cases ends with
  | rechecked _ located _ shape =>
      exact checked_of_permitted log.requests located.guardPermits fun _ =>
        ⟨response, events, [], (List.append_nil _).symm, shape,
          fun _ member => (nomatch member)⟩
  | unprotected _ off final last =>
      obtain ⟨before, located, rfl⟩ := last
      by_cases returned : response.statusCode < 400
      · apply checked_of_stale returned
        intro permitted
        have protects := (permitted returned).2 final
        rw [off] at protects
        cases protects
      · apply checked_of_permitted log.requests
        · intro event member
          rcases List.mem_append.mp member with inBefore | isLast
          · exact located.guardPermits event inBefore
          · cases List.mem_singleton.mp isLast
            exact fun below => (returned below).elim
        · exact fun below => (returned below).elim
  | unlocated _ unlocated last =>
      obtain ⟨before, located, rfl⟩ := last
      have isRedirect : response.isRedirect = true := by
        by_contra notRedirect
        exact unlocated fun isRedirect => (notRedirect isRedirect).elim
      have below : response.statusCode < 400 := by
        simp [HttpResponse.isRedirect] at isRedirect
        omega
      apply checked_of_stale below
      exact fun permitted => unlocated (permitted below).1

theorem emits_robotsCheck (userAgent url : String) :
    Emits CrawlerState.log (world.robotsCheck guard userAgent url)
      (fun made news => Checked guard (made.checked = true) news)
      (fun _ news => Checked guard False news) := by
  have silent : Checked guard False [] :=
    checked_of_permitted trivial (fun _ member => (nomatch member)) False.elim
  have unbodied : ∀ news, LoopLog .robots news → Located guard news →
      ∀ robotsUrl allowed error, Checked guard
        ((CrawlWorld.unchecked url robotsUrl allowed error).checked = true)
        news := by
    intro news log located robotsUrl allowed error
    refine checked_of_permitted log.requests located.guardPermits ?_
    exact fun checked => nomatch checked
  unfold CrawlWorld.robotsCheck
  refine (emits_orRaise _).bind ?_ ?_
  · rintro parsed _ ⟨-, rfl⟩
    split
    · exact Emits.pure (unbodied [] loopLog_nil located_nil _ _ _)
    · refine (emits_orRaise _).bind ?_ ?_
      · rintro robotsUrl _ ⟨-, rfl⟩
        refine @Emits.tryCatch _ _ _ _ _ _
          (fun made news => Checked guard (made.checked = true)
            news) (fun _ news => LoopLog .robots news ∧
            Located guard news) _ _ _ ?_ ?_ fun _ _ returned => returned
        · refine (emits_validateUrl robotsUrl).bind ?_ ?_
          · rintro expected _ ⟨someExpected, rfl⟩
            refine (emits_followRedirects 6 someExpected).bind ?_
              fun _ _ raised => raised
            rintro made news ⟨log, ends⟩
            cases made with
            | none =>
                apply Emits.pure
                rw [List.append_nil]
                exact unbodied _ log ends.located_of_none _ _ _
            | some response =>
                apply Emits.pure
                rw [List.append_nil]
                have checked := ends.checked log
                unfold CrawlWorld.robotsResult
                split
                · next failed =>
                  have noBody : ¬ response.statusCode < 400 :=
                    Nat.not_lt.mpr failed
                  simpa [CrawlWorld.unchecked, noBody] using checked
                · next succeeded =>
                  have body : response.statusCode < 400 :=
                    Nat.not_le.mp succeeded
                  simpa [body] using checked
          · rintro error _ rfl
            exact ⟨loopLog_nil, located_nil⟩
        · rintro error news ⟨log, located⟩
          split
          · apply Emits.pure
            rw [List.append_nil]
            exact unbodied _ log located _ _ _
          · apply Emits.pure
            rw [List.append_nil]
            exact unbodied _ log located _ _ _
      · rintro error _ ⟨-, rfl⟩
        exact silent
  · rintro error _ ⟨-, rfl⟩
    exact silent

end Robots

/-! ## Every fetch and every check -/

/-- What a program added to the log. -/
def newEvents {Result : Type} (before : CrawlerState) :
    EStateM.Result CrawlError CrawlerState Result → List CrawlEvent
  | .ok _ after => after.log.drop before.log.length
  | .error _ after => after.log.drop before.log.length

/-- A program returned a result with a property. -/
def Returned {Result : Type} (holds : Result → Bool) :
    EStateM.Result CrawlError CrawlerState Result → Prop
  | .ok result _ => holds result = true
  | .error _ _ => False

instance {Result : Type} (holds : Result → Bool)
    (ended : EStateM.Result CrawlError CrawlerState Result) :
    Decidable (Returned holds ended) :=
  match ended with
  | .ok result _ => inferInstanceAs (Decidable (holds result = true))
  | .error _ _ => isFalse id

theorem newEvents_settled {Result : Type} {program : Crawl Result}
    {holds : Result → Bool} {settled : Prop → List CrawlEvent → Prop}
    (emits : Emits CrawlerState.log program
      (fun made news => settled (holds made = true) news)
      (fun _ news => settled False news)) (state : CrawlerState) :
    settled (Returned holds (program state))
      (newEvents state (program state)) := by
  have here := emits state
  cases made : program state with
  | ok result after =>
      rw [made] at here
      obtain ⟨news, appended, fits⟩ := here
      rw [newEvents, appended, List.drop_left]
      exact fits
  | error error after =>
      rw [made] at here
      obtain ⟨news, appended, fits⟩ := here
      rw [newEvents, appended, List.drop_left]
      exact fits

/-- From every state and in every world a fetch and a check of robots.txt are
guarded just when all they meet is permitted. -/
theorem crawls_guarded_iff (world : CrawlWorld) (state : CrawlerState) :
    (∀ request,
      CrawlGuarded (newEvents state (world.fetch request state))
          (Returned (·.page.isSome) (world.fetch request state)) ↔
        ∀ event ∈ newEvents state (world.fetch request state),
          world.Permits request event) ∧
      ∀ guard userAgent url,
        CrawlGuarded
            (newEvents state (world.robotsCheck guard userAgent url state))
            (Returned (·.checked)
              (world.robotsCheck guard userAgent url state)) ↔
          ∀ event ∈ newEvents state
              (world.robotsCheck guard userAgent url state),
            guard.Permits event := by
  constructor
  · intro request
    exact @newEvents_settled _ _ _ (SettledRequests world request) emits_fetch
      state
  · intro guard userAgent url
    exact @newEvents_settled _ _ _ (Checked guard)
      (emits_robotsCheck userAgent url) state

namespace CrawlExample

/-- A shop whose page for the browser redirects into the intranet. -/
def world : CrawlWorld :=
  { urlparse := fun url => .ok
      { scheme := "https"
        netloc := if url = "https://intranet/" then "intranet"
          else "shop.example"
        hostname := some (if url = "https://intranet/" then "intranet"
          else "shop.example") }
    urljoin := fun _ _ => .ok "https://shop.example/robots.txt"
    ipAddress := fun text => .ok
      { text := text
        version := 4
        value := if text = "10.0.0.5" then 0x0A000005 else 0x5DB8D822
        isPrivate := text = "10.0.0.5"
        isGlobal := text ≠ "10.0.0.5" }
    getaddrinfo := fun _ hostname _ => .ok
      [some (if hostname = "intranet" then "10.0.0.5"
        else "93.184.216.34")]
    answer := fun _ url => .response
      { url := url
        statusCode :=
          if url = "https://shop.example/old" then 304 else 200
        text := "Plans" }
    navigate := fun _ _ => some
      { redirects := ["https://intranet/"]
        content := some "Payroll" }
    playwrightInstalled := true
    kbJsRender := none
    decode := fun response _ => .ok response.text
    sha256Hex := fun _ => "0123456789abcdef"
    canFetch := fun _ _ _ => true }

/-- A page without a check of robots.txt. -/
def plain (url : String) (renderJs : Bool) : CrawlRequest :=
  { url := url
    renderJs := renderJs
    respectRobots := false }

/-- The log of a fetch of the shop's page. -/
def logOf (request : CrawlRequest) : List CrawlEvent :=
  newEvents { } (world.fetch request { })

def pageAt (url : String) (statusCode : Nat) : HttpResponse :=
  { url := url
    statusCode := statusCode
    text := "Plans" }

/-- A redirect without a location is returned as it came, the browser follows
its redirects, and robots.txt is asked for without a validation. -/
theorem crawls_unguarded :
    ¬ CrawlGuarded (logOf (plain "https://shop.example/old" false))
        (Returned (·.page.isSome)
          (world.fetch (plain "https://shop.example/old" false) { })) ∧
      ¬ CrawlGuarded (logOf (plain "https://shop.example/new" true))
        (Returned (·.page.isSome)
          (world.fetch (plain "https://shop.example/new" true) { })) ∧
      ¬ CrawlGuarded (logOf { url := "https://shop.example/new" })
        (Returned (·.page.isSome)
          (world.fetch { url := "https://shop.example/new" } { })) := by
  refine ⟨?_, ?_, ?_⟩
  · intro guarded
    have logged : logOf (plain "https://shop.example/old" false) =
        [.accepted "https://shop.example/old" ["93.184.216.34"],
          .accepted "https://shop.example/old" ["93.184.216.34"],
          .requested .page "https://shop.example/old"] ++
        [.received .page (pageAt "https://shop.example/old" 304)] := by
      decide +kernel
    have body := guarded.body (by decide +kernel)
    rw [logged] at body
    exact not_bodyRechecked rfl body
  · intro guarded
    have logged : logOf (plain "https://shop.example/new" true) =
        [.accepted "https://shop.example/new" ["93.184.216.34"],
          .accepted "https://shop.example/new" ["93.184.216.34"],
          .requested .page "https://shop.example/new",
          .received .page (pageAt "https://shop.example/new" 200),
          .accepted "https://shop.example/new" ["93.184.216.34"]] ++
        .requested .navigation "https://shop.example/new" ::
          .requested .redirect "https://intranet/" ::
            [.rendered "Payroll"] := by
      decide +kernel
    have requests := guarded.requests
    rw [logged] at requests
    cases requests.acceptedUrl_eq
  · intro guarded
    have logged : logOf { url := "https://shop.example/new" } =
        [] ++ .accepted "https://shop.example/new" ["93.184.216.34"] ::
          .requested .robots "https://shop.example/robots.txt" ::
            [.received .robots
                (pageAt "https://shop.example/robots.txt" 200),
              .accepted "https://shop.example/new" ["93.184.216.34"],
              .requested .page "https://shop.example/new",
              .received .page (pageAt "https://shop.example/new" 200),
              .accepted "https://shop.example/new" ["93.184.216.34"]] := by
      decide +kernel
    have requests := guarded.requests
    rw [logged] at requests
    have same := requests.acceptedUrl_eq
    revert same
    decide

end CrawlExample

end CompetiScope
