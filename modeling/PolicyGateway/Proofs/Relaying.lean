import PolicyGateway.Proofs.RequestIds

/-!
# Whose answer the client gets

A request that may proceed is sent to one address, the configured one with the
target behind it, and the answer goes back to the client: its status, its
bytes and its headers but those that are held back, with the id of the request
among them. That is what `Relays` says.

Between the gateway and the backend service stands the HTTP client, and it
follows an answer that refers elsewhere. Then the answer of the backend service
is not told, further requests are sent to places that nobody authorized, and
what the client gets is the answer to the last of them. `run_relays_iff` says
when it is the first answer that is told, after a single request: exactly if it
refers nowhere. All statuses but five do. With `sent_away` the client gets the
answer of another host.

**Why the number of requests counts.** A request was authorized for one path at
one backend service. If a second one is sent in its name, nobody was asked about
that, and its method and its place are those that an answer has chosen. So it is
not enough to look at what the client is told in the end; what arrives on the
way is part of the statement.
-/

namespace PolicyGateway

namespace Http.Client

/-- **A request as it is first sent**, if the address is one. The client adds
its own headers to it, among them the host. -/
def first? (method address : String) (headers : Headers)
    (body : List UInt8) : Option Request :=
  (Url.parse? address).map fun url =>
    { method
      url := url.withoutUser
      headers := firstHeaders url.authority headers
      body }

section Send

variable {method address : String} {headers : Headers} {body : List UInt8}
  {first : Request}

/-- Where the address is none, nothing is sent. -/
theorem send_of_first?_eq_none (network : Network)
    (h : first? method address headers body = none) :
    send network method address headers body = ⟨[], none⟩ := by
  unfold send
  rw [Option.map_eq_none_iff.1 h]

/-- **The first request is followed.** -/
theorem course_send (network : Network)
    (h : first? method address headers body = some first) :
    Course network greatestRedirects first
      (send network method address headers body) := by
  obtain ⟨url, hurl, rfl⟩ := Option.map_eq_some_iff.1 h
  unfold send
  rw [hurl]
  exact course_follow ..

end Send

end Http.Client

namespace Gateway

open PolicyGateway.Http PolicyGateway.Policy
open PolicyGateway.Http.Client (LeadsTo)

/-- **A response relays an answer**, under the id of the request. A client that
gets such a response could as well have got it from the backend service, but for
the fields that are held back and the id. -/
structure Relays (id : String) (answer : Response) (response : Outbound) :
    Prop where
  /-- The status is the same. -/
  status : response.status = answer.status
  /-- The bytes of the body are the same. -/
  body : response.body = answer.body.bytes
  /-- The headers are the same but for those that are held back. -/
  headers : ∀ name, name ≠ requestIdHeader →
    response.headers.values name
      = if isHeldBack name then [] else answer.headers.values name
  /-- The id is that of the request. -/
  id : Carries response.headers id

/-- **A response tells that the backend service gave no answer.** The body is
that of an error of the gateway, and nothing in it is from there. -/
def TellsNoAnswer (response : Outbound) : Prop :=
  ∃ body, Tells response 502 body

/-- **What comes of a request that may proceed**, given the one that is first
sent for it. The parts follow the ways in which an exchange may go: nothing is
sent, something arrives, an answer refers nowhere and is whole, or it breaks
off, or there is none. -/
structure Relayed (network : Network) (first? : Option Request) (id : String)
    (handling : Handling) : Prop where
  /-- Where the address is none, nothing is sent. -/
  unsent : first? = none →
    handling.backendCalls = [] ∧ TellsNoAnswer handling.response
  /-- What arrives is nothing, or the first request and behind it what the
  answers lead to. -/
  arrives : ∀ first, first? = some first → handling.backendCalls = [] ∨
    ∃ further, handling.backendCalls = first :: further ∧
      further.length ≤ Client.greatestRedirects ∧
      (first :: further).IsChain (LeadsTo network)
  /-- The client is told the answer to the last request, or that there is
  none. -/
  told : TellsNoAnswer handling.response ∨
    ∃ last answer, handling.backendCalls.getLast? = some last ∧
      network last = .answered answer ∧ Relays id answer handling.response
  /-- The first answer is relayed after a single request exactly if it refers
  nowhere. -/
  relayed_iff : ∀ first answer, first? = some first →
    network first = .answered answer → answer.body.whole = true →
    (handling.backendCalls = [first] ∧ Relays id answer handling.response ↔
      Client.destination first.url answer = .nowhere)
  /-- And always if its status does not redirect. -/
  relayed : ∀ first answer, first? = some first →
    network first = .answered answer → answer.body.whole = true →
    Client.isRedirect answer.status = false →
    handling.backendCalls = [first] ∧ Relays id answer handling.response
  /-- An answer that refers nowhere and breaks off is not relayed. -/
  broken : ∀ first answer, first? = some first →
    network first = .answered answer → answer.body.whole = false →
    Client.destination first.url answer = .nowhere →
    handling.backendCalls = [first] ∧ TellsNoAnswer handling.response
  /-- Nor is there anything to relay without an answer. -/
  unanswered : ∀ first, first? = some first →
    (∀ answer, network first ≠ .answered answer) →
    handling.backendCalls.length ≤ 1 ∧ TellsNoAnswer handling.response

/-! ## What the client is told of an exchange

Only the final answer of the exchange is looked at. It is relayed if it is
whole, and otherwise the client is told that there was none. -/

/-- **What the client is told** of an exchange with the backend service. This is
the only way for anything of the backend service to reach the client. -/
def toldOf (exchange : Exchange) (id : String) : Outbound :=
  Service.responseOf
    (match exchange.response with
    | none => .error (.backend "request failed")
    | some response => Forwarder.relay response) id

section Told

variable {id : String} {exchange : Exchange} {answer : Response}

theorem tellsNoAnswer_of_none (h : exchange.response = none) :
    TellsNoAnswer (toldOf exchange id) := by
  unfold toldOf
  rw [h]
  exact ⟨_, tells_responseOf_error (.backend "request failed") id⟩

/-- An answer that breaks off is none. -/
theorem tellsNoAnswer_of_broken (h : exchange.response = some answer)
    (hbroken : answer.body.whole = false) :
    TellsNoAnswer (toldOf exchange id) := by
  unfold toldOf Forwarder.relay
  rw [h]
  dsimp only
  rw [hbroken]
  exact ⟨_, tells_responseOf_error (.backend "failed to read body") id⟩

/-- **An answer that comes to its end is relayed.** -/
theorem relays_of_whole (hid : ∀ c ∈ id.toList, IsFieldChar c)
    (h : exchange.response = some answer)
    (hwhole : answer.body.whole = true) :
    Relays id answer (toldOf exchange id) := by
  have htold : toldOf exchange id
      = { status := answer.status
          headers := withRequestId (passedOn answer.headers) id
          body := answer.body.bytes } := by
    unfold toldOf Forwarder.relay
    rw [h]
    dsimp only
    rw [hwhole]
    rfl
  rw [htold]
  refine ⟨rfl, rfl, fun name hname => ?_, carries_withRequestId hid _⟩
  refine (Headers.values_set_of_ne hname _ _).trans ?_
  cases hheld : isHeldBack name with
  | true => exact Headers.values_keep_of_not (by simp [hheld]) answer.headers
  | false => exact Headers.values_keep (by simp [hheld]) answer.headers

end Told

/-! ## What comes of an exchange

The exchange is followed from its first request. Where the first answer refers
nowhere the exchange is over; where it refers somewhere, another request is sent
or the client gives up, and in neither case is the first answer told. -/

section Course

variable {network : Network} {id : String} {first : Request}
  {answer : Response} {exchange : Exchange}
  (h : Client.Course network Client.greatestRedirects first exchange)
include h

/-- The client is told the answer to the last request, or that there is
none. -/
theorem told_of_course (hid : ∀ c ∈ id.toList, IsFieldChar c) :
    TellsNoAnswer (toldOf exchange id) ∨
      ∃ last answer, exchange.arrived.getLast? = some last ∧
        network last = .answered answer ∧
        Relays id answer (toldOf exchange id) := by
  cases hresponse : exchange.response with
  | none => exact .inl (tellsNoAnswer_of_none hresponse)
  | some answer =>
    cases hwhole : answer.body.whole with
    | false => exact .inl (tellsNoAnswer_of_broken hresponse hwhole)
    | true =>
      obtain ⟨last, hlast, answered⟩ := h.exists_last hresponse
      exact .inr ⟨last, answer, hlast, answered,
        relays_of_whole hid hresponse hwhole⟩

/-- **The first answer is relayed** after a single request exactly if it
refers nowhere. -/
theorem relays_of_course_iff (hid : ∀ c ∈ id.toList, IsFieldChar c)
    (answered : network first = .answered answer)
    (hwhole : answer.body.whole = true) :
    exchange.arrived = [first] ∧ Relays id answer (toldOf exchange id) ↔
      Client.destination first.url answer = .nowhere := by
  constructor
  · rintro ⟨hsingle, hrelays⟩
    by_contra hrefers
    -- the only request, and yet not the last one: the client is told 502, and
    -- no answer with this status refers anywhere
    have hnone := h.response_of_single answered hrefers hsingle
    have htold : TellsNoAnswer (toldOf exchange id) :=
      tellsNoAnswer_of_none hnone
    obtain ⟨body, hstatus, -⟩ := htold
    have hfailed : answer.status = 502 := hrelays.status.symm.trans hstatus
    refine hrefers (Client.destination_eq_nowhere ?_)
    rw [hfailed]
    rfl
  · intro hstays
    rw [h.eq_of_nowhere answered hstays]
    exact ⟨rfl, relays_of_whole hid rfl hwhole⟩

/-- Without an answer to it the first request is the only one. -/
theorem tellsNoAnswer_of_unanswered
    (hnone : ∀ answer, network first ≠ .answered answer) :
    exchange.arrived.length ≤ 1 ∧ TellsNoAnswer (toldOf exchange id) := by
  cases h with
  | lost => exact ⟨Nat.zero_le 1, tellsNoAnswer_of_none rfl⟩
  | unanswered => exact ⟨Nat.le_refl 1, tellsNoAnswer_of_none rfl⟩
  | told answered => exact absurd answered (hnone _)
  | led answered => exact absurd answered (hnone _)

end Course

/-! ## What comes of a request

The conditions for forwarding are those of the law that the gateway fails
closed, so a request that may proceed is known by them. What comes of it depends
on the answers of the network alone. -/

section Forwarding

variable (settings : Settings) (network : Network) (moment : Moment)
  (inbound : Inbound)

/-- **The request that is first sent** for a request: to the configured address
with the target behind it. It is what was authorized, as far as address and
method go. -/
def firstOf? : Option Request :=
  Client.first? inbound.method
    ((Forwarder.ofSettings settings.server).address
      (Service.targetOf inbound.uri))
    (Forwarder.outgoing inbound.headers (idOf moment inbound))
    inbound.body.bytes

/-- **The exchange with the backend service** about a request. It is one call of
the client, with as many requests as that makes of it. -/
def exchangeOf : Exchange :=
  Client.send network inbound.method
    ((Forwarder.ofSettings settings.server).address
      (Service.targetOf inbound.uri))
    (Forwarder.outgoing inbound.headers (idOf moment inbound))
    inbound.body.bytes

/-- To forward a request is to have this exchange and to tell what came of
it. -/
theorem forwardingOf_told :
    (forwardingOf settings network moment inbound).calls
        = (exchangeOf settings network moment inbound).arrived ∧
      Service.responseOf
          (forwardingOf settings network moment inbound).result
          (idOf moment inbound)
        = toldOf (exchangeOf settings network moment inbound)
            (idOf moment inbound) := by
  unfold forwardingOf Forwarder.forward toldOf
  dsimp only
  rw [← exchangeOf]
  refine ⟨rfl, ?_⟩
  cases (exchangeOf settings network moment inbound).response <;> rfl

/-- **What comes of a request that is forwarded.** -/
theorem relayed_of_forwarded {handling : Handling}
    (hmade : IsMade moment.madeId)
    (hcalls : handling.backendCalls
      = (exchangeOf settings network moment inbound).arrived)
    (htold : handling.response
      = toldOf (exchangeOf settings network moment inbound)
          (idOf moment inbound)) :
    Relayed network (firstOf? settings moment inbound) (idOf moment inbound)
      handling := by
  have hid := (hasId_requestId inbound.headers moment.madeId).isFieldChar
    hmade
  have hcourse : ∀ first, firstOf? settings moment inbound = some first →
      Client.Course network Client.greatestRedirects first
        (exchangeOf settings network moment inbound) :=
    fun first hfirst => Client.course_send network hfirst
  have hunsent : firstOf? settings moment inbound = none →
      exchangeOf settings network moment inbound = ⟨[], none⟩ :=
    fun hnone => Client.send_of_first?_eq_none network hnone
  -- only the course of the exchange counts from here on
  generalize exchangeOf settings network moment inbound = exchange at *
  exact
    { unsent := fun hnone => by
        rw [hcalls, htold, hunsent hnone]
        exact ⟨rfl, tellsNoAnswer_of_none rfl⟩
      arrives := fun first hfirst => by
        rw [hcalls]
        exact (hcourse first hfirst).arrived_eq
      told := by
        rw [hcalls, htold]
        cases hfirst : firstOf? settings moment inbound with
        | none =>
          rw [hunsent hfirst]
          exact .inl (tellsNoAnswer_of_none rfl)
        | some first => exact told_of_course (hcourse first hfirst) hid
      relayed_iff := fun first answer hfirst answered hwhole => by
        rw [hcalls, htold]
        exact relays_of_course_iff (hcourse first hfirst) hid answered hwhole
      relayed := fun first answer hfirst answered hwhole hstays => by
        rw [hcalls, htold]
        exact (relays_of_course_iff (hcourse first hfirst) hid answered
          hwhole).2 (Client.destination_eq_nowhere hstays)
      broken := fun first answer hfirst answered hbroken hstays => by
        rw [hcalls, htold, (hcourse first hfirst).eq_of_nowhere answered hstays]
        exact ⟨rfl, tellsNoAnswer_of_broken rfl hbroken⟩
      unanswered := fun first hfirst hnone => by
        rw [hcalls, htold]
        exact tellsNoAnswer_of_unanswered (hcourse first hfirst) hnone }

end Forwarding

/-- **When the client gets the answer of the backend service.** Whatever
settings a service accepts and in every run, a request that may proceed when it
comes in is first sent to the configured address with its target behind it. The
answer to that is relayed after a single request exactly if it refers nowhere.

The statuses that redirect are only the case in which this may fail. An answer
with one of them and without an address is relayed like any other. -/
theorem run_relays_iff {settings : Settings} {service : Service}
    (h : Service.ofSettings settings = .ok service)
    (earlier later : List Event) (network : Network) (moment : Moment)
    (inbound : Inbound) {principal : Principal}
    (hpasses : Passes settings (inForce settings.authorization earlier) network
      moment inbound principal)
    (hmade : IsMade moment.madeId) :
    ∃ handling,
      ((Session.start service).run
          (earlier ++ .request network moment inbound :: later)).2[
            earlier.length]? = some (.handled handling) ∧
      Relayed network (firstOf? settings moment inbound) (idOf moment inbound)
        handling := by
  have hsession := (Enforces.start h).run earlier
  refine ⟨_, Session.run_effects_getElem? _ earlier later _, ?_⟩
  obtain ⟨hcalls, hresponse⟩ := hsession.failClosed.forwarded principal hpasses
  obtain ⟨harrived, htold⟩ :=
    forwardingOf_told settings network moment inbound
  exact relayed_of_forwarded settings network moment inbound hmade
    (hcalls.trans harrived) (hresponse.trans htold)

/-! ### A backend service that sends the client away -/

/-- The answer of a backend service that only says where to go. -/
def moved : Response :=
  { status := 302
    headers := ⟨[("location", Text.Utf8.bytes "http://elsewhere/notes")]⟩ }

/-- The answer of whoever is there. -/
def stranger : Response :=
  { status := 200, body := .ofBytes (Text.Utf8.bytes "not yours") }

/-- The backend service sends every request to another host. -/
def sendingAway : Network := fun request =>
  .answered (if request.url.authority.host = "localhost" then moved
    else stranger)

/-- A request goes to another host as well, and the client is told the answer
of that one. -/
theorem sent_away :
    ∃ service, Service.ofSettings openSettings = .ok service ∧
      ∃ handling first second,
        ((Session.start service).run
          [.request sendingAway ⟨Service.someId, 0, none⟩ smallRequest]).2[0]?
            = some (.handled handling) ∧
        firstOf? openSettings ⟨Service.someId, 0, none⟩ smallRequest = some first ∧
        sendingAway first = .answered moved ∧
        handling.backendCalls = [first, second] ∧
        second.url.authority.host = "elsewhere" ∧
        Relays Service.someId stranger handling.response ∧
        ¬ Relays Service.someId moved handling.response := by
  have hservice : Service.ofSettings openSettings
      = .ok ⟨openSettings, ⟨.ofSettings openSettings.authorization⟩,
          .ofSettings openSettings.server, ⟨false, true, false⟩⟩ := rfl
  have hpasses : Passes openSettings (inForce openSettings.authorization [])
      sendingAway ⟨Service.someId, 0, none⟩ smallRequest {} :=
    { path := by decide +kernel
      caller := rfl
      body := ⟨by decide +kernel, by decide +kernel, rfl⟩
      allowed := ⟨.allow RulesetCheck.inactive, rfl, rfl⟩ }
  obtain ⟨handling, hat, hlaw⟩ := run_relays_iff hservice [] [] sendingAway
    ⟨Service.someId, 0, none⟩ smallRequest hpasses Service.isMade_someId
  have hhandling : (Service.handle _ sendingAway ⟨Service.someId, 0, none⟩
      smallRequest) = handling := Effect.handled.inj (Option.some.inj hat)
  have hhosts : handling.backendCalls.map (·.url.authority.host)
      = ["localhost", "elsewhere"] := by
    rw [← hhandling]
    decide +kernel
  have hstatus : handling.response.status = 200 := by
    rw [← hhandling]
    decide +kernel
  cases hfirst : firstOf? openSettings ⟨Service.someId, 0, none⟩
      smallRequest with
  | none =>
    rw [(hlaw.unsent hfirst).1] at hhosts
    cases hhosts
  | some first =>
    rcases hlaw.arrives first hfirst with hnone | ⟨further, hcalls, -, -⟩
    · rw [hnone] at hhosts
      cases hhosts
    rw [hcalls, List.map_cons, List.cons.injEq,
      List.map_eq_singleton_iff] at hhosts
    obtain ⟨hhere, second, rfl, hthere⟩ := hhosts
    have hmoved : sendingAway first = .answered moved :=
      congrArg Reply.answered (if_pos hhere)
    have hstranger : sendingAway second = .answered stranger :=
      congrArg Reply.answered (if_neg (by rw [hthere]; decide))
    refine ⟨_, hservice, handling, first, second, hat, rfl, hmoved, hcalls,
      hthere, ?_, fun hrelays => ?_⟩
    · rcases hlaw.told with ⟨body, htold, -⟩ | ⟨last, answer, hlast, hanswer,
        hrelays⟩
      · rw [hstatus] at htold
        cases htold
      · rw [hcalls] at hlast
        cases hlast
        cases hstranger.symm.trans hanswer
        exact hrelays
    · exact absurd (hstatus.symm.trans hrelays.status) (by decide)

end Gateway

end PolicyGateway
