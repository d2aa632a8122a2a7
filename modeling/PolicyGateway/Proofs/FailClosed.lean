import PolicyGateway.Proofs.Sessions

/-!
# The gateway fails closed

Four conditions have to hold before anything is sent to the backend service:
the path is not one of the gateway's own, the caller is identified, the body
was read within the limit, and the checks in force allow the request. They
are the fields of `Passes`.

`FailClosed` says what a request comes to, one field for each way it may
end. Two of them are the law itself: what reached the backend service is
evidence that all conditions hold, and where they hold there is one
forwarding and nothing else. The others say of each condition that fails who
is called, what is counted and what the client is told. The law holds of
every request at every place of every run (`run_failClosed`).

**Why with the counters.** A request that fails must not look like one that
passed to those who watch the gateway either. So the counters before and after
are part of what is said of a request: a way that makes no check counts none.

**Why over runs.** The settings of the checks may be replaced between two
requests, and a replacement may be refused. What a request meets is then not
what the service was started with. The law is therefore proved for one request
in whatever state the service is in, and carried along a run by what the state
enforces (`Enforces`).
-/

namespace PolicyGateway.Gateway

open PolicyGateway.Http PolicyGateway.Policy

namespace Handling

/-- The requests that the checks sent for a request. -/
def policyCalls (handling : Handling) : List Http.Request :=
  handling.processing.elim [] (·.policyCalls)

/-- The requests that were forwarded for a request. -/
def backendCalls (handling : Handling) : List Http.Request :=
  handling.processing.elim [] (·.backendCalls)

theorem backendCalls_of_some (response : Outbound) (processing : Processing) :
    Handling.backendCalls ⟨response, some processing⟩
      = processing.backendCalls :=
  rfl

/-- **Nobody is called** for a request. Neither a policy server nor the backend
service gets to know of it. -/
def IsSilent (handling : Handling) : Prop :=
  handling.policyCalls = [] ∧ handling.backendCalls = []

end Handling

/-- **A response that tells an error**: a status and a JSON body. -/
def Tells (response : Outbound) (status : Nat) (body : ErrorBody) : Prop :=
  response.status = status ∧
    response.body = Text.Utf8.bytes body.toJson.toText

/-- **All that a client is ever told of a check that failed.** None of the
texts names a server, a rule or a field: why a check failed is for those to know
who run the gateway. -/
def toldFailures : List String :=
  [Endpoint.refusal .decision, Endpoint.refusal .validation,
    authorizationError]

/-! ## The conditions

They are said of the settings, the request and the partners, and not of what the
gateway did. So they can be tested on paper, and a request that was forwarded
can be held against them. -/

section Conditions

variable (settings : Settings) (checks : Policy.Settings)
  (network : Network) (moment : Moment) (inbound : Inbound)

/-- The id that a request goes by. -/
abbrev idOf : String := requestId inbound.headers moment.madeId

/-- The greatest length of a body. -/
abbrev limitOf : Nat := settings.server.maxRequestBodySize.toNat

/-- **What the checks come to** for a request that was read. The bytes of the
body are those that are forwarded later on. -/
def authorizationOf (principal : Principal) : Authorization :=
  (Checks.ofSettings checks).authorize network
    (Service.accessRequest inbound (idOf moment inbound)) principal
    (Service.bodyValue inbound.body.bytes)

/-- **The forwarding of a request.** The target is the one of the request line,
and the headers are those that arrived. -/
def forwardingOf : Forwarded :=
  (Forwarder.ofSettings settings.server).forward network inbound.method
    (Service.targetOf inbound.uri) inbound.headers inbound.body.bytes
    (idOf moment inbound)

/-- **A body that is read**: neither the length that is declared nor the bytes
that arrive go beyond the limit, and all of it arrives. A length that is
declared is tested on its own, and one that is too large is enough for a
refusal, whatever arrives. -/
structure IsRead : Prop where
  /-- The declared length is within the limit. -/
  declared : ∀ n, Service.declaredLength? inbound.headers = some n →
    n ≤ limitOf settings
  /-- The bytes are within the limit. -/
  short : inbound.body.bytes.length ≤ limitOf settings
  /-- The body came to its end. -/
  whole : inbound.body.whole = true

/-- **The conditions for forwarding a request.** The order is the one in which
they are tested, and a later one is not tested where an earlier one fails. -/
structure Passes (principal : Principal) : Prop where
  /-- The path is not one of the gateway's own. -/
  path : Service.isInternal inbound.uri.path = false
  /-- The caller is identified. -/
  caller : callerOf inbound.headers settings.identity = .ok principal
  /-- The body is read within the limit. -/
  body : IsRead settings inbound
  /-- The checks in force allow it. -/
  allowed : Allows
    (authorizationOf checks network moment inbound principal).result

/-- **What a request comes to**, with the counters before and after it. The
first part does not say that the checks were called, but that they allow: it is
the stronger of the two, as it names the caller and the bytes that they allow it
for. -/
structure FailClosed (before after : Counters) (handling : Handling) :
    Prop where
  /-- What reached the backend service shows that all conditions hold. -/
  evidence : handling.backendCalls ≠ [] →
    ∃ principal, Passes settings checks network moment inbound principal
  /-- Where they hold, the request is forwarded, once. -/
  forwarded : ∀ principal,
    Passes settings checks network moment inbound principal →
    handling.backendCalls = (forwardingOf settings network moment inbound).calls
    ∧ handling.response =
        Service.responseOf (forwardingOf settings network moment inbound).result
          (idOf moment inbound)
  /-- At the gateway's own paths nobody is called and nothing counted. -/
  internal : Service.isInternal inbound.uri.path = true →
    handling.IsSilent ∧ after = before
  /-- Without a caller nobody is called. -/
  unidentified : ∀ failure, Service.isInternal inbound.uri.path = false →
    callerOf inbound.headers settings.identity = .error failure →
    handling.IsSilent ∧ handling.response.status = 401
  /-- Beyond the limit, by declaration or by its bytes, nobody is called. -/
  oversized : ∀ principal, Service.isInternal inbound.uri.path = false →
    callerOf inbound.headers settings.identity = .ok principal →
    (∃ n, Service.declaredLength? inbound.headers = some n ∧
        limitOf settings < n) ∨
      limitOf settings < inbound.body.bytes.length →
    handling.IsSilent ∧ handling.response.status = 413
  /-- A denial tells its reason, and there is one. -/
  denied : ∀ principal verdict,
    Service.isInternal inbound.uri.path = false →
    callerOf inbound.headers settings.identity = .ok principal →
    IsRead settings inbound →
    (authorizationOf checks network moment inbound principal).result
      = .ok verdict →
    verdict.allowed = false →
    handling.backendCalls = [] ∧
      ∃ body, Tells handling.response 403 body ∧
        body.message = verdict.reason ∧ body.message ≠ ""
  /-- A failed check tells one of the fixed texts. -/
  failed : ∀ principal failure,
    Service.isInternal inbound.uri.path = false →
    callerOf inbound.headers settings.identity = .ok principal →
    IsRead settings inbound →
    (authorizationOf checks network moment inbound principal).result
      = .error failure →
    handling.backendCalls = [] ∧
      ∃ body, Tells handling.response 403 body ∧
        body.message ∈ toldFailures

end Conditions

/-! ## Reading what arrives

Caller and body are found in what arrives, or the request ends here. Of the body
it has to be said that there is one way only to read it, so that the bytes which
are checked are those which are forwarded. -/

/-- Whoever is not identified is told so. -/
theorem status_of_callerOf {headers : Headers} {settings : IdentitySettings}
    {failure : Failure} (h : callerOf headers settings = .error failure) :
    failure.status = 401 := by
  unfold callerOf at h
  split at h
  · split at h <;> cases h
    rfl
  · split at h
    · cases h
      rfl
    · split at h <;> cases h
      rfl

section Body

variable {settings : Settings} {inbound : Inbound}

/-- A declared length is within the limit, or it is not. -/
theorem declared_any_iff {limit : Nat} {declared : Option Nat} :
    declared.any (limit < ·) = true ↔ ∃ n, declared = some n ∧ limit < n := by
  cases declared <;> simp

/-- **A body that is read is read as its bytes.** -/
theorem IsRead.readBody (h : IsRead settings inbound) :
    Service.readBody (limitOf settings) inbound.headers inbound.body
      = .ok inbound.body.bytes := by
  have hdecl : ¬ (Service.declaredLength? inbound.headers).any
      (limitOf settings < ·) = true := by
    rw [declared_any_iff]
    rintro ⟨n, hn, hlt⟩
    exact absurd (h.declared n hn) (Nat.not_le.2 hlt)
  unfold Service.readBody
  rw [if_neg hdecl, Body.readPieces_nil, if_neg (Nat.not_lt.2 h.short)]
  exact if_pos h.whole

/-- **Nothing else is read**, and no other bytes. What was read within the limit
was within it as it arrived. -/
theorem isRead_of_readBody {bs : List UInt8}
    (h : Service.readBody (limitOf settings) inbound.headers inbound.body
      = .ok bs) : IsRead settings inbound ∧ bs = inbound.body.bytes := by
  unfold Service.readBody at h
  rw [Body.readPieces_nil] at h
  split at h
  · cases h
  · next hdecl =>
    rw [declared_any_iff] at hdecl
    by_cases hlong : limitOf settings < inbound.body.bytes.length
    · rw [if_pos hlong] at h
      cases h
    · rw [if_neg hlong] at h
      dsimp only at h
      split at h
      · next hwhole =>
        cases h
        exact ⟨⟨fun n hn => Nat.not_lt.1 fun hlt => hdecl ⟨n, hn, hlt⟩,
          Nat.not_lt.1 hlong, hwhole⟩, rfl⟩
      · cases h

/-- **A body beyond the limit is too large**, whichever way it shows. -/
theorem readBody_oversized
    (h : (∃ n, Service.declaredLength? inbound.headers = some n ∧
        limitOf settings < n) ∨
      limitOf settings < inbound.body.bytes.length) :
    Service.readBody (limitOf settings) inbound.headers inbound.body
      = .error (.payloadTooLarge (limitOf settings)) := by
  unfold Service.readBody
  split
  · rfl
  · next hdecl =>
    rw [declared_any_iff] at hdecl
    rw [Body.readPieces_nil, if_pos (h.resolve_left hdecl)]

end Body

/-! ## What processing comes to

For each condition there is a lemma for where it fails, and one for where all of
them hold. The law puts them together and does not look into the processing
again. -/

section Processing

variable {settings : Settings} {checks : Policy.Settings} {session : Session}
  {network : Network} {moment : Moment} {inbound : Inbound}
  {principal : Principal}

/-- The response to a failure tells it. -/
theorem tells_responseOf_error (failure : Failure) (id : String) :
    Tells (Service.responseOf (.error failure) id) failure.status
      (ErrorBody.ofFailure failure (some id)) := by
  unfold Tells Service.responseOf Service.errorResponse Service.jsonResponse
  dsimp only
  exact ⟨rfl, rfl⟩

/-- What the client is told of a failed check is one of the fixed texts. -/
theorem clientMessage_mem_toldFailures (cause : Policy.Failure) :
    (Failure.authorization cause).clientMessage ∈ toldFailures := by
  have hlast : authorizationError ∈ toldFailures := by simp [toldFailures]
  cases cause with
  | unexpectedStatus status endpoint =>
    change endpoint.refusal ∈ toldFailures
    cases endpoint <;> simp [toldFailures]
  | _ => exact hlast

namespace Service

variable {service : Service} {id : String} {failure : Failure}

/-- A request at one of the gateway's own paths is not processed. -/
theorem handle_internal (hpath : isInternal inbound.uri.path = true) :
    service.handle network moment inbound
      = { response := service.internalResponse moment inbound.uri.path
          processing := none } := by
  unfold handle
  dsimp only
  rw [if_pos hpath]

/-- A request outside the gateway's own paths is processed. -/
theorem handle_eq_process (hpath : isInternal inbound.uri.path = false) :
    service.handle network moment inbound
      = { response := responseOf (service.process network
            (idOf moment inbound) inbound).result (idOf moment inbound)
          processing := some (service.process network
            (idOf moment inbound) inbound) } := by
  unfold handle
  dsimp only
  rw [if_neg (by simp [hpath])]

/-- Without a caller the processing ends at once. -/
theorem process_of_unidentified
    (hcaller : callerOf inbound.headers service.settings.identity
      = .error failure) :
    service.process network id inbound = { result := .error failure } := by
  unfold process
  rw [hcaller]

/-- Without a body it ends in front of the checks. -/
theorem process_of_unread
    (hcaller : callerOf inbound.headers service.settings.identity
      = .ok principal)
    (hbody : readBody service.bodyLimit inbound.headers inbound.body
      = .error failure) :
    service.process network id inbound = { result := .error failure } := by
  unfold process
  rw [hcaller]
  dsimp only
  rw [hbody]

/-- **With both the checks are made**, and what follows is up to them. -/
theorem process_of_read {body : List UInt8}
    (hcaller : callerOf inbound.headers service.settings.identity
      = .ok principal)
    (hbody : readBody service.bodyLimit inbound.headers inbound.body
      = .ok body) :
    service.process network id inbound
      = service.authorizeAndForward network id inbound principal body := by
  unfold process
  rw [hcaller]
  dsimp only
  rw [hbody]

end Service

namespace Enforces

variable (h : Enforces settings checks session)
include h

theorem process_unidentified {failure : Failure}
    (hcaller : callerOf inbound.headers settings.identity = .error failure) :
    session.service.process network (idOf moment inbound) inbound
      = { result := .error failure } := by
  rw [← h.started] at hcaller
  exact Service.process_of_unidentified hcaller

theorem process_unread {failure : Failure}
    (hcaller : callerOf inbound.headers settings.identity = .ok principal)
    (hbody : Service.readBody (limitOf settings) inbound.headers inbound.body
      = .error failure) :
    session.service.process network (idOf moment inbound) inbound
      = { result := .error failure } := by
  rw [← h.started] at hcaller hbody
  exact Service.process_of_unread hcaller hbody

/-- **A request that was read is authorized.** -/
theorem process_read
    (hcaller : callerOf inbound.headers settings.identity = .ok principal)
    (hread : IsRead settings inbound) :
    session.service.process network (idOf moment inbound) inbound
      = session.service.authorizeAndForward network (idOf moment inbound)
          inbound principal inbound.body.bytes := by
  have hbody := hread.readBody
  rw [← h.started] at hcaller hbody
  exact Service.process_of_read hcaller hbody

/-- The checks in force are those that are asked. -/
theorem authorize_eq :
    session.service.gate.authorize network
        (Service.accessRequest inbound (idOf moment inbound)) principal
        (Service.bodyValue inbound.body.bytes)
      = authorizationOf checks network moment inbound principal := by
  rw [h.gate]
  rfl

theorem process_failed {cause : Policy.Failure}
    (hcaller : callerOf inbound.headers settings.identity = .ok principal)
    (hread : IsRead settings inbound)
    (hresult : (authorizationOf checks network moment inbound
      principal).result = .error cause) :
    session.service.process network (idOf moment inbound) inbound
      = { decision := some (.failed cause.kind)
          policyCalls := (authorizationOf checks network moment inbound
            principal).calls
          result := .error (.authorization cause) } := by
  rw [h.process_read hcaller hread]
  unfold Service.authorizeAndForward
  simp only [h.authorize_eq, hresult]

theorem process_denied {verdict : Verdict}
    (hcaller : callerOf inbound.headers settings.identity = .ok principal)
    (hread : IsRead settings inbound)
    (hresult : (authorizationOf checks network moment inbound
      principal).result = .ok verdict)
    (hdenied : verdict.allowed = false) :
    session.service.process network (idOf moment inbound) inbound
      = { decision := some .deny
          policyCalls := (authorizationOf checks network moment inbound
            principal).calls
          result := .error (.denied verdict.reason) } := by
  rw [h.process_read hcaller hread]
  unfold Service.authorizeAndForward
  simp only [h.authorize_eq, hresult]
  exact if_neg (by rw [hdenied]; simp)

/-- **Where all conditions hold, the request is forwarded.** -/
theorem process_passes
    (hp : Passes settings checks network moment inbound principal) :
    session.service.process network (idOf moment inbound) inbound
      = { decision := some .allow
          policyCalls := (authorizationOf checks network moment inbound
            principal).calls
          backendCalls := (forwardingOf settings network moment inbound).calls
          result :=
            (forwardingOf settings network moment inbound).result } := by
  obtain ⟨verdict, hresult, hallowed⟩ := hp.allowed
  rw [h.process_read hp.caller hp.body]
  unfold Service.authorizeAndForward
  simp only [h.authorize_eq, hresult, h.forwarder]
  exact if_pos hallowed

/-- What reached the backend service was allowed to. -/
theorem passes_of_backendCalls
    (hcalls : (session.service.handle network moment inbound).backendCalls
      ≠ []) :
    ∃ principal, Passes settings checks network moment inbound principal := by
  -- one condition after the other: where it fails, processing ends with nobody
  -- called, against `hcalls`
  cases hpath : Service.isInternal inbound.uri.path with
  | true =>
    rw [Service.handle_internal hpath] at hcalls
    exact absurd rfl hcalls
  | false =>
    rw [Service.handle_eq_process hpath, Handling.backendCalls_of_some] at hcalls
    cases hcaller : callerOf inbound.headers settings.identity with
    | error failure =>
      rw [h.process_unidentified hcaller] at hcalls
      exact absurd rfl hcalls
    | ok principal =>
      cases hbody : Service.readBody (limitOf settings) inbound.headers
          inbound.body with
      | error failure =>
        rw [h.process_unread hcaller hbody] at hcalls
        exact absurd rfl hcalls
      | ok body =>
        have hread := (isRead_of_readBody hbody).1
        cases hresult : (authorizationOf checks network moment inbound
            principal).result with
        | error cause =>
          rw [h.process_failed hcaller hread hresult] at hcalls
          exact absurd rfl hcalls
        | ok verdict =>
          cases hallowed : verdict.allowed with
          | true =>
            exact ⟨principal, hpath, hcaller, hread, verdict, hresult,
              hallowed⟩
          | false =>
            rw [h.process_denied hcaller hread hresult hallowed] at hcalls
            exact absurd rfl hcalls

/-- **The law for one request** in a session. The state may be any that enforces
settings, the first one of a run or a later one. -/
theorem failClosed :
    FailClosed settings checks network moment inbound session.counters
      (session.step (.request network moment inbound)).1.counters
      (session.service.handle network moment inbound) where
  evidence := h.passes_of_backendCalls
  forwarded principal hp := by
    rw [Service.handle_eq_process hp.path, h.process_passes hp,
      Handling.backendCalls_of_some]
    dsimp only
    exact ⟨rfl, rfl⟩
  internal hpath := by
    have hstep : (session.step (.request network moment inbound)).1.counters
        = Session.counted session.counters inbound.method
            (session.service.handle network moment inbound) := rfl
    rw [hstep, Service.handle_internal hpath]
    exact ⟨⟨rfl, rfl⟩, rfl⟩
  unidentified failure hpath hcaller := by
    rw [Service.handle_eq_process hpath, h.process_unidentified hcaller]
    refine ⟨⟨rfl, rfl⟩, ?_⟩
    -- the status is that of whoever is not identified
    rw [← status_of_callerOf hcaller]
    exact (tells_responseOf_error failure _).1
  oversized principal hpath hcaller hover := by
    rw [Service.handle_eq_process hpath,
      h.process_unread hcaller (readBody_oversized hover)]
    exact ⟨⟨rfl, rfl⟩, (tells_responseOf_error _ _).1⟩
  denied principal verdict hpath hcaller hread hresult hdenied := by
    obtain ⟨reason, hne, rfl⟩ := Checks.combine_denies hresult hdenied
    rw [Service.handle_eq_process hpath,
      h.process_denied hcaller hread hresult hdenied]
    exact ⟨rfl, _, tells_responseOf_error (.denied reason) _, rfl, hne⟩
  failed principal failure hpath hcaller hread hresult := by
    rw [Service.handle_eq_process hpath, h.process_failed hcaller hread hresult]
    exact ⟨rfl, _, tells_responseOf_error (.authorization failure) _,
      clientMessage_mem_toldFailures failure⟩

end Enforces

end Processing

/-- **The gateway fails closed**: whatever settings a service accepts, in
every run of exchanges and requests, and whatever the policy servers and the
backend service do, each request comes to what the conditions say, under the
settings of the checks in force when it came in. -/
theorem run_failClosed {settings : Settings} {service : Service}
    (h : Service.ofSettings settings = .ok service)
    (earlier later : List Event) (network : Network) (moment : Moment)
    (inbound : Inbound) :
    ∃ handling,
      ((Session.start service).run
          (earlier ++ .request network moment inbound :: later)).2[
            earlier.length]? = some (.handled handling) ∧
      FailClosed settings (inForce settings.authorization earlier) network
        moment inbound
        ((Session.start service).run earlier).1.counters
        ((Session.start service).run
          (earlier ++ [.request network moment inbound])).1.counters
        handling := by
  have hsession := (Enforces.start h).run earlier
  refine ⟨_, Session.run_effects_getElem? _ earlier later _, ?_⟩
  rw [Session.run_concat]
  exact hsession.failClosed

/-- Settings under which whatever is no resource may pass, with a body of at
most four bytes. -/
def openSettings : Settings :=
  { server := { maxRequestBodySize := 4 }
    authorization :=
      { resources :=
          { enabled := true
            anonymousAccess := true
            validationUrl := "http://policy/check" } } }

/-- A request with a body of four bytes. -/
def smallRequest : Inbound :=
  { method := "PUT"
    uri := .origin ⟨"/notes", none⟩
    headers := {}
    body := .ofBytes (Text.Utf8.bytes "note") }

/-- It is forwarded, also after an exchange that is refused. -/
theorem run_forwards_smallRequest :
    ∃ service, Service.ofSettings openSettings = .ok service ∧
      ∃ handling,
        ((Session.start service).run
          [.reload {}, .request (fun _ => .closed) ⟨"1", 0, none⟩
            smallRequest]).2[1]? = some (.handled handling) ∧
        handling.backendCalls = (forwardingOf openSettings
          (fun _ => .closed) ⟨"1", 0, none⟩ smallRequest).calls := by
  have hservice : Service.ofSettings openSettings
      = .ok ⟨openSettings, ⟨.ofSettings openSettings.authorization⟩,
          .ofSettings openSettings.server, ⟨false, true, false⟩⟩ := rfl
  have hp : Passes openSettings (inForce openSettings.authorization
      [.reload {}]) (fun _ => .closed) ⟨"1", 0, none⟩ smallRequest {} :=
    { path := by decide +kernel
      caller := rfl
      body := ⟨by decide +kernel, by decide +kernel, rfl⟩
      allowed := ⟨.allow RulesetCheck.inactive, rfl, rfl⟩ }
  obtain ⟨handling, hat, hlaw⟩ := run_failClosed hservice [.reload {}] []
    (fun _ => .closed) ⟨"1", 0, none⟩ smallRequest
  exact ⟨_, hservice, handling, hat, (hlaw.forwarded {} hp).1⟩

end PolicyGateway.Gateway
