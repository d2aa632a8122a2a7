import PolicyGateway.Gateway.Caller
import PolicyGateway.Gateway.Counters
import PolicyGateway.Gateway.Forwarder
import PolicyGateway.Gateway.Status
import PolicyGateway.Http.Inbound
import PolicyGateway.Policy.Gate

/-!
# The service

A request goes through the gateway in fixed steps. Its caller is
identified, its body is read up to the limit, both checks are made, and only
if they allow it is it forwarded; the answer of the backend service goes
back to the client. The first step that fails ends the request with an error
that says no more than a client may know.

Paths under `internalRoot` belong to the gateway itself. They are answered
without any check, and they are not counted.

Whatever becomes of a request, its answer carries the id of the request.

The order of the steps is part of what the gateway promises. A caller that cannot
be made out is refused whatever the body is, a body that is too long is refused
whatever the rules are, and the checks come before anything is sent on, so that
the backend service never sees a request that was not allowed.
-/

namespace PolicyGateway.Gateway

open PolicyGateway.Http PolicyGateway.Policy
open PolicyGateway.Json (Value)

/-- **The service** and what it works with. Of the four parts only the gate is
ever exchanged; the others stay what the settings made of them at the start. -/
structure Service where
  /-- The settings it was started with. -/
  settings : Settings
  /-- The checks in force. -/
  gate : Gate
  /-- The way to the backend service. -/
  forwarder : Forwarder
  /-- The state that readiness depends on. -/
  status : Status

/-- **What a request meets** besides the service. None of it is for the service to
choose, so statements about the service are made for every moment. -/
structure Moment where
  /-- The id that is made up for it, should it bring none. -/
  madeId : String
  /-- The seconds that the service has run. -/
  uptime : Nat := 0
  /-- The counters as text, where they are shown. -/
  exposition : Option String := none

/-- **What came of processing a request.** Besides the response it keeps what was
sent, and to whom, since that is what most of what is said of a gateway is
about. -/
structure Processing where
  /-- What the checks came to, if they were made. -/
  decision : Option Decision := none
  /-- The requests that the checks sent. -/
  policyCalls : List Request := []
  /-- The requests that were forwarded. -/
  backendCalls : List Request := []
  /-- The response of the backend service, or why there is none. -/
  result : Except Failure Outbound

/-- **What the service did about a request.** Beside the response it keeps what
the client cannot see, so that it can be said what a request has caused. -/
structure Handling where
  /-- The response. -/
  response : Outbound
  /-- What came of processing it; nothing for the service's own paths. -/
  processing : Option Processing

namespace Service

/-- **The service for settings.** Only the settings of the checks have to be
valid: those of the server are looked at when the program is launched, in front
of this. The service is not ready yet.

The HTTP client of the way to the backend service is made here too. That a system
may refuse to make one is left out, as it is for the clients of the checks. -/
def ofSettings (settings : Settings) : Except Failure Service :=
  match Gate.ofSettings settings.authorization with
  | .error cause => .error (.authorization cause)
  | .ok gate =>
    .ok { settings, gate
          forwarder := .ofSettings settings.server
          status :=
            { resources := settings.authorization.resources.isActive
              rulesets := settings.authorization.rulesets.isActive } }

/-- The service once it accepts connections. -/
def accepting (service : Service) : Service :=
  { service with status := { service.status with ready := true } }

/-- **Exchange the checks** while the service runs. Nothing else of the service is
changed by it, its status neither. -/
def reload (service : Service) (settings : Policy.Settings) :
    Service × Except Policy.Failure Unit :=
  let (gate, result) := service.gate.reload settings
  ({ service with gate }, result)

/-! ## What the checks look at -/

/-- The target of a request as it is written. -/
def targetOf (uri : Uri) : String :=
  match uri.target? with
  | some target => target.text
  | none => uri.path

/-- **The whole URL of a request**, as far as it is known: what the target
says, with the host that the headers name. The host is put in front as it was
sent; whether the two make up a URL is only seen when it is read. -/
def fullUrl (uri : Uri) (headers : Headers) : String :=
  if uri.scheme?.isSome then uri.text
  else
    match (headers.first? "host").bind fieldText? with
    | some host => "http://" ++ host ++ targetOf uri
    | none => targetOf uri

/-- **The request as the checks see it.** -/
def accessRequest (inbound : Inbound) (requestId : String) : AccessRequest :=
  { method := inbound.method
    path := inbound.uri.path
    fullUrl := fullUrl inbound.uri inbound.headers
    headers := (visibleHeaders inbound.headers).insert requestIdHeader
      requestId }

/-- **The body as the checks see it**: an empty one is an empty object, and
one that is no JSON is null. So a rule that asks for no field of the body applies
to requests with any body at all. -/
def bodyValue (bs : List UInt8) : Value :=
  if bs.isEmpty then .object [] else (Value.ofBytes? bs).getD .null

/-- The length that the headers of a request declare. -/
def declaredLength? (headers : Headers) : Option Nat :=
  ((headers.first? "content-length").bind fieldText?).bind fun text =>
    Text.boundedNatural? (UInt64.size - 1) text.toList

/-- **Read a body up to a limit.** A length that is declared is believed where it
is too large already, and counts for nothing otherwise.

A body that breaks off is a bad request. The text that says so goes on, behind a
colon, with what the HTTP library has to say of the connection; those words are
not the gateway's own, and are left out. -/
def readBody (limit : Nat) (headers : Headers) (body : Body) :
    Except Failure (List UInt8) :=
  if (declaredLength? headers).any (limit < ·) then
    .error (.payloadTooLarge limit)
  else
    match Body.readPieces limit [] body.pieces with
    | none => .error (.payloadTooLarge limit)
    | some bs =>
      if body.whole then .ok bs
      else .error (.badRequest "failed to read request body")

/-! ## Processing -/

/-- The greatest length of a body. -/
def bodyLimit (service : Service) : Nat :=
  service.settings.server.maxRequestBodySize.toNat

/-- **Authorize a request and forward it** if it may proceed. This is the only
place from which anything is forwarded. -/
def authorizeAndForward (service : Service) (network : Network)
    (requestId : String) (inbound : Inbound) (principal : Principal)
    (body : List UInt8) : Processing :=
  let authorization := service.gate.authorize network
    (accessRequest inbound requestId) principal (bodyValue body)
  match authorization.result with
  | .error cause =>
    { decision := some (.failed cause.kind)
      policyCalls := authorization.calls
      result := .error (.authorization cause) }
  | .ok verdict =>
    if verdict.allowed then
      let forwarded := service.forwarder.forward network inbound.method
        (targetOf inbound.uri) inbound.headers body requestId
      { decision := some .allow
        policyCalls := authorization.calls
        backendCalls := forwarded.calls
        result := forwarded.result }
    else
      { decision := some .deny
        policyCalls := authorization.calls
        result := .error (.denied verdict.reason) }

/-- **Process a request**: its caller, its body, the checks, the backend
service. -/
def process (service : Service) (network : Network) (requestId : String)
    (inbound : Inbound) : Processing :=
  match callerOf inbound.headers service.settings.identity with
  | .error failure => { result := .error failure }
  | .ok principal =>
    match readBody service.bodyLimit inbound.headers inbound.body with
    | .error failure => { result := .error failure }
    | .ok body =>
      service.authorizeAndForward network requestId inbound principal body

/-! ## Answers of the service itself -/

/-- A response with a JSON body. -/
def jsonResponse (status : Nat) (body : Value) : Outbound :=
  { status
    headers := Headers.set {} "content-type"
      (Text.Utf8.bytes "application/json")
    body := Text.Utf8.bytes body.toText }

/-- **The response to a request that failed.** -/
def errorResponse (failure : Failure) (requestId : String) : Outbound :=
  jsonResponse failure.status
    (ErrorBody.ofFailure failure (some requestId)).toJson

/-- The paths that belong to the service itself. -/
def internalRoot : String := "/_tollgate/"

/-- Whether a path belongs to the service itself. -/
def isInternal (path : String) : Bool :=
  internalRoot.toList.isPrefixOf path.toList

/-- A response that there is nothing here. -/
def notFound (message : String) : Outbound :=
  let body : ErrorBody := { error := "not_found", message }
  jsonResponse 404 body.toJson

/-- The response that shows the counters. -/
def expositionResponse (text : String) : Outbound :=
  { status := 200
    headers := Headers.set {} "content-type"
      (Text.Utf8.bytes "text/plain; version=0.0.4")
    body := Text.Utf8.bytes text }

/-- **The response at one of the service's own paths.** -/
def internalResponse (service : Service) (moment : Moment) (path : String) :
    Outbound :=
  if path = "/_tollgate/health" then
    jsonResponse 200 (Status.livenessJson moment.uptime)
  else if path = "/_tollgate/ready" then
    jsonResponse (if service.status.isReady then 200 else 503)
      service.status.readinessJson
  else if path = "/_tollgate/metrics" then
    match moment.exposition with
    | some text => expositionResponse text
    | none => notFound "metrics are disabled"
  else if path = "/_tollgate/version" then
    jsonResponse 200 (.object
      [("name", .text service.settings.telemetry.serviceName),
        ("version", .text version)])
  else notFound ("unknown internal endpoint: " ++ path)

/-! ## Handling -/

/-- The response that a processed request gets. -/
def responseOf (result : Except Failure Outbound) (requestId : String) :
    Outbound :=
  let response :=
    match result with
    | .ok response => response
    | .error failure => errorResponse failure requestId
  { response with headers := withRequestId response.headers requestId }

/-- **Handle a request.** -/
def handle (service : Service) (network : Network) (moment : Moment)
    (inbound : Inbound) : Handling :=
  let path := inbound.uri.path
  if isInternal path then
    { response := service.internalResponse moment path, processing := none }
  else
    let id := requestId inbound.headers moment.madeId
    let processing := service.process network id inbound
    { response := responseOf processing.result id
      processing := some processing }

end Service

end PolicyGateway.Gateway
