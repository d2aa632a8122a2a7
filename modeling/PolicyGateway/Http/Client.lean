import PolicyGateway.Http.Base64
import PolicyGateway.Http.Message

/-!
# Sending a request

A request is sent to an address, and an answer that refers elsewhere is
followed, at most `greatestRedirects` times. What is finally told is the
last answer, with all requests that arrived somewhere on the way. Whoever sends a
request sees one answer, and it may come from a place that it never named; so the
requests on the way are part of what is modelled.

* After 301 and 302 a POST goes on as a GET without its body, after 303
  every method but HEAD does; after 307 and 308 the request goes on as it is.
* Each further request says where it comes from, unless that is a secure
  place and the next one is not.
* What authenticates is left out where the host or the port changes.
* An answer that refers nowhere is told as it is; one that refers away from
  the web, or once too often, is no answer.
-/

namespace PolicyGateway.Http

/-- **What came of sending a request.** The requests are those that arrived
somewhere, and the response is the one that is told in the end; in between the
client decides by itself. -/
structure Exchange where
  /-- The requests that arrived, in order. -/
  arrived : List Request
  /-- The answer, if there is one. -/
  response : Option Response
  deriving Repr, DecidableEq

namespace Client

/-- How many references are followed. -/
def greatestRedirects : Nat := 10

/-- The headers that describe a body. -/
def bodyHeaders : List String :=
  ["content-type", "content-length", "content-encoding",
    "transfer-encoding"]

/-- The headers that authenticate. -/
def secretHeaders : List String :=
  ["authorization", "cookie", "cookie2", "proxy-authorization",
    "www-authenticate"]

/-- The value of the header that says who asks. -/
def basicAuthorization (user password : String) : FieldValue :=
  Text.Utf8.bytes ("Basic " ++
    Base64.encode (Text.Utf8.bytes (user ++ ":" ++ password)))

/-! ## The first request -/

/-- The headers with this one, unless it is there. -/
def withDefault (headers : Headers) (name : String) (value : FieldValue) :
    Headers :=
  if headers.names.contains name then headers else headers.set name value

/-- The text that stands in an address percent encoded. -/
def plain (s : String) : String :=
  String.ofList (Text.Utf8.decodeLossy
    (Text.percentDecode (Text.Utf8.bytes s)))

/-- The headers that a request is first sent with: anything is accepted,
and the user whom the address names asks, unless a header says otherwise. -/
def firstHeaders (authority : Authority) (headers : Headers) : Headers :=
  let headers := withDefault headers "accept" (Text.Utf8.bytes "*/*")
  if authority.user.isEmpty && authority.password.isEmpty then headers
  else withDefault headers "authorization"
    (basicAuthorization (plain authority.user) (plain authority.password))

/-! ## Further requests -/

/-- Whether the request goes on as a GET without a body. -/
def dropsBody (status : Nat) (method : String) : Bool :=
  ((status == 301 || status == 302) && method == "POST") || status == 303

/-- Whether two addresses lead to the same host and port. -/
def samePlace (a b : Url) : Bool :=
  a.authority.host == b.authority.host && a.effectivePort == b.effectivePort

/-- The headers with the address that a request comes from, where it may be
told. -/
def withReferer (headers : Headers) (here next : Url) : Headers :=
  if here.scheme = .https ∧ next.scheme = .http then headers
  else headers.set "referer" (Text.Utf8.bytes here.withoutUser.text)

/-- **The request that follows a reference** to another address. -/
def redirected (request : Request) (status : Nat) (next : Url) : Request :=
  let drops := dropsBody status request.method
  let method :=
    if drops && !(status == 303 && request.method == "HEAD") then "GET"
    else request.method
  let kept := request.headers.keep fun name =>
    !(drops && bodyHeaders.contains name) &&
      (samePlace request.url next || !secretHeaders.contains name)
  { method
    url := next
    headers := withReferer kept request.url next
    body := if drops then [] else request.body }

/-- Whether a status may refer elsewhere. -/
def isRedirect (status : Nat) : Bool :=
  [301, 302, 303, 307, 308].contains status

/-- **Where an answer refers**, seen from the address that gave it. -/
def destination (here : Url) (response : Response) : Url.Destination :=
  if isRedirect response.status then
    match (response.headers.first? "location").bind Text.Utf8.string? with
    | some reference => here.join reference
    | none => .nowhere
  else .nowhere

/-- **Send a request and follow references**, so many of them at most. -/
def follow (network : Network) (budget : Nat) (request : Request) :
    Exchange :=
  match network request with
  | .refused => ⟨[], none⟩
  | .closed => ⟨[request], none⟩
  | .answered response =>
    match destination request.url response with
    | .nowhere => ⟨[request], some response⟩
    | .elsewhere => ⟨[request], none⟩
    | .web next =>
      match budget with
      | 0 => ⟨[request], none⟩
      | budget + 1 =>
        let further := follow network budget
          (redirected request response.status next)
        ⟨request :: further.arrived, further.response⟩

/-- **How a request fares that is followed.** The four ways are those in which
following may end or go on, and proofs about what is followed go by them, without
the budget's two cases. -/
inductive Course (network : Network) : Nat → Request → Exchange → Prop
  /-- It does not arrive. -/
  | lost {budget : Nat} {request : Request}
      (refused : network request = .refused) :
      Course network budget request ⟨[], none⟩
  /-- It arrives, and there is no answer that could be told. -/
  | unanswered {budget : Nat} {request : Request}
      (arrives : network request ≠ .refused)
      (refers : ∀ response, network request = .answered response →
        destination request.url response ≠ .nowhere) :
      Course network budget request ⟨[request], none⟩
  /-- Its answer refers nowhere, and is told. -/
  | told {budget : Nat} {request : Request} {response : Response}
      (answered : network request = .answered response)
      (stays : destination request.url response = .nowhere) :
      Course network budget request ⟨[request], some response⟩
  /-- Its answer refers to the web, and a further request is followed. -/
  | led {budget : Nat} {request : Request} {response : Response} {next : Url}
      {further : Exchange}
      (answered : network request = .answered response)
      (leads : destination request.url response = .web next)
      (course : Course network budget
        (redirected request response.status next) further) :
      Course network (budget + 1) request
        ⟨request :: further.arrived, further.response⟩

/-- An answer that is not told refers somewhere. -/
theorem Course.of_answered {network : Network} {budget : Nat}
    {request : Request} {response : Response}
    (answered : network request = .answered response)
    (refers : destination request.url response ≠ .nowhere) :
    Course network budget request ⟨[request], none⟩ := by
  refine .unanswered (by rw [answered]; simp) fun other hother => ?_
  rw [answered] at hother
  cases hother
  exact refers

/-- Every request that is followed fares in one of these ways. -/
theorem course_follow (network : Network) (budget : Nat)
    (request : Request) :
    Course network budget request (follow network budget request) := by
  induction budget generalizing request with
  | zero =>
    unfold follow
    split
    · next h => exact .lost h
    · next h => exact .unanswered (by simp [h]) (by simp [h])
    · next response h =>
      split
      · next hstays => exact .told h hstays
      · next haway => exact .of_answered h (by simp [haway])
      · next next hleads => exact .of_answered h (by simp [hleads])
  | succ budget ih =>
    unfold follow
    split
    · next h => exact .lost h
    · next h => exact .unanswered (by simp [h]) (by simp [h])
    · next response h =>
      split
      · next hstays => exact .told h hstays
      · next haway => exact .of_answered h (by simp [haway])
      · next next hleads => exact .led h hleads (ih _)

/-- **Send a request to an address.** Nothing is sent where it is none. -/
def send (network : Network) (method address : String) (headers : Headers)
    (body : List UInt8) : Exchange :=
  match Url.parse? address with
  | none => ⟨[], none⟩
  | some url =>
    follow network greatestRedirects
      { method
        url := url.withoutUser
        headers := firstHeaders url.authority headers
        body }

end Client

end PolicyGateway.Http
