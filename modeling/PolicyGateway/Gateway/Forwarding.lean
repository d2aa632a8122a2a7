import PolicyGateway.Http.Headers
import PolicyGateway.Policy.AccessRequest

/-!
# Headers on their way through the gateway

Some header fields concern one connection only, and some are worked out
anew by whoever sends a message. Neither kind is passed on, in any
direction. Which fields these are is a fixed list of names; what a message itself
says of its fields is not looked at.

Every request has an id. It is taken from the first field of that name, if
it is text and not empty, and made up otherwise; from then on it is the one
value under that name wherever the request or its answer goes.
-/

namespace PolicyGateway.Gateway

open PolicyGateway.Http PolicyGateway.Record

/-- **The fields that are not passed on.** -/
def heldBack : List String :=
  ["connection", "keep-alive", "proxy-authenticate", "proxy-authorization",
    "te", "trailers", "transfer-encoding", "upgrade", "host",
    "content-length"]

/-- Whether a field of this name is not passed on, whatever its letter
case. -/
def isHeldBack (name : String) : Bool :=
  heldBack.contains (Text.lowercase name)

/-- **The headers that are passed on.** -/
def passedOn (headers : Headers) : Headers :=
  headers.keep fun name => !isHeldBack name

/-- The id that a request brings along. -/
def broughtId? (headers : Headers) : Option String :=
  match (headers.first? Policy.requestIdHeader).bind fieldText? with
  | some id => if id.isEmpty then none else some id
  | none => none

/-- **The id of a request**: the one it brings along, or one made up. -/
def requestId (headers : Headers) (made : String) : String :=
  (broughtId? headers).getD made

/-- The headers with the id of the request. -/
def withRequestId (headers : Headers) (id : String) : Headers :=
  headers.set Policy.requestIdHeader (Text.Utf8.bytes id)

/-- **The headers that the checks see**: of each name the first value that
is text. A value that is no text is passed over, so it does not hide a later one,
and the checks never see bytes that they could not show. -/
def visibleHeaders (headers : Headers) : OrderedMap String :=
  OrderedMap.ofList (headers.names.filterMap fun name =>
    ((headers.values name).filterMap fieldText?).head?.map (name, ·))

end PolicyGateway.Gateway
