import PolicyGateway.Gateway.Failure
import PolicyGateway.Gateway.Forwarding
import PolicyGateway.Gateway.Settings
import PolicyGateway.Http.Client

/-!
# Forwarding to the backend service

A request that may proceed is sent on to the backend service: the same
method and body, the headers that are passed on, and the id of the request.
The address is the configured one, without slashes at its end, with the
target of the request written behind it.

What comes back is passed on in the same way: its status, its body, and the
headers that are passed on. A body is read to its end before anything of it goes
to the client, so that one that breaks off becomes an error, and not an answer
that stops in its middle.

Where there is no answer, the client is told that the request failed or that the
body could not be read. Behind a colon the text goes on with what the HTTP library
found; that is not modelled.
-/

namespace PolicyGateway.Gateway

open PolicyGateway.Http

/-- **The way to the backend service.** There is one backend service for all
requests, and its address is the only thing that the settings say of it. -/
structure Forwarder where
  /-- The address in front of every target. -/
  base : String
  /-- The time for an answer. -/
  timeout : Duration
  deriving Repr, DecidableEq

/-- **What came of forwarding**: the requests that arrived somewhere, in
order, and the response for the client. -/
structure Forwarded where
  /-- The requests that arrived. -/
  calls : List Request
  /-- The response. -/
  result : Except Failure Outbound

namespace Forwarder

/-- **The way that the settings describe.** -/
def ofSettings (settings : ServerSettings) : Forwarder :=
  { base := String.ofList
      (Text.dropTrailing '/' settings.backendUrl.toList)
    timeout := settings.backendTimeout }

/-- **The address for a target.** The target is written behind the configured
address as it is, and the whole is read as a URL only when it is sent. -/
def address (forwarder : Forwarder) (target : String) : String :=
  forwarder.base ++ target

/-- **The headers of a request that is forwarded.** -/
def outgoing (headers : Headers) (requestId : String) : Headers :=
  withRequestId (passedOn headers) requestId

/-- The response for the client, if all of it arrived. The words that the library
adds to the error are left out. -/
def relay (response : Response) : Except Failure Outbound :=
  if response.body.whole then
    .ok { status := response.status
          headers := passedOn response.headers
          body := response.body.bytes }
  else .error (.backend "failed to read body")

/-- **Forward a request.** The client that sends it follows references, so more
than one request may arrive, at other places too. A failure is told without the
words that the library has for it. -/
def forward (forwarder : Forwarder) (network : Network)
    (method target : String) (headers : Headers) (body : List UInt8)
    (requestId : String) : Forwarded :=
  let exchange := Client.send network method (forwarder.address target)
    (outgoing headers requestId) body
  { calls := exchange.arrived
    result :=
      match exchange.response with
      | none => .error (.backend "request failed")
      | some response => relay response }

end Forwarder

end PolicyGateway.Gateway
