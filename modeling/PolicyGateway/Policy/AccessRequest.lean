import PolicyGateway.Json.Printer
import PolicyGateway.Record.OrderedMap
import PolicyGateway.Text.Pieces

/-!
# Requests as the checks see them

The checks look at the method, the path, the whole URL and the headers of a
request. Of the headers only two ever leave the gateway with a question: the
id of the request and the authorization. They are looked up whatever their
letter case, an exact spelling first, and sent under one fixed spelling.

The other headers stay inside the gateway. A cookie or an internal token is no
business of a policy server, and what is not shown to it cannot sway it.
-/

namespace PolicyGateway.Policy

open PolicyGateway.Json PolicyGateway.Record

/-- The header with the id of a request. -/
def requestIdHeader : String := "x-request-id"

/-- The header with the authorization of a request. -/
def authorizationHeader : String := "Authorization"

/-- **The headers that a question may carry.** -/
def forwardedHeaders : List String := [requestIdHeader, authorizationHeader]

/-- **A request** as the checks see it. Its headers have one value for each
name, so whoever makes it decides which one that is. -/
structure AccessRequest where
  /-- The HTTP method. -/
  method : String
  /-- The path, without the query. -/
  path : String
  /-- The whole URL, as far as it is known. -/
  fullUrl : String
  /-- The headers, in their spelling. -/
  headers : OrderedMap String := .empty
  deriving Repr, DecidableEq

namespace AccessRequest

/-- **Look up a header**: under this very name, or else the first one whose
name differs in letter case only. The headers of a request that arrives are in
lower case, so its authorization is found in the second way; whoever builds a
request by hand may have written both spellings, and then the exact one
counts. -/
def header? (request : AccessRequest) (name : String) : Option String :=
  (request.headers.find? name).or
    ((request.headers.entries.find? fun (other, _) =>
      Text.sameIgnoringCase other name).map Prod.snd)

/-- **The headers that go along with a question**, under their fixed
names and in their fixed order, whatever the order in the request is. -/
def forwarded (request : AccessRequest) : List (String × String) :=
  forwardedHeaders.filterMap fun name =>
    (request.header? name).map (name, ·)

/-- The request as a JSON value. Without a header to go along it has no
member for them. -/
def toJson (request : AccessRequest) : Value :=
  .object ([("method", .text request.method),
    ("path", .text request.path)] ++
    if request.forwarded.isEmpty then []
    else [("headers", .object (request.forwarded.map fun (name, value) =>
      (name, .text value)))])

end AccessRequest

end PolicyGateway.Policy
