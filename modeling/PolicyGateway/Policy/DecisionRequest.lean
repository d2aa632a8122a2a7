import PolicyGateway.Policy.AccessRequest
import PolicyGateway.Policy.Failure
import PolicyGateway.Policy.Ruleset
import PolicyGateway.Query
import PolicyGateway.Uri

/-!
# Decision requests

A decision request shows a policy server one request: the method, the two
headers that may be shown, the URL taken apart, and those parts of the body
that the ruleset asks for.

It is built as a whole or not at all. If the URL is no URL the request is
invalid; otherwise the first field that cannot be selected is the cause. A
decision about half of a request would be a decision about another request.

The path is taken from the request and the rest of the URL from its text. The two
need not agree, since the text is put together from what a client sent.
-/

namespace PolicyGateway.Policy

open PolicyGateway.Json PolicyGateway.Record

/-- **A URL taken apart.** It is given in parts, so that a policy can be written
about a segment without a parser of its own. -/
structure DecisionUri where
  /-- The scheme, `http` where none is written. -/
  schema : String
  /-- The host, and the port where one is written. -/
  authority : List (String × String)
  /-- The path, then each of its segments. -/
  path : List String
  /-- The query. -/
  query : String
  deriving Repr, DecidableEq

/-- **A decision request.** This is all that a policy server learns of a request
in the decision dialect. The caller is not in it, only the authorization that
the request bears. -/
structure DecisionRequest where
  /-- The method. -/
  method : String
  /-- The headers that are shown. -/
  headers : List (String × String)
  /-- The URL, taken apart. -/
  uri : DecisionUri
  /-- The fields selected from the body. -/
  body : List (String × Value)
  deriving Repr

namespace DecisionRequest

/-- The path, then its segments; slashes in front do not count, however many
there are. So a rule of the server may look at the whole or at a part. -/
def pathList (path : String) : List String :=
  path ::
    ((Text.dropLeading '/' path.toList).splitOn '/').map String.ofList

/-- The host and the port of an authority. -/
def authorityParts (uri : Uri) : List (String × String) :=
  match uri.authority? with
  | none => []
  | some authority =>
    ("host", Uri.host authority) ::
      match Uri.port? authority with
      | some port => [("port", port)]
      | none => []

/-- The headers that are shown: the id of the request, empty where there is
none, and the authorization where there is one. The server relies on the first to
be there, and an absent token is not the same as an empty one. -/
def shownHeaders (request : AccessRequest) : List (String × String) :=
  (requestIdHeader, (request.header? requestIdHeader).getD "") ::
    match request.header? authorizationHeader with
    | some token => [(authorizationHeader, token)]
    | none => []

/-- **Select the fields of a ruleset** from a body, in the order of the
ruleset; the first that fails is the cause, and those behind it are not looked
at. -/
def selectFields (body : Value) :
    List (String × String) → Except Failure (List (String × Value))
  | [] => .ok []
  | (field, path) :: rest =>
    match Json.select body path with
    | .error cause => .error (.extraction field path cause)
    | .ok part => (selectFields body rest).map ((field, part) :: ·)

/-- **Build the decision request** for a request under a ruleset. -/
def build (request : AccessRequest) (ruleset : Ruleset) (body : Value) :
    Except Failure DecisionRequest :=
  match Uri.parse request.fullUrl with
  | .error fault =>
    .error (.invalidRequest ("invalid URL " ++ Text.quoted request.fullUrl ++
      ": " ++ fault.message))
  | .ok uri =>
    (selectFields body ruleset.body.entries).map fun fields =>
      { method := request.method
        headers := shownHeaders request
        uri :=
          { schema := uri.scheme?.getD "http"
            authority := authorityParts uri
            path := pathList request.path
            query := uri.query?.getD "" }
        body := fields }

/-- **What a decision request is built of.** -/
theorem exists_of_build {request : AccessRequest} {ruleset : Ruleset}
    {body : Value} {decision : DecisionRequest}
    (h : build request ruleset body = .ok decision) :
    ∃ uri fields, Uri.parse request.fullUrl = .ok uri ∧
      selectFields body ruleset.body.entries = .ok fields ∧
      decision =
        { method := request.method
          headers := shownHeaders request
          uri :=
            { schema := uri.scheme?.getD "http"
              authority := authorityParts uri
              path := pathList request.path
              query := uri.query?.getD "" }
          body := fields } := by
  unfold build at h
  cases hparse : Uri.parse request.fullUrl with
  | error fault =>
    rw [hparse] at h
    cases h
  | ok uri =>
    rw [hparse] at h
    dsimp only at h
    cases hfields : selectFields body ruleset.body.entries with
    | error failure =>
      rw [hfields] at h
      cases h
    | ok fields =>
      rw [hfields] at h
      cases h
      exact ⟨uri, fields, rfl, rfl, rfl⟩

/-- An object of texts. -/
def textMembers (members : List (String × String)) : Value :=
  .object (members.map fun (name, value) => (name, .text value))

/-- The decision request as a JSON value. -/
def toJson (decision : DecisionRequest) : Value :=
  .object [("method", .text decision.method),
    ("headers", textMembers decision.headers),
    ("uri", .object [("schema", .text decision.uri.schema),
      ("authority", textMembers decision.uri.authority),
      ("path", Value.texts decision.uri.path),
      ("query", Query.toJson decision.uri.query)]),
    ("body", .object decision.body),
    ("meta", .object [("runtime_fine_tune", .object
      [("combined_multi_value", .boolean false)])])]

end DecisionRequest

end PolicyGateway.Policy
