import PolicyGateway.Http.Client
import PolicyGateway.Policy.Answer
import PolicyGateway.Policy.Credentials
import PolicyGateway.Policy.Failure
import PolicyGateway.Duration

/-!
# Asking a policy server

A question is a JSON document that is posted once. Before anything is sent
it has to be clear how to authenticate. An answer counts only with a status
of success, within a limit on its length, and if it can be read; everything
else is a failure, and a failure is never a verdict.

The limit holds for the length that is declared and for the bytes that
arrive, whatever the pieces they come in. It bounds what a server can make the
gateway hold, and so it may not depend on what the server says of itself.

The question is handed to a client that follows references, and an answer that
refers elsewhere takes the question there. The result is that of the last answer.
-/

namespace PolicyGateway.Policy

open PolicyGateway.Json (Value)

/-- **What came of asking**: the requests that arrived somewhere, in order, and
the result. The requests are kept although they are no part of the result: what
was sent, and to whom, is a matter of its own. -/
structure Outcome (α : Type) where
  /-- The requests that arrived. -/
  calls : List Http.Request
  /-- The result. -/
  result : Except Failure α

namespace Outcome

/-- An outcome without a call. -/
def silent {α : Type} (result : Except Failure α) : Outcome α :=
  ⟨[], result⟩

end Outcome

/-- **A policy server** as the settings of a section name it. Each section has
its own, even if both name the same one. -/
structure Server where
  /-- The address that questions are posted to. -/
  url : String
  /-- How the gateway authenticates. -/
  credentials : Credentials
  /-- The time for one question. -/
  timeout : Duration
  deriving Repr, DecidableEq

namespace Server

/-- The greatest length of an answer, in bytes. -/
def greatestAnswer : Nat := 1024 * 1024

/-- The headers of a question. Without an id the gateway does not
authenticate, even where the settings name a way to. -/
def headers (server : Server) (auth : ClientAuth) : Http.Headers :=
  let described := Http.Headers.set {} "content-type"
    (Text.Utf8.bytes "application/json")
  if auth = .basic ∧ ¬server.credentials.clientId.isEmpty then
    described.set "authorization" (Http.Client.basicAuthorization
      server.credentials.clientId server.credentials.clientSecret)
  else described

/-- The bytes of a body within the limit. One that breaks off in front of the
limit is a failure of the connection, not of the server. -/
def readBody (body : Http.Body) : Except Failure (List UInt8) :=
  match Http.Body.readPieces greatestAnswer [] body.pieces with
  | none => .error (.tooLarge greatestAnswer)
  | some bs => if body.whole then .ok bs else .error .unreachable

/-- **Read an answer.** The status is looked at first: what an error page says is
not read, however much it looks like an answer. -/
def readAnswer {α : Type} (endpoint : Endpoint)
    (read : List UInt8 → Option α) (response : Http.Response) :
    Except Failure α :=
  if !response.isSuccess then
    .error (.unexpectedStatus response.status endpoint)
  else if response.declaredLength.any (greatestAnswer < ·) then
    .error (.tooLarge greatestAnswer)
  else
    match readBody response.body with
    | .error failure => .error failure
    | .ok bs =>
      match read bs with
      | some answer => .ok answer
      | none => .error .undecodable

/-- **Ask a question.** Where the way to authenticate is not known, nothing is
sent. -/
def ask {α : Type} (server : Server) (network : Http.Network)
    (endpoint : Endpoint) (question : Value)
    (read : List UInt8 → Option α) : Outcome α :=
  match ClientAuth.ofName server.credentials.clientAuthMethod with
  | .error failure => .silent (.error failure)
  | .ok auth =>
    let exchange := Http.Client.send network "POST" server.url
      (server.headers auth) (Text.Utf8.bytes question.toText)
    { calls := exchange.arrived
      result :=
        match exchange.response with
        | none => .error .unreachable
        | some response => readAnswer endpoint read response }

/-- Ask for an answer in the decision dialect. -/
def askDecision (server : Server) (network : Http.Network)
    (question : Value) : Outcome Verdict :=
  let outcome := server.ask network .decision question DecisionAnswer.ofBytes?
  ⟨outcome.calls, outcome.result.map DecisionAnswer.verdict⟩

/-- Ask for an answer of allow and reason. -/
def askValidation (server : Server) (network : Http.Network)
    (question : Value) : Outcome Verdict :=
  let outcome := server.ask network .validation question
    ValidationAnswer.ofBytes?
  ⟨outcome.calls, outcome.result.map ValidationAnswer.verdict⟩

end Server

end PolicyGateway.Policy
