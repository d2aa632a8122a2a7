import PolicyGateway.Json.Printer
import PolicyGateway.Policy.Failure

/-!
# Failures of the gateway

Whatever keeps the gateway from relaying an answer is a failure, and the
client gets it as a status and a small JSON body. The body says which
category of failure it was and gives a message that is safe to show: of a
failed check it tells no more than the refusal of the policy server.

A denial and a failed check get the same status: to a client both mean that the
request may not proceed.

The texts are those of the gateway itself. Where a library reports a fault, such
as a connection that breaks off, its words follow behind a colon; they are not
part of the model.
-/

namespace PolicyGateway.Gateway

open PolicyGateway.Json

/-- What a client is told of a failed check that has no reason of its
own. -/
def authorizationError : String := "authorization error"

/-- **Why the gateway does not relay an answer**, or does not start. -/
inductive Failure where
  /-- The settings are at fault. -/
  | settings (message : String)
  /-- The caller is missing or cannot be read. -/
  | unauthenticated (message : String)
  /-- The request body is longer than the limit. -/
  | payloadTooLarge (limit : Nat)
  /-- The request cannot be read. -/
  | badRequest (message : String)
  /-- The checks deny the request, with this reason. -/
  | denied (reason : String)
  /-- A check came to no verdict. -/
  | authorization (cause : Policy.Failure)
  /-- The backend service gave no answer. -/
  | backend (message : String)
  /-- The server could not start. -/
  | server (message : String)
  /-- The system refused an operation. -/
  | io (message : String)
  deriving Repr, DecidableEq

namespace Failure

/-- **The status that a client gets.** -/
def status : Failure → Nat
  | settings _ => 500
  | unauthenticated _ => 401
  | payloadTooLarge _ => 413
  | badRequest _ => 400
  | denied _ => 403
  | authorization _ => 403
  | backend _ => 502
  | server _ => 500
  | io _ => 500

/-- **The category of a failure**; of a failed check, its kind. -/
def category : Failure → String
  | settings _ => "config"
  | unauthenticated _ => "unauthenticated"
  | payloadTooLarge _ => "payload_too_large"
  | badRequest _ => "bad_request"
  | denied _ => "authorization"
  | authorization cause => cause.kind.label
  | backend _ => "upstream"
  | server _ => "server"
  | io _ => "io"

/-- The wording of a failure, for logs. -/
def message : Failure → String
  | settings text => "Configuration error: " ++ text
  | unauthenticated text => "Unauthenticated: " ++ text
  | payloadTooLarge limit =>
    "Request body exceeds " ++ toString limit ++ " bytes"
  | badRequest text => "Bad request: " ++ text
  | denied reason => "Authorization denied: " ++ reason
  | authorization cause => "Authorization failed: " ++ cause.message
  | backend text => "Upstream error: " ++ text
  | server text => "Server error: " ++ text
  | io text => "I/O error: " ++ text

/-- **The wording for a client.** -/
def clientMessage : Failure → String
  | denied reason => reason
  | authorization cause => cause.reason?.getD authorizationError
  | failure => failure.message

end Failure

/-- **The JSON body of an error.** It names the category of a failure, so that a
client can tell what to do about it without having to read the message. -/
structure ErrorBody where
  /-- The category. -/
  error : String
  /-- The wording. -/
  message : String
  /-- The id of the request, where there is one. -/
  requestId : Option String := none
  deriving Repr, DecidableEq

namespace ErrorBody

/-- The body for a failure. -/
def ofFailure (failure : Failure) (requestId : Option String) : ErrorBody :=
  { error := failure.category, message := failure.clientMessage, requestId }

/-- The body as a JSON value; without an id it has no such member. -/
def toJson (body : ErrorBody) : Value :=
  .object ([("error", .text body.error), ("message", .text body.message)] ++
    match body.requestId with
    | some id => [("request_id", .text id)]
    | none => [])

/-- The body as a line of text. -/
def display (body : ErrorBody) : String :=
  "[" ++ body.error ++ "] " ++ body.message

end ErrorBody

end PolicyGateway.Gateway
