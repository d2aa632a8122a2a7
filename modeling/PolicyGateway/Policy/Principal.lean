import PolicyGateway.Json.Printer
import PolicyGateway.Record.Fields

/-!
# Principals

The caller on whose behalf a request is made has been authenticated before
the request reaches the gateway. All that is known of it are three texts,
any of which may be empty; without a user id the caller is anonymous. Whoever put
the caller into the request is trusted, so nothing of it is checked here.
-/

namespace PolicyGateway.Policy

open PolicyGateway.Json PolicyGateway.Record

/-- **An authenticated caller.** The default is the anonymous one. The gateway
takes it from a header as it is; to authenticate it was the business of whoever
wrote that. -/
structure Principal where
  /-- The stable id of the user. -/
  userId : String := ""
  /-- The login name. -/
  username : String := ""
  /-- The email address. -/
  email : String := ""
  deriving Repr, DecidableEq, Inhabited

namespace Principal

/-- **Whether the caller is anonymous**: it has no user id. -/
def isAnonymous (principal : Principal) : Bool :=
  principal.userId.isEmpty

/-- How logs name the caller; never by its email address. -/
def logId (principal : Principal) : String :=
  if principal.isAnonymous then "anonymous" else "user:" ++ principal.userId

/-- Read a caller from a document. -/
def ofNode? (node : Node) : Option Principal := do
  let fields ← Fields.ofNode? .json ["user_id", "username", "email"] node
  let userId ← fields.get? "user_id" Node.asText? ""
  let username ← fields.get? "username" Node.asText? ""
  let email ← fields.get? "email" Node.asText? ""
  return { userId, username, email }

/-- The caller as a JSON value. -/
def toJson (principal : Principal) : Value :=
  .object [("user_id", .text principal.userId),
    ("username", .text principal.username),
    ("email", .text principal.email)]

end Principal

end PolicyGateway.Policy
