import PolicyGateway.Policy.Failure
import PolicyGateway.Json.Printer
import PolicyGateway.Record.Fields

/-!
# Credentials for the policy server

The gateway may have to say who it is when it asks a policy server. The
settings name the method; there is one besides none, and a name that is
neither is an error, but only when a question is about to be asked. So a section
that takes no part may hold a name that is not known.

Credentials can be shown without giving the secret away: `describe` tells
only whether there is one.
-/

namespace PolicyGateway.Policy

open PolicyGateway.Json PolicyGateway.Record

/-- **Credentials** as the settings give them. How they are used is a name in
the settings, and one that is not known is only found out when a question is to
be sent. -/
structure Credentials where
  /-- The id of the gateway as a client. -/
  clientId : String := ""
  /-- Its secret. -/
  clientSecret : String := ""
  /-- The name of the way to authenticate. -/
  clientAuthMethod : String := ""
  deriving Repr, DecidableEq, Inhabited

/-- The ways to authenticate to a policy server. There are two, and one of them
is not to. -/
inductive ClientAuth where
  /-- Not at all. -/
  | anonymous
  /-- By id and secret in the authorization header. -/
  | basic
  deriving Repr, DecidableEq

/-- **The way to authenticate that a name stands for.** No name falls back to
another way: a gateway that is told to authenticate and cannot does not ask. -/
def ClientAuth.ofName (name : String) : Except Failure ClientAuth :=
  if name = "" then .ok anonymous
  else if name = "client_secret_basic" then .ok basic
  else .error (.unsupportedClientAuth name)

namespace Credentials

/-- Credentials that are sent in the authorization header. -/
def basic (clientId clientSecret : String) : Credentials :=
  { clientId, clientSecret, clientAuthMethod := "client_secret_basic" }

/-- The names of the fields, in their declared order. -/
def fieldNames : List String :=
  ["client_id", "client_secret", "client_auth_method"]

/-- The credentials among the fields of a section. -/
def ofFields? (fields : Fields) : Option Credentials := do
  let clientId ← fields.get? "client_id" Node.asText? ""
  let clientSecret ← fields.get? "client_secret" Node.asText? ""
  let clientAuthMethod ← fields.get? "client_auth_method" Node.asText? ""
  return { clientId, clientSecret, clientAuthMethod }

/-- The members that credentials give to a JSON object. -/
def members (credentials : Credentials) : List (String × Value) :=
  [("client_id", .text credentials.clientId),
    ("client_secret", .text credentials.clientSecret),
    ("client_auth_method", .text credentials.clientAuthMethod)]

/-- The credentials as a JSON value. -/
def toJson (credentials : Credentials) : Value :=
  .object credentials.members

/-- **Credentials without the secret**, for logs. That there is a secret is shown,
since its absence is a mistake that one looks for in a log. -/
def describe (credentials : Credentials) : String :=
  let secret := if credentials.clientSecret.isEmpty then "" else "[REDACTED]"
  "ClientCredentials \x7b client_id: " ++ Text.quoted credentials.clientId ++
    ", client_secret: " ++ Text.quoted secret ++
    ", client_auth_method: " ++ Text.quoted credentials.clientAuthMethod ++
    " \x7d"

end Credentials

end PolicyGateway.Policy
