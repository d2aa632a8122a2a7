import PolicyGateway.Gateway.Settings
import PolicyGateway.Http.Headers
import PolicyGateway.Policy.Principal

/-!
# Identifying the caller

The layer that authenticates callers puts the caller into a header that is
trusted. A request without it is made by the anonymous caller, unless the
settings refuse that. A header that is there and names no caller is always
refused: it was meant to say who calls, and to go on without it would be to treat
somebody as nobody.

Why a header is refused is told to the client. Where it is the document in it that
cannot be read, the words of the JSON library follow behind a colon; they are left
out here.
-/

namespace PolicyGateway.Gateway

open PolicyGateway.Http PolicyGateway.Policy

/-- **The caller of a request**, by the first field of the configured
name. -/
def callerOf (headers : Headers) (settings : IdentitySettings) :
    Except Failure Principal :=
  match (fieldName? settings.principalHeader).bind headers.first? with
  | none =>
    if settings.requirePrincipal then
      .error (.unauthenticated
        ("missing " ++ settings.principalHeader ++ " header"))
    else .ok {}
  | some value =>
    match fieldText? value with
    | none => .error (.unauthenticated "caller identity is not valid UTF-8")
    | some text =>
      match (Json.readText? text).bind Principal.ofNode? with
      | none => .error (.unauthenticated "invalid caller identity")
      | some principal => .ok principal

end PolicyGateway.Gateway
