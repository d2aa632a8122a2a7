import PolicyGateway.Policy.AccessRequest
import PolicyGateway.Policy.Principal
import PolicyGateway.Policy.Server
import PolicyGateway.Policy.Settings
import PolicyGateway.Route.Table

/-!
# The resource check

The first check asks whether the resource that a path belongs to may be
reached at all. The method does not count. A path without a resource is
decided here, by the setting for anonymous access; otherwise the policy
server is asked.

A check that takes no part allows. It can only be one of the two, since settings
in which neither takes part are not accepted, and so the other one decides.
-/

namespace PolicyGateway.Policy

open PolicyGateway.Json (Value)

/-- **The rules of the resource check.** They are there only if the section
takes part. -/
structure ResourceRules where
  /-- The policy server. -/
  server : Server
  /-- The resource of each path pattern. -/
  resources : Route.Table String
  /-- Whether a path without a resource may pass. -/
  anonymousAccess : Bool

/-- **The resource check**, without rules if its section takes no part. Whether it
does is settled once, when the check is made, and not at each request. -/
structure ResourceCheck where
  /-- The rules. -/
  rules : Option ResourceRules

namespace ResourceCheck

/-- Why a check that takes no part allows. -/
def inactive : String := "coarse check skipped (no config)"

/-- Why a path without a resource may pass. -/
def unmatchedAllowed : String :=
  "coarse check allowed (no matching resource; anonymous_access=true)"

/-- Why a path without a resource may not pass. -/
def unmatchedDenied : String :=
  "coarse check denied (no matching resource)"

/-- **The check that a section of the settings describes.** -/
def ofSettings (settings : ResourceSettings) : ResourceCheck :=
  if settings.isActive then
    ⟨some
      { server :=
          { url := settings.validationUrl
            credentials := settings.credentials
            timeout := settings.timeout }
        resources := .ofList settings.resourceMap.entries
        anonymousAccess := settings.anonymousAccess }⟩
  else ⟨none⟩

/-- Whether the check takes part. -/
def isActive (check : ResourceCheck) : Bool :=
  check.rules.isSome

/-- **The question about a resource.** Besides the caller and the request it tells
the server whether anonymous access is on. -/
def question (principal : Principal) (request : AccessRequest)
    (resource : String) (anonymousAccess : Bool) : Value :=
  .object [("principal", principal.toJson), ("request", request.toJson),
    ("resource", .text resource),
    ("anonymous_access", .boolean anonymousAccess)]

/-- **Check a request.** -/
def run (check : ResourceCheck) (network : Http.Network)
    (request : AccessRequest) (principal : Principal) : Outcome Verdict :=
  match check.rules with
  | none => .silent (.ok (.allow inactive))
  | some rules =>
    match rules.resources.best? none request.path with
    | .error ambiguity => .silent (.error (.ambiguous ambiguity))
    | .ok none =>
      .silent (.ok
        (if rules.anonymousAccess then .allow unmatchedAllowed
        else .deny unmatchedDenied))
    | .ok (some (_, resource)) =>
      rules.server.askValidation network
        (question principal request resource rules.anonymousAccess)

end ResourceCheck

end PolicyGateway.Policy
