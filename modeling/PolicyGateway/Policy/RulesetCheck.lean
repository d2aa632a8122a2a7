import PolicyGateway.Policy.DecisionRequest
import PolicyGateway.Policy.Principal
import PolicyGateway.Policy.Server
import PolicyGateway.Policy.Settings
import PolicyGateway.Route.Table

/-!
# The ruleset check

The second check asks about the very request. Method and path select a
ruleset; a request without one passes. The policy server is asked in one of
two dialects: with a decision request, which holds parts of the body, or
with the caller, the request and the ruleset as they are.

`preview?` gives the decision request that would be sent, without sending
it, for whoever writes rules and wants to see what they come to. It goes the same
way up to the point where the check would ask.
-/

namespace PolicyGateway.Policy

open PolicyGateway.Json (Value)

/-- **The rules of the ruleset check.** A rule is about a path, and perhaps
about one method. -/
structure RulesetRules where
  /-- The policy server. -/
  server : Server
  /-- The ruleset of each rule key. -/
  rulesets : Route.Table Ruleset

/-- **The ruleset check**, without rules if its section takes no part. -/
structure RulesetCheck where
  /-- The rules. -/
  rules : Option RulesetRules
  /-- The documents spoken with the server. -/
  dialect : Dialect

/-- **What the rules say of a request** before anyone is asked. Both dialects and
the preview start from it, so they agree on which ruleset applies. -/
inductive RulesetMatch where
  /-- It passes, for this reason. -/
  | skipped (reason : String)
  /-- The server has to be asked about this ruleset. -/
  | found (server : Server) (ruleset : Ruleset)

namespace RulesetCheck

/-- Why a check that takes no part allows. -/
def inactive : String := "fine-grain check skipped (no config)"

/-- Why a request without a ruleset passes. -/
def unmatched : String := "fine-grain check skipped (no matching rule)"

/-- **The check that a section of the settings describes.** -/
def ofSettings (settings : RulesetSettings) : RulesetCheck :=
  if settings.isActive then
    { rules := some
        { server :=
            { url := settings.validationUrl
              credentials := settings.credentials
              timeout := settings.timeout }
          rulesets := .ofList settings.resourceMap.entries }
      dialect := settings.dialect }
  else { rules := none, dialect := settings.dialect }

/-- Whether the check takes part. -/
def isActive (check : RulesetCheck) : Bool :=
  check.rules.isSome

/-- **Select the ruleset of a request.** -/
def select (check : RulesetCheck) (request : AccessRequest) :
    Except Failure RulesetMatch :=
  match check.rules with
  | none => .ok (.skipped inactive)
  | some rules =>
    match rules.rulesets.best? (some request.method) request.path with
    | .error ambiguity => .error (.ambiguous ambiguity)
    | .ok none => .ok (.skipped unmatched)
    | .ok (some (_, ruleset)) => .ok (.found rules.server ruleset)

/-- **The decision request that would be sent**, if one would be. -/
def preview? (check : RulesetCheck) (request : AccessRequest)
    (body : Value) : Except Failure (Option DecisionRequest) :=
  match check.select request with
  | .error failure => .error failure
  | .ok (.skipped _) => .ok none
  | .ok (.found _ ruleset) =>
    (DecisionRequest.build request ruleset body).map some

/-- **Check a request in the decision dialect.** -/
def runDecision (check : RulesetCheck) (network : Http.Network)
    (request : AccessRequest) (body : Value) : Outcome Verdict :=
  match check.select request with
  | .error failure => .silent (.error failure)
  | .ok (.skipped reason) => .silent (.ok (.allow reason))
  | .ok (.found server ruleset) =>
    match DecisionRequest.build request ruleset body with
    | .error failure => .silent (.error failure)
    | .ok decision => server.askDecision network decision.toJson

/-- The question of the generic dialect. -/
def question (principal : Principal) (request : AccessRequest)
    (ruleset : Ruleset) : Value :=
  .object [("principal", principal.toJson), ("request", request.toJson),
    ("rule", ruleset.toJson)]

/-- **Check a request in the generic dialect.** -/
def runGeneric (check : RulesetCheck) (network : Http.Network)
    (request : AccessRequest) (principal : Principal) : Outcome Verdict :=
  match check.select request with
  | .error failure => .silent (.error failure)
  | .ok (.skipped reason) => .silent (.ok (.allow reason))
  | .ok (.found server ruleset) =>
    server.askValidation network (question principal request ruleset)

/-- **Check a request** in the dialect of the settings. -/
def run (check : RulesetCheck) (network : Http.Network)
    (request : AccessRequest) (principal : Principal) (body : Value) :
    Outcome Verdict :=
  match check.dialect with
  | .decision => check.runDecision network request body
  | .generic => check.runGeneric network request principal

end RulesetCheck

end PolicyGateway.Policy
