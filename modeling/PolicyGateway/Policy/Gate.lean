import PolicyGateway.Policy.ResourceCheck
import PolicyGateway.Policy.RulesetCheck

/-!
# The gate

A request passes the gate if both checks allow it. Both are always made, and
each to its end, so what the policy servers see does not depend on which of
them answers first. A failure weighs more than a denial, and the resource
check is looked at first.

They run at the same time, so neither can spare the other one its question: a
request that the resource check denies is asked about by the ruleset check all
the same.

The checks can be exchanged while the gateway runs. New checks come from one
settings value and replace the old ones as a pair, so that no request is ever
judged by the resources of one file and the rulesets of another; settings that
are invalid change nothing.

The pair is made of settings alone, and making it cannot fail here. A running
gateway also makes an HTTP client for each policy server, and a system may refuse
that, for want of a store of trusted certificates, say. Such a refusal is reported
like invalid settings and leaves the old pair in place as well. It depends on
nothing that settings or requests say, and it is left out.
-/

namespace PolicyGateway.Policy

open PolicyGateway.Json (Value)

/-- **A pair of checks** from the same settings. It is one value, so that it is
taken hold of and exchanged as a whole. -/
structure Checks where
  /-- The resource check. -/
  resources : ResourceCheck
  /-- The ruleset check. -/
  rulesets : RulesetCheck

/-- **What came of authorizing a request.** The requests that were sent are kept
apart by the check that sent them, since the two are made at the same time and
there is no order between them. -/
structure Authorization where
  /-- The requests that the resource check sent. -/
  resourceCalls : List Http.Request
  /-- The requests that the ruleset check sent. -/
  rulesetCalls : List Http.Request
  /-- The verdict, or why there is none. -/
  result : Except Failure Verdict

namespace Authorization

/-- All requests that were sent. -/
def calls (authorization : Authorization) : List Http.Request :=
  authorization.resourceCalls ++ authorization.rulesetCalls

end Authorization

namespace Checks

/-- The checks that settings describe. -/
def ofSettings (settings : Settings) : Checks :=
  { resources := .ofSettings settings.resources
    rulesets := .ofSettings settings.rulesets }

/-- The reason of a denial that gives none, for the resource check. -/
def resourceDenial : String := "coarse authorization denied"

/-- The reason of a denial that gives none, for the ruleset check. -/
def rulesetDenial : String := "fine-grain authorization denied"

/-- A reason, or another one if it is empty. -/
def reasonOr (reason usual : String) : String :=
  if reason.isEmpty then usual else reason

/-- **The verdict of two checks.** A failure comes before any denial: a gateway
that cannot ask does not know, and says so. The reason of an allowance is the one
of the ruleset check, the more specific of the two. -/
def combine (resources rulesets : Except Failure Verdict) :
    Except Failure Verdict :=
  match resources, rulesets with
  | .error failure, _ => .error failure
  | .ok _, .error failure => .error failure
  | .ok resource, .ok ruleset =>
    if !resource.allowed then
      .ok (.deny (reasonOr resource.reason resourceDenial))
    else if !ruleset.allowed then
      .ok (.deny (reasonOr ruleset.reason rulesetDenial))
    else .ok (.allow ruleset.reason)

/-- **Authorize a request.** -/
def authorize (checks : Checks) (network : Http.Network)
    (request : AccessRequest) (principal : Principal) (body : Value) :
    Authorization :=
  let resources := checks.resources.run network request principal
  let rulesets := checks.rulesets.run network request principal body
  { resourceCalls := resources.calls
    rulesetCalls := rulesets.calls
    result := combine resources.result rulesets.result }

end Checks

/-- **The gate**: the checks that are in force. An authorization takes hold of
the checks when it begins, so an exchange is for those that come later. -/
structure Gate where
  /-- The checks. -/
  checks : Checks

namespace Gate

/-- **The gate for valid settings.** Validity is all that it depends on; the
clients that a running gateway makes for the servers are left out. -/
def ofSettings (settings : Settings) : Except Failure Gate :=
  settings.validate.map fun _ => ⟨.ofSettings settings⟩

/-- **Exchange the checks.** Invalid settings leave them as they are: a gateway
with old rules is better than one with none. -/
def reload (gate : Gate) (settings : Settings) : Gate × Except Failure Unit :=
  match ofSettings settings with
  | .ok renewed => (renewed, .ok ())
  | .error failure => (gate, .error failure)

/-- Authorize a request by the checks in force. -/
def authorize (gate : Gate) (network : Http.Network)
    (request : AccessRequest) (principal : Principal) (body : Value) :
    Authorization :=
  gate.checks.authorize network request principal body

end Gate

end PolicyGateway.Policy
