import PolicyGateway.Json.Printer

/-!
# Liveness and readiness

A gateway that answers at all is alive. It is ready once it accepts
connections, provided that at least one of the two checks takes part.

Which checks take part is written down here when the service is made. The checks
themselves know it too (`ResourceCheck.isActive`, `RulesetCheck.isActive`), and
after an exchange the two may say different things.
-/

namespace PolicyGateway.Gateway

open PolicyGateway.Json

/-- The version of the gateway. -/
def version : String := "0.1.0"

/-- **The state that readiness depends on.** It is made when the service is, and
says of the checks what was true then. -/
structure Status where
  /-- Whether connections are accepted. -/
  ready : Bool := false
  /-- Whether the resource check takes part. -/
  resources : Bool
  /-- Whether the ruleset check takes part. -/
  rulesets : Bool
  deriving Repr, DecidableEq

/-- The result of one readiness check. It is told by name, so that whoever asks
can see which one failed. -/
structure ReadinessCheck where
  /-- Its name. -/
  name : String
  /-- Whether it passed. -/
  passed : Bool
  /-- What it looked at. -/
  message : String
  deriving Repr, DecidableEq

namespace Status

/-- The name of a truth value. -/
def truthName (b : Bool) : String := if b then "true" else "false"

/-- **The readiness checks.** -/
def checks (status : Status) : List ReadinessCheck :=
  [{ name := "listener", passed := status.ready,
     message := "accepting connections" },
    { name := "authorization", passed := status.resources || status.rulesets,
      message := "coarse=" ++ truthName status.resources ++ " fine_grain=" ++
        truthName status.rulesets }]

/-- **Whether the gateway is ready**: all checks pass. -/
def isReady (status : Status) : Bool :=
  status.checks.all (·.passed)

/-- The readiness as a JSON value. -/
def readinessJson (status : Status) : Value :=
  .object [("status", .text (if status.isReady then "ready" else "not_ready")),
    ("checks", .array (status.checks.map fun check =>
      .object [("name", .text check.name), ("passed", .boolean check.passed),
        ("message", .text check.message)]))]

/-- The name of the state of being alive. -/
def liveness : String := "healthy"

/-- The liveness as a JSON value, after so many seconds. -/
def livenessJson (uptimeSeconds : Nat) : Value :=
  .object [("status", .text liveness),
    ("uptime_seconds", .natural uptimeSeconds), ("version", .text version)]

end Status

end PolicyGateway.Gateway
