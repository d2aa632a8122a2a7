import PolicyGateway.Policy.Gate

/-!
# Traffic at the gate

Requests do not wait for each other, and the checks may be exchanged while
some of them are on their way. An authorization is made in four steps: it
takes hold of the checks in force, each of the two checks comes to its end,
and the outcomes are combined. Between any two steps anything else may
happen, and the partners may have changed.

Traffic is the gate with what has become of each authorization so far, and a
history is what happens, in order. Every history is allowed: a step that is
out of turn changes nothing.

This is how requests at the same time are spoken of without clocks or threads. Any
schedule of the real ones is some history, so what holds of all histories holds of
them; what is added is only histories that no schedule has.
-/

namespace PolicyGateway.Policy

open PolicyGateway.Json (Value)

/-- **What the gate is asked about.** It stays the same for as long as the
authorization takes. -/
structure Inquiry where
  /-- The request. -/
  request : AccessRequest
  /-- The caller. -/
  principal : Principal := {}
  /-- The body. -/
  body : Value := .null

namespace Checks

/-- **Combine two outcomes**, which may have been reached at different times. -/
def conclude (resources rulesets : Outcome Verdict) : Authorization :=
  { resourceCalls := resources.calls
    rulesetCalls := rulesets.calls
    result := combine resources.result rulesets.result }

/-- **Authorize between two states of the partners**: each check meets its
own. -/
def authorizeAmid (checks : Checks) (resources rulesets : Http.Network)
    (inquiry : Inquiry) : Authorization :=
  conclude
    (checks.resources.run resources inquiry.request inquiry.principal)
    (checks.rulesets.run rulesets inquiry.request inquiry.principal
      inquiry.body)

/-- Where the partners do not change, this is to authorize. -/
theorem authorizeAmid_self (checks : Checks) (network : Http.Network)
    (inquiry : Inquiry) :
    checks.authorizeAmid network network inquiry
      = checks.authorize network inquiry.request inquiry.principal
        inquiry.body :=
  rfl

end Checks

/-- **An authorization that is being made.** It holds the checks that it began
with, so an exchange does not reach it any more. -/
structure Pending where
  /-- The checks that were in force when it began. -/
  checks : Checks
  /-- What it is about. -/
  inquiry : Inquiry
  /-- The outcome of the resource check, once it is there. -/
  resources : Option (Outcome Verdict) := none
  /-- The outcome of the ruleset check, once it is there. -/
  rulesets : Option (Outcome Verdict) := none

/-- **A step of an authorization.** Between two of them anything else may
happen. -/
inductive Move where
  /-- It takes hold of the checks in force. -/
  | enter (inquiry : Inquiry)
  /-- The resource check comes to its end. -/
  | resources (network : Http.Network)
  /-- The ruleset check comes to its end. -/
  | rulesets (network : Http.Network)
  /-- The outcomes are combined. -/
  | combine

/-- **How far an authorization has come.** From beginning to end it only goes
forward. -/
inductive Progress where
  /-- It has not begun. -/
  | idle
  /-- It is being made. -/
  | running (pending : Pending)
  /-- It has come to its end. -/
  | finished (authorization : Authorization)

namespace Pending

/-- The resource check comes to its end, once. A second time changes nothing, so
that each check has one outcome however often a history says that it ends. -/
def answerResources (pending : Pending) (network : Http.Network) : Pending :=
  { pending with
    resources := pending.resources.or (some (pending.checks.resources.run
      network pending.inquiry.request pending.inquiry.principal)) }

/-- The ruleset check comes to its end, once. -/
def answerRulesets (pending : Pending) (network : Http.Network) : Pending :=
  { pending with
    rulesets := pending.rulesets.or (some (pending.checks.rulesets.run
      network pending.inquiry.request pending.inquiry.principal
      pending.inquiry.body)) }

/-- Combine the outcomes, if both are there. -/
def combine (pending : Pending) : Progress :=
  match pending.resources, pending.rulesets with
  | some resources, some rulesets =>
    .finished (Checks.conclude resources rulesets)
  | _, _ => .running pending

end Pending

/-- **One step further**, where these checks are in force. -/
def Progress.move (inForce : Checks) : Progress → Move → Progress
  | .idle, .enter inquiry => .running { checks := inForce, inquiry }
  | .running pending, .resources network =>
    .running (pending.answerResources network)
  | .running pending, .rulesets network =>
    .running (pending.answerRulesets network)
  | .running pending, .combine => pending.combine
  | progress, _ => progress

/-- **What may happen at the gate.** It is either somebody's step or an
exchange, and never both. -/
inductive Event where
  /-- The checks are exchanged. -/
  | reload (settings : Settings)
  /-- An authorization takes a step. -/
  | move (id : Nat) (move : Move)

/-- **The gate and its traffic.** An authorization is known by a number, which
nobody else has. -/
structure Traffic where
  /-- The gate. -/
  gate : Gate
  /-- How far each authorization has come. -/
  progress : Nat → Progress := fun _ => .idle

namespace Traffic

/-- **One event more.** -/
def step (traffic : Traffic) : Event → Traffic
  | .reload settings =>
    { traffic with gate := (traffic.gate.reload settings).1 }
  | .move id move =>
    { traffic with
      progress := fun other =>
        if other = id then
          (traffic.progress id).move traffic.gate.checks move
        else traffic.progress other }

/-- **All events of a history**, in order. -/
def run (traffic : Traffic) (history : List Event) : Traffic :=
  history.foldl step traffic

/-- **The settings that were accepted** by the exchanges of a history, in
order. -/
def accepted (traffic : Traffic) : List Event → List Settings
  | [] => []
  | .move id move :: rest => (traffic.step (.move id move)).accepted rest
  | .reload settings :: rest =>
    let later := (traffic.step (.reload settings)).accepted rest
    match (traffic.gate.reload settings).2 with
    | .ok () => settings :: later
    | .error _ => later

end Traffic

end PolicyGateway.Policy
