import PolicyGateway.Gateway.Service

/-!
# A run of the service

While the service runs, requests come in and its checks are exchanged, in
any order. A session is the service with its counters, and each event takes
it to the next session. Partners and circumstances may be different at every
event, so they are part of it.

Only requests change the counters, and among them none at the service's own
paths. Counting comes after handling and looks only at what came of it, so a
request is answered alike whatever has been counted before.
-/

namespace PolicyGateway.Gateway

open PolicyGateway.Http

/-- **The service with its counters.** This is all the state there is between
two requests: what is in force, and what was counted. -/
structure Session where
  /-- The service. -/
  service : Service
  /-- The counters. -/
  counters : Counters := {}

/-- **What may happen while the service runs.** A request brings its network and
its moment along, so that a run leaves open what the partners do in between. -/
inductive Event where
  /-- The checks are exchanged. -/
  | reload (settings : Policy.Settings)
  /-- A request comes in. -/
  | request (network : Network) (moment : Moment) (inbound : Inbound)

/-- **What came of an event.** Every event has one, at the same place in its
list. -/
inductive Effect where
  /-- The checks have been exchanged, or not. -/
  | reloaded (result : Except Policy.Failure Unit)
  /-- A request has been handled. -/
  | handled (handling : Handling)

namespace Session

/-- **A session that accepts requests.** -/
def start (service : Service) : Session :=
  { service := service.accepting }

/-- The counters after a request has been handled. -/
def counted (counters : Counters) (method : String) (handling : Handling) :
    Counters :=
  match handling.processing with
  | none => counters
  | some processing =>
    let counters := counters.addRequest method handling.response.status
    match processing.decision with
    | some decision => counters.addDecision decision
    | none => counters

/-- **One event more.** -/
def step (session : Session) : Event → Session × Effect
  | .reload settings =>
    let (service, result) := session.service.reload settings
    ({ session with service }, .reloaded result)
  | .request network moment inbound =>
    let handling := session.service.handle network moment inbound
    ({ session with
        counters := counted session.counters inbound.method handling },
      .handled handling)

/-- **All events**, in order, with what came of each. -/
def run (session : Session) : List Event → Session × List Effect
  | [] => (session, [])
  | event :: rest =>
    let (next, effect) := session.step event
    let (last, effects) := next.run rest
    (last, effect :: effects)

end Session

end PolicyGateway.Gateway
