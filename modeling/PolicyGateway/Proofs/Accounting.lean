import Mathlib.Algebra.BigOperators.Finprod
import PolicyGateway.Proofs.FailClosed
import PolicyGateway.Proofs.JsonText

/-!
# What the counters account for

Two things are counted, at two places: a request where it is answered, and
what the checks came to where they were made. Neither place looks at the other
one, nor at what the client is told. Still the counters say, after every run,
how many requests were forwarded, how many were refused and for what
(`run_accounts`).

That they do is a matter of each request on its own. `Served.Ends` says how
the processing of a request can end: in front of the checks, with a check that
failed, with a denial, or behind a forwarding. Each way has its own decision
or none, its own part of the forwardings and its own refusal, and no two ways
share one. So what is counted is settled by one list, that of the requests and
how each of them ended, and a run only makes the list longer
(`Session.counted_run`).

A refusal is told by what the client reads: a status of 403 with a JSON body
that says the category of the failure. An answer of the backend service may
look the same; it is relayed and no refusal of the gateway.
-/

namespace PolicyGateway

/-- **A list is counted out by what it gives**: the occurrences of each value,
all together, are the items that give one. -/
theorem finsum_countP_eq_some {α β : Type} [DecidableEq β] (give : α → Option β)
    (items : List α) :
    ∑ᶠ b, items.countP (fun a => give a = some b)
      = items.countP fun a => (give a).isSome := by
  induction items with
  | nil => simp
  | cons a rest ih =>
    have hrest : (Function.support fun b =>
        rest.countP fun a => give a = some b).Finite := by
      refine (rest.filterMap give).toFinset.finite_toSet.subset fun b hb => ?_
      obtain ⟨a, ha, hgives⟩ := List.countP_pos_iff.1 (Nat.pos_of_ne_zero hb)
      simpa using ⟨a, ha, by simpa using hgives⟩
    have hself : ∑ᶠ b, (if give a = some b then 1 else 0)
        = if (give a).isSome then 1 else 0 := by
      cases give a with
      | none => simp
      | some found =>
        rw [finsum_eq_single _ found fun b hb => by simp [hb.symm]]
        simp
    have hhead : (Function.support fun b =>
        if give a = some b then 1 else 0).Finite := by
      refine (give a).toFinset.finite_toSet.subset fun b hb => ?_
      simpa using hb
    simp only [List.countP_cons, decide_eq_true_eq]
    rw [finsum_add_distrib hrest hhead, ih, hself]

namespace Gateway

open PolicyGateway.Http PolicyGateway.Policy
open PolicyGateway.Json (Value)

/-! ## Requests and how they end

A request alone does not say how it ends: that depends on the settings in force
when it arrives, on the partners, and on what the service makes up for it.
`Served` keeps them together, so that a list of requests is enough to say
afterwards what became of each one. What follows reads this off the request,
without a look at any counter. -/

/-- **A request and the service that it met.** A reload may come between two
requests, so the service that started is not always the one that answers; and
two requests that are the same may be answered differently, because the partners
are. -/
structure Served where
  /-- The service, with the checks in force. -/
  service : Service
  /-- The partners. -/
  network : Network
  /-- The circumstances. -/
  moment : Moment
  /-- The request. -/
  inbound : Inbound

/-- **The category of the error** that a body tells, as a client reads it. It
goes by the bytes of the body alone, since that is all a client has; whether the
gateway meant them as an error is a question of its own. -/
def errorTold? (body : List UInt8) : Option String :=
  (Value.ofBytes? body).bind (Value.textMember? "error")

/-- **A body that tells an error** is read as what it tells. -/
theorem errorTold?_toText (body : ErrorBody) :
    errorTold? (Text.Utf8.bytes body.toJson.toText) = some body.error := by
  have hfits : body.toJson.fits Json.greatestDepth = true := by
    refine Value.fits_object ?_
    cases body.requestId <;> simp
  have hlast : body.toJson.inOrder.member? "error"
      = some (.text body.error) := by
    unfold ErrorBody.toJson
    rw [Value.member?_inOrder]
    cases body.requestId <;> simp [Value.lookup_cons_eq, Value.inOrder]
  unfold errorTold? Value.textMember?
  rw [Value.ofBytes?_toText hfits, Option.bind_some, hlast]

namespace Served

/-- The id that a request goes by. -/
def id (served : Served) : String :=
  idOf served.moment served.inbound

/-- **What the service does about a request.** -/
def handling (served : Served) : Handling :=
  served.service.handle served.network served.moment served.inbound

/-- Whether a request is at one of the gateway's own paths. -/
def isInternal (served : Served) : Bool :=
  Service.isInternal served.inbound.uri.path

/-- What is read as the body of a request. -/
def readBody (served : Served) : Except Failure (List UInt8) :=
  Service.readBody served.service.bodyLimit served.inbound.headers
    served.inbound.body

/-- **A request that is answered** as one of this method with this status. The
gateway's own paths are left out: what is asked there is about the gateway, and
it is not counted. -/
def IsAnswered (served : Served) (method : String) (status : Nat) : Prop :=
  served.isInternal = false ∧ served.inbound.method = method ∧
    served.handling.response.status = status

instance (served : Served) (method : String) (status : Nat) :
    Decidable (served.IsAnswered method status) :=
  inferInstanceAs (Decidable (_ ∧ _ ∧ _))

/-- The status that a request is answered with, if it is one of this method. A
request has one status at most, so counting requests by status counts none
twice. -/
def statusUnder? (served : Served) (method : String) : Option Nat :=
  if served.isInternal = false ∧ served.inbound.method = method then
    some served.handling.response.status
  else none

theorem isAnswered_iff {served : Served} {method : String} {status : Nat} :
    served.IsAnswered method status
      ↔ served.statusUnder? method = some status := by
  simp [IsAnswered, statusUnder?, and_assoc]

/-- **A request whose caller is identified and whose body is read.** Behind it
come the checks, whatever they come to. A request that is not read was never
judged. -/
def IsRead (served : Served) : Prop :=
  served.isInternal = false ∧
    (callerOf served.inbound.headers
      served.service.settings.identity).isOk = true ∧
    served.readBody.isOk = true

instance (served : Served) : Decidable served.IsRead :=
  inferInstanceAs (Decidable (_ ∧ _ ∧ _))

/-- What the checks in force come to for a request that is read. -/
def authorization (served : Served) (principal : Principal)
    (body : List UInt8) : Authorization :=
  served.service.gate.authorize served.network
    (Service.accessRequest served.inbound served.id) principal
    (Service.bodyValue body)

/-- What a call of the forwarder for a request comes to. -/
def forwarding (served : Served) (body : List UInt8) : Forwarded :=
  served.service.forwarder.forward served.network served.inbound.method
    (Service.targetOf served.inbound.uri) served.inbound.headers body served.id

/-- **The calls of the forwarder** for a request, each with what came of it. The
list is made of what the parts come to, the caller, the body and the checks, and
not of what was processed. So it is something to compare the decisions with. -/
def forwardings (served : Served) : List Forwarded :=
  if served.isInternal then []
  else
    match callerOf served.inbound.headers served.service.settings.identity,
        served.readBody with
    | .ok principal, .ok body =>
      match (served.authorization principal body).result with
      | .ok verdict => if verdict.allowed then [served.forwarding body] else []
      | .error _ => []
    | _, _ => []

/-- Whether the gateway itself produces the response to a request, as an error.
A response of the backend service is none, whatever its status, and neither is
one at the gateway's own paths. -/
def isFailed (served : Served) : Bool :=
  served.handling.processing.any fun processing => !processing.result.isOk

/-- **A request that the gateway refuses** with an error of this category: the
response is its own, and it tells so. The status and the body alone would not
do: the backend service may answer in the same way. -/
def IsRefused (served : Served) (category : String) : Prop :=
  served.isFailed = true ∧ served.handling.response.status = 403 ∧
    errorTold? served.handling.response.body = some category

instance (served : Served) (category : String) :
    Decidable (served.IsRefused category) :=
  inferInstanceAs (Decidable (_ ∧ _ ∧ _))

/-- What the checks came to for a request, if they were made. It is what was
counted, and not yet what anybody was told. -/
def decision? (served : Served) : Option Decision :=
  served.handling.processing.bind (·.decision)

end Served

/-! ### Decisions and refusals

Each decision that does not allow is told under a category of its own. So the
refusals of one category are as many as the decisions behind it, and no other
decision may be hidden among them. -/

/-- The category of the refusal that a decision leads to, unless it allows.
Several kinds of failures are told in one text, but under categories of their
own. -/
def Decision.refusal? : Decision → Option String
  | allow => none
  | deny => some "authorization"
  | failed kind => some kind.label

/-- The kinds of failures have different labels. -/
theorem FailureKind.label_injective : Function.Injective FailureKind.label := by
  intro kind other h
  cases kind <;> cases other <;> first | rfl | exact absurd h (by decide)

/-- **No two decisions lead to the same refusal.** -/
theorem Decision.eq_of_refusal? {decision other : Decision} {category : String}
    (h : decision.refusal? = some category)
    (hother : other.refusal? = some category) : decision = other := by
  have hkind : ∀ kind : FailureKind, kind.label ≠ "authorization" := by
    intro kind
    cases kind <;> decide
  have hsame : decision.refusal? = other.refusal? := h.trans hother.symm
  cases decision with
  | allow => cases h
  | deny =>
    cases other with
    | allow => cases hother
    | deny => rfl
    | failed kind => exact absurd (Option.some.inj hsame).symm (hkind kind)
  | failed kind =>
    cases other with
    | allow => cases hother
    | deny => exact absurd (Option.some.inj hsame) (hkind kind)
    | failed other =>
      exact congrArg failed (FailureKind.label_injective (Option.some.inj hsame))

/-- **Every decision is shown under a label of its own.** -/
theorem Decision.label_injective : Function.Injective Decision.label := by
  have hkind : ∀ kind : FailureKind,
      kind.label ≠ "allow" ∧ kind.label ≠ "deny" := by
    intro kind
    cases kind <;> decide
  intro decision other h
  cases decision with
  | allow =>
    cases other with
    | allow => rfl
    | deny => exact absurd h (by decide)
    | failed kind => exact absurd h.symm (hkind kind).1
  | deny =>
    cases other with
    | allow => exact absurd h (by decide)
    | deny => rfl
    | failed kind => exact absurd h.symm (hkind kind).2
  | failed kind =>
    cases other with
    | allow => exact absurd h (hkind kind).1
    | deny => exact absurd h (hkind kind).2
    | failed other => exact congrArg failed (FailureKind.label_injective h)

/-! ### Ends

Five ways to end, and the rest of the module looks at nothing else. What a
request is counted as, whether it was forwarded and what it was refused for is
read off the way in which it ended. -/

namespace Served

/-- **How a request ends**, and what that means for its reading and its
forwardings. The processing is taken apart once, in `ends`. A way that does not
lead to a refusal says which status it cannot have, as a refusal has the status
403. -/
inductive Ends (served : Served) : Handling → Prop
  /-- At one of the gateway's own paths. -/
  | internal {response : Outbound} (path : served.isInternal = true) :
      Ends served ⟨response, none⟩
  /-- In front of the checks, and not as a refusal. -/
  | unread {failure : Failure} (path : served.isInternal = false)
      (read : ¬ served.IsRead) (none : served.forwardings = [])
      (status : failure.status ≠ 403) :
      Ends served
        ⟨Service.responseOf (.error failure) served.id,
          some { result := .error failure }⟩
  /-- With a check that failed. -/
  | failed {calls : List Request} {cause : Policy.Failure}
      (read : served.IsRead) (none : served.forwardings = []) :
      Ends served
        ⟨Service.responseOf (.error (.authorization cause)) served.id,
          some { decision := some (.failed cause.kind), policyCalls := calls
                 result := .error (.authorization cause) }⟩
  /-- With a denial. -/
  | denied {calls : List Request} {reason : String}
      (read : served.IsRead) (none : served.forwardings = []) :
      Ends served
        ⟨Service.responseOf (.error (.denied reason)) served.id,
          some { decision := some .deny, policyCalls := calls
                 result := .error (.denied reason) }⟩
  /-- Behind a forwarding. -/
  | forwarded {calls : List Request} {forwarded : Forwarded}
      (read : served.IsRead) (one : served.forwardings = [forwarded])
      (status : ∀ failure, forwarded.result = .error failure →
        failure.status ≠ 403) :
      Ends served
        ⟨Service.responseOf forwarded.result served.id,
          some { decision := some .allow, policyCalls := calls
                 backendCalls := forwarded.calls
                 result := forwarded.result }⟩

/-- A body that is not read is no refusal: it is too long, or it breaks off, and
each of these has a status of its own. -/
theorem status_of_readBody {limit : Nat} {headers : Headers} {body : Body}
    {failure : Failure} (h : Service.readBody limit headers body
      = .error failure) : failure.status ≠ 403 := by
  unfold Service.readBody at h
  split at h
  · cases h
    exact (by decide : 413 ≠ 403)
  · split at h
    · cases h
      exact (by decide : 413 ≠ 403)
    · split at h <;> cases h
      decide

/-- What comes of a forwarding is no refusal. -/
theorem status_of_forward {forwarder : Forwarder} {network : Network}
    {method target requestId : String} {headers : Headers}
    {body : List UInt8} {failure : Failure}
    (h : (forwarder.forward network method target headers body
      requestId).result = .error failure) : failure.status ≠ 403 := by
  unfold Forwarder.forward at h
  dsimp only at h
  split at h
  · cases h
    decide
  · unfold Forwarder.relay at h
    split at h <;> cases h
    decide

/-- **Every request ends in one of these ways.** The order of the cases is that
of the processing: path, caller, body, checks, backend service. -/
theorem ends (served : Served) : served.Ends served.handling := by
  cases hpath : served.isInternal with
  | true =>
    unfold handling
    rw [Service.handle_internal hpath]
    exact .internal hpath
  | false =>
  unfold handling
  rw [Service.handle_eq_process hpath, ← id]
  -- from here on by what was found so far: a caller, a body, a verdict
  cases hcaller : callerOf served.inbound.headers
      served.service.settings.identity with
  | error failure =>
    rw [Service.process_of_unidentified hcaller]
    refine .unread hpath (fun hread => ?_) ?_ ?_
    · have hcalled := hread.2.1
      rw [hcaller] at hcalled
      cases hcalled
    · simp [forwardings, hcaller]
    · rw [status_of_callerOf hcaller]
      decide
  | ok principal =>
    cases hbody : served.readBody with
    | error failure =>
      rw [Service.process_of_unread hcaller hbody]
      refine .unread hpath (fun hread => ?_) ?_ (status_of_readBody hbody)
      · have hgot := hread.2.2
        rw [hbody] at hgot
        cases hgot
      · simp [forwardings, hcaller, hbody]
    | ok body =>
      -- both were found, so what is left is the verdict and what follows it
      have hread : served.IsRead :=
        ⟨hpath, by rw [hcaller]; rfl, by rw [hbody]; rfl⟩
      rw [Service.process_of_read hcaller hbody]
      unfold Service.authorizeAndForward
      rw [← authorization, ← forwarding]
      dsimp only
      cases hresult : (served.authorization principal body).result with
      | error cause =>
        exact .failed hread (by simp [forwardings, hcaller, hbody, hresult])
      | ok verdict =>
        dsimp only
        cases hallowed : verdict.allowed with
        | false =>
          exact .denied hread
            (by simp [forwardings, hcaller, hbody, hresult, hallowed])
        | true =>
          have hstatus : ∀ failure, (served.forwarding body).result
              = .error failure → failure.status ≠ 403 :=
            fun failure h => status_of_forward h
          exact .forwarded hread
            (by simp [forwardings, hpath, hcaller, hbody, hresult, hallowed])
            hstatus

variable {served : Served}

@[simp] theorem status_responseOf_error (failure : Failure) (id : String) :
    (Service.responseOf (.error failure) id).status = failure.status :=
  (tells_responseOf_error failure id).1

/-- What the client is told of a failure is read as its category. -/
@[simp] theorem errorTold?_responseOf_error (failure : Failure) (id : String) :
    errorTold? (Service.responseOf (.error failure) id).body
      = some failure.category := by
  rw [(tells_responseOf_error failure id).2]
  exact errorTold?_toText _

/-- **A request is read exactly if the checks were made.** -/
theorem isRead_iff : served.IsRead ↔ served.decision?.isSome = true := by
  have hends := served.ends
  unfold decision?
  generalize served.handling = handling at hends
  cases hends with
  | internal path => simp [IsRead, path]
  | unread path read => simpa using read
  | failed read => simpa using read
  | denied read => simpa using read
  | forwarded read => simpa using read

/-- **The forwarder is called exactly if the checks allow**, and once. Not at
least once, and not at most: a decision to allow that is not followed by a call
would be a request that got lost. -/
theorem length_forwardings : served.forwardings.length
    = if served.decision? = some .allow then 1 else 0 := by
  have hends := served.ends
  unfold decision?
  generalize served.handling = handling at hends
  cases hends with
  | internal path => simp [forwardings, path]
  | unread path read none => simp [none]
  | failed read none => simp [none]
  | denied read none => simp [none]
  | forwarded read one => simp [one]

/-- **A request is refused as its decision says.** -/
theorem isRefused_iff {category : String} : served.IsRefused category ↔
    ∃ decision, served.decision? = some decision ∧
      decision.refusal? = some category := by
  have hends := served.ends
  unfold IsRefused isFailed decision?
  generalize served.handling = handling at hends
  cases hends with
  | internal path => simp
  | unread path read none status => simp [status]
  | failed read none =>
    simp [Failure.status, Failure.category, Decision.refusal?, Except.isOk,
      Except.toBool]
  | denied read none =>
    simp [Failure.status, Failure.category, Decision.refusal?, Except.isOk,
      Except.toBool]
  | @forwarded calls forwarded read one status =>
    -- an answer of the backend service is no failure, and a failure of the
    -- forwarding has another status
    have hnone : ¬ (forwarded.result.isOk = false ∧
        (Service.responseOf forwarded.result served.id).status = 403) := by
      rintro ⟨hfailed, hstatus⟩
      cases hresult : forwarded.result with
      | ok response =>
        rw [hresult] at hfailed
        cases hfailed
      | error failure =>
        rw [hresult, status_responseOf_error] at hstatus
        exact status failure hresult hstatus
    refine iff_of_false (fun h => ?_) (by simp [Decision.refusal?])
    exact hnone ⟨by simpa using h.1, h.2.1⟩

/-- Only at the gateway's own paths a request is not processed. -/
theorem isSome_processing (served : Served) :
    served.handling.processing.isSome = !served.isInternal := by
  have hends := served.ends
  generalize served.handling = handling at hends
  cases hends with
  | internal path => simp [path]
  | unread path => simp [path]
  | failed read => simp [read.1]
  | denied read => simp [read.1]
  | forwarded read => simp [read.1]

/-- Whatever is sent to the backend service is sent by the forwarder, and what
comes of it is what the client is told. -/
theorem told_forwardings (served : Served) :
    served.handling.backendCalls = served.forwardings.flatMap (·.calls) ∧
      ∀ forwarded ∈ served.forwardings,
        served.handling.response
          = Service.responseOf forwarded.result served.id := by
  have hends := served.ends
  generalize served.handling = handling at hends
  cases hends with
  | internal path =>
    have hnone : served.forwardings = [] := by simp [forwardings, path]
    simp [hnone, Handling.backendCalls]
  | unread path read none => simp [none, Handling.backendCalls]
  | failed read none => simp [none, Handling.backendCalls]
  | denied read none => simp [none, Handling.backendCalls]
  | forwarded read one => simp [one, Handling.backendCalls]

end Served

/-! ## What is counted

`Counted` says of the counters, key by key, which requests each one has counted.
It is what a run keeps. It is not yet what one wants to know, as it speaks of
decisions, which nobody outside can see. -/

/-- **Counters that count these requests**: each of them by its method and the
status of its response, and by what the checks came to. Every counter is given
for every key, so that nothing else can have been counted under it. -/
structure Counted (all : List Served) (counters : Counters) : Prop where
  /-- The requests, by method and status. -/
  requests : ∀ method status, counters.requests.count (method, status)
    = all.countP fun served => served.IsAnswered method status
  /-- The durations, by method. -/
  durations : ∀ method, counters.durations.count method
    = all.countP fun served =>
        !served.isInternal && served.inbound.method == method
  /-- The decisions. -/
  decisions : ∀ decision, counters.decisions.count decision
    = all.countP fun served => served.decision? = some decision

section Counters

variable (counters : Counters) (method : String) (handling : Handling)

theorem requests_counted :
    (Session.counted counters method handling).requests
      = if handling.processing.isSome
        then counters.requests.add (method, handling.response.status)
        else counters.requests := by
  unfold Session.counted
  rcases handling.processing with - | ⟨_ | _, _, _, _⟩ <;> rfl

theorem durations_counted :
    (Session.counted counters method handling).durations
      = if handling.processing.isSome then counters.durations.add method
        else counters.durations := by
  unfold Session.counted
  rcases handling.processing with - | ⟨_ | _, _, _, _⟩ <;> rfl

theorem decisions_counted :
    (Session.counted counters method handling).decisions
      = match handling.processing.bind (·.decision) with
        | some decision => counters.decisions.add decision
        | none => counters.decisions := by
  unfold Session.counted
  rcases handling.processing with - | ⟨_ | _, _, _, _⟩ <;> rfl

end Counters

/-- **A request is counted once**, and at the gateway's own paths not at
all. -/
theorem Counted.counted {all : List Served} {counters : Counters}
    (h : Counted all counters) (served : Served) :
    Counted (all ++ [served])
      (Session.counted counters served.inbound.method served.handling) where
  requests method status := by
    rw [requests_counted, served.isSome_processing, List.countP_append,
      ← h.requests, List.countP_singleton]
    -- at its own paths nothing is added, and nothing is found either
    cases hpath : served.isInternal with
    | true => simp [Served.IsAnswered, hpath]
    | false =>
      rw [if_pos (Bool.not_false), Tally.count_add]
      refine congrArg (_ + ·) (if_congr ?_ rfl rfl)
      simp only [Served.IsAnswered, hpath, Prod.mk.injEq, true_and,
        decide_eq_true_eq]
      exact and_congr eq_comm eq_comm
  durations method := by
    rw [durations_counted, served.isSome_processing, List.countP_append,
      ← h.durations, List.countP_singleton]
    cases served.isInternal with
    | true => simp
    | false =>
      rw [if_pos (Bool.not_false), Tally.count_add]
      refine congrArg (_ + ·) (if_congr ?_ rfl rfl)
      simpa using eq_comm
  decisions decision := by
    rw [decisions_counted, ← Served.decision?, List.countP_append,
      ← h.decisions, List.countP_singleton]
    cases served.decision? <;> simp [eq_comm]

/-- What was done about a request, if it came of one. -/
def Effect.handling? : Effect → Option Handling
  | .handled handling => some handling
  | .reloaded _ => none

namespace Session

/-- **The requests of a run**, each with the service that it met. -/
def served (session : Session) : List Event → List Served
  | [] => []
  | .reload settings :: rest =>
    (session.step (.reload settings)).1.served rest
  | .request network moment inbound :: rest =>
    ⟨session.service, network, moment, inbound⟩
      :: (session.step (.request network moment inbound)).1.served rest

/-- **A run counts its requests.** The counters need not be empty at the start;
whatever they have counted before stays. -/
theorem counted_run {all : List Served} {session : Session}
    (h : Counted all session.counters) (events : List Event) :
    Counted (all ++ session.served events) (session.run events).1.counters := by
  induction events generalizing all session with
  | nil => simpa [served, run] using h
  | cons event rest ih =>
    cases event with
    | reload settings => exact ih h
    | request network moment inbound =>
      have hone : Counted (all ++ [⟨session.service, network, moment, inbound⟩])
          (session.step (.request network moment inbound)).1.counters :=
        h.counted ⟨session.service, network, moment, inbound⟩
      have hrest := ih hone
      rw [List.append_assoc] at hrest
      exact hrest

/-- What came of the requests of a run is what was done about them. -/
theorem handlings_run (session : Session) (events : List Event) :
    (session.run events).2.filterMap Effect.handling?
      = (session.served events).map Served.handling := by
  induction events generalizing session with
  | nil => rfl
  | cons event rest ih =>
    rw [run_cons]
    cases event with
    | reload settings => exact ih _
    | request network moment inbound => exact congrArg (_ :: ·) (ih _)

end Session

/-! ## What the counters say

Here the decisions are replaced by what can be seen of them, which are
forwardings and refusals. The sums are over all statuses and over all decisions,
without a bound. All but finitely many of the numbers are zero, as a run has
finitely many requests. -/

/-- **Counters that account for requests.** Each part compares a counter with
something that is not a counter, or two counters that are kept apart from each
other. -/
structure Accounts (all : List Served) (counters : Counters) : Prop where
  /-- Under a method and a status the requests that were answered so. -/
  requests : ∀ method status, counters.requests.count (method, status)
    = all.countP fun served => served.IsAnswered method status
  /-- Under a method as many durations as there are requests of all
  statuses. -/
  durations : ∀ method, counters.durations.count method
    = ∑ᶠ status, counters.requests.count (method, status)
  /-- Under all decisions together the requests that were read. -/
  decisions : ∑ᶠ decision, counters.decisions.count decision
    = all.countP fun served => served.IsRead
  /-- As allowed the calls of the forwarder. -/
  allowed : counters.decisions.count .allow
    = (all.map fun served => served.forwardings.length).sum
  /-- As denied the refusals that tell a denial. -/
  denied : counters.decisions.count .deny
    = all.countP fun served => served.IsRefused "authorization"
  /-- As failed, of each kind, the refusals that tell this kind. -/
  failed : ∀ kind, counters.decisions.count (.failed kind)
    = all.countP fun served => served.IsRefused kind.label

/-- A decision was made as often as its refusal was told. -/
theorem countP_refused {decision : Decision} {category : String}
    (h : decision.refusal? = some category) (all : List Served) :
    (all.countP fun served => served.decision? = some decision)
      = all.countP fun served => served.IsRefused category := by
  refine List.countP_congr fun served _ => ?_
  simp only [decide_eq_true_eq, Served.isRefused_iff]
  constructor
  · exact fun hdecision => ⟨decision, hdecision, h⟩
  · rintro ⟨other, hother, hcategory⟩
    rw [hother, Decision.eq_of_refusal? hcategory h]

/-- **Counters that count requests account for them.** -/
theorem Counted.accounts {all : List Served} {counters : Counters}
    (h : Counted all counters) : Accounts all counters where
  requests := h.requests
  durations method := by
    have hstatus := finsum_countP_eq_some
      (fun served : Served => served.statusUnder? method) all
    simp only [h.durations, h.requests, Served.isAnswered_iff, hstatus]
    refine List.countP_congr fun served _ => ?_
    simp [Served.statusUnder?]
  decisions := by
    have hdecision := finsum_countP_eq_some Served.decision? all
    simp only [h.decisions, hdecision]
    exact List.countP_congr fun served _ => by simp [Served.isRead_iff]
  allowed := by
    simp only [h.decisions, Served.length_forwardings]
    clear h
    induction all with
    | nil => rfl
    | cons served rest ih =>
      simp [List.countP_cons, ih, Nat.add_comm]
  denied := (h.decisions _).trans (countP_refused rfl all)
  failed kind := (h.decisions _).trans (countP_refused rfl all)

/-- **The counters account for every request.** Whatever the service, its
partners and its exchanges, after every run the counters say of the requests of
the run what became of them; each response is what came of the one call of the
forwarder, where there was one. A request at one of the gateway's own paths
changes no counter.

The first two parts say that the list of requests is the right one: it is about
what was done, and what it calls a forwarding is what the backend service was
sent. -/
theorem run_accounts (service : Service) (events : List Event) :
    ((Session.start service).run events).2.filterMap Effect.handling?
        = ((Session.start service).served events).map Served.handling ∧
      (∀ served ∈ (Session.start service).served events,
        served.handling.backendCalls = served.forwardings.flatMap (·.calls) ∧
          ∀ forwarded ∈ served.forwardings,
            served.handling.response
              = Service.responseOf forwarded.result served.id) ∧
      Accounts ((Session.start service).served events)
        ((Session.start service).run events).1.counters ∧
      Function.Injective Decision.label ∧
      ∀ network moment inbound,
        Service.isInternal inbound.uri.path = true →
        ((Session.start service).run
            (events ++ [.request network moment inbound])).1.counters
          = ((Session.start service).run events).1.counters := by
  have hempty : Counted [] (Session.start service).counters :=
    ⟨fun _ _ => rfl, fun _ => rfl, fun _ => rfl⟩
  refine ⟨Session.handlings_run _ events,
    fun served _ => served.told_forwardings,
    (Session.counted_run hempty events).accounts, Decision.label_injective,
    fun network moment inbound hpath => ?_⟩
  rw [Session.run_concat]
  show Session.counted _ _ (Service.handle _ _ _ _) = _
  rw [Service.handle_internal hpath]
  rfl

/-! ### A run with an end of each kind -/

/-- The service for the settings under which whatever is no resource may
pass. -/
def openService : Service :=
  { settings := openSettings
    gate := ⟨.ofSettings openSettings.authorization⟩
    forwarder := .ofSettings openSettings.server
    status := { resources := true, rulesets := false } }

/-- Settings of the checks under which orders are a resource, and whatever is
none may not pass. -/
def shutSettings : Policy.Settings :=
  { resources :=
      { enabled := true
        validationUrl := "http://policy/check"
        resourceMap := .ofList [("/orders", "orders")] } }

/-- A request for a path, with these headers. -/
def asking (path : String) (headers : Headers) : Event :=
  .request (fun _ => .closed) ⟨"1", 0, none⟩
    { method := "GET", uri := .origin ⟨path, none⟩, headers, body := {} }

/-- A request that passes, one that is for the gateway, one whose caller cannot
be read, and under other checks one that is denied and one that the policy
server does not answer. -/
def mixed : List Event :=
  [asking "/notes" {}, asking "/_tollgate/health" {},
    asking "/notes" ⟨[("x-caller-identity", [0x7b])]⟩,
    .reload shutSettings, asking "/notes" {}, asking "/orders" {}]

/-- Each of them is accounted for. -/
theorem mixed_accounts :
    Accounts ((Session.start openService).served mixed)
        ((Session.start openService).run mixed).1.counters ∧
      (((Session.start openService).served mixed).map fun served =>
        served.handling.response.status) = [502, 200, 401, 403, 403] ∧
      (((Session.start openService).served mixed).map fun served =>
        served.forwardings.length).sum = 1 ∧
      (((Session.start openService).served mixed).countP fun served =>
        served.IsRefused "authorization") = 1 ∧
      (((Session.start openService).served mixed).countP fun served =>
        served.IsRefused "transport") = 1 ∧
      Service.isInternal "/_tollgate/health" = true ∧
      ((Session.start openService).run
          (mixed ++ [asking "/_tollgate/health" {}])).1.counters
        = ((Session.start openService).run mixed).1.counters := by
  obtain ⟨-, -, haccounts, -, hinternal⟩ := run_accounts openService mixed
  have hpath : Service.isInternal "/_tollgate/health" = true := by
    decide +kernel
  exact ⟨haccounts, by decide +kernel, by decide +kernel, by decide +kernel,
    by decide +kernel, hpath, hinternal _ _ _ hpath⟩

end Gateway

end PolicyGateway
