import PolicyGateway.Proofs.RequestIds

/-!
# What passes through the gateway of the headers

Two maps of headers pass through the gateway, on ways of their own: that of a
request, which is handed to the HTTP client, and that of the answer, which goes
back to whoever asked. Each is built field by field out of the one that came in,
and then the id of the request is put in.

`PassesOn` says of a relation between what is given and what is passed on that
it holds on both ways, and that nothing takes either of them without leave.
It holds for every relation between headers and those that are passed on with an
id (`passesOn_handle`), so that a law of what is kept becomes one of the gateway.
Here the law is that headers are passed on faithfully (`handle_faithful`): the
values under a name are the same list, repetitions and order included, no field
is added but the id, and no field that is held back comes through, whatever its
letter case.

**Why a relation as a parameter.** More than one thing is to be said of the
headers: that they are passed on faithfully, and that what is for one connection
only stays behind. Each is about the headers before and after, and each holds
for both ways and at no other time. How a request goes through the gateway has
nothing to do with which of them it is, so it is gone through once.
-/

namespace PolicyGateway.Gateway

open PolicyGateway.Http PolicyGateway.Policy

/-! ## What is kept

A name is held back or it is not, and this depends on nothing but the name. So
what is kept can be said name by name, with the list of values under each; order
counts among the values of one name. -/

/-- **Headers are passed on faithfully**, but for the id of the request. The id
is the gateway's own, so a value that the client gave under its name need not be
the one that is passed on. -/
structure Faithful (given passed : Headers) : Prop where
  /-- Under a name that is not held back stand the same values, in order. -/
  values : ∀ name, Text.lowercase name ∉ heldBack →
    name ≠ requestIdHeader → passed.values name = given.values name
  /-- No field is added. -/
  added : ∀ field ∈ passed.fields,
    field.1 = requestIdHeader ∨ field ∈ given.fields
  /-- No field is left that is held back, whatever its letter case. -/
  withheld : ∀ field ∈ passed.fields, Text.lowercase field.1 ∉ heldBack

theorem isHeldBack_eq (name : String) :
    isHeldBack name = decide (Text.lowercase name ∈ heldBack) :=
  List.contains_eq_mem _ _

/-- A name that is not held back keeps its values. -/
theorem values_passedOn {name : String}
    (h : Text.lowercase name ∉ heldBack) (headers : Headers) :
    (passedOn headers).values name = headers.values name :=
  Headers.values_keep (by simp [isHeldBack_eq, h]) headers

theorem mem_passedOn {headers : Headers} {field : String × FieldValue} :
    field ∈ (passedOn headers).fields
      ↔ field ∈ headers.fields ∧ Text.lowercase field.1 ∉ heldBack := by
  unfold passedOn Headers.keep
  simp [isHeldBack_eq]

/-- **What is passed on once is passed on again.** Two gateways in a row keep
what one keeps. -/
theorem passedOn_passedOn (headers : Headers) :
    passedOn (passedOn headers) = passedOn headers :=
  Headers.keep_keep (fun _ h => h) headers

/-- The id is no name that is held back. -/
theorem requestIdHeader_not_heldBack :
    Text.lowercase requestIdHeader ∉ heldBack := by
  decide +kernel

/-- **The headers that leave the gateway** are passed on faithfully. -/
theorem faithful_withRequestId (headers : Headers) (id : String) :
    Faithful headers (withRequestId (passedOn headers) id) :=
  { values := fun name hname hid =>
      (Headers.values_set_of_ne hid (passedOn headers) _).trans
        (values_passedOn hname headers)
    added := fun field hfield =>
      (Headers.name_eq_or_mem_of_mem_set hfield).imp_right
        fun hkept => (mem_passedOn.1 hkept).1
    withheld := fun field hfield => by
      rcases Headers.name_eq_or_mem_of_mem_set hfield with hid | hkept
      · rw [hid]
        exact requestIdHeader_not_heldBack
      · exact (mem_passedOn.1 hkept).2 }

namespace Faithful

variable {given passed : Headers} (h : Faithful given passed) {name : String}
include h

/-- Of a name that is held back no value is left. -/
theorem values_eq_nil (hname : Text.lowercase name ∈ heldBack) :
    passed.values name = [] := by
  unfold Headers.values
  rw [List.map_eq_nil_iff, List.filter_eq_nil_iff]
  intro field hfield hsame
  rw [decide_eq_true_eq] at hsame
  exact h.withheld field hfield (hsame ▸ hname)

/-- **Under each name but that of the id** stand the same values, or none where
it is held back. -/
theorem values_eq_ite (hid : name ≠ requestIdHeader) :
    passed.values name
      = if Text.lowercase name ∈ heldBack then [] else given.values name := by
  split
  · next hname => exact h.values_eq_nil hname
  · next hname => exact h.values name hname hid

end Faithful

/-! ## Both ways

There is no other way for a header through the gateway. Where a request is not
let through, nothing is handed over, and what the client gets is the gateway's
own. -/

/-- **An answer goes back** in this way, exactly if it comes to its end. -/
structure GoesBack (passes : Headers → Headers → Prop) (exchange : Exchange)
    (result : Except Failure Outbound) (response : Outbound) : Prop where
  /-- A whole answer is told, with its headers passed on. -/
  told : ∀ answer, exchange.response = some answer →
    answer.body.whole = true →
    result.isOk = true ∧ passes answer.headers response.headers
  /-- Without one a failure is told. -/
  failed : (∀ answer, exchange.response = some answer →
    answer.body.whole = false) → result.isOk = false

/-- **Headers are passed on** in this way: those of a request to the HTTP
client, and those of the answer to whoever asked. -/
structure PassesOn (service : Service) (network : Network)
    (inbound : Inbound) (passes : Headers → Headers → Prop)
    (handling : Handling) : Prop where
  /-- Without leave nothing is handed over, and no answer is told. -/
  kept : ∀ processing, handling.processing = some processing →
    processing.decision ≠ some .allow →
    processing.backendCalls = [] ∧ processing.result.isOk = false
  /-- With leave the request is handed over, and the answer goes back. -/
  handed : ∀ processing, handling.processing = some processing →
    processing.decision = some .allow →
    ∃ headers body exchange, passes inbound.headers headers ∧
      Client.send network inbound.method
        (service.forwarder.address (Service.targetOf inbound.uri)) headers
        body = exchange ∧
      processing.backendCalls = exchange.arrived ∧
      GoesBack passes exchange processing.result handling.response

section Passage

variable {service : Service} {network : Network} {moment : Moment}
  {inbound : Inbound} {passes : Headers → Headers → Prop}

/-- **Whatever arrives** has been passed on, but for the headers that the HTTP
client sees to. The client sends what it is handed, and adds what HTTP requires
of it, such as the host and the length. -/
theorem PassesOn.exists_of_arrived {handling : Handling}
    (h : PassesOn service network inbound passes handling)
    {call : Request} (hcall : call ∈ handling.backendCalls) :
    ∃ headers, passes inbound.headers headers ∧
      ∀ name ∉ Client.managed,
        call.headers.values name = headers.values name := by
  obtain ⟨response, processing⟩ := handling
  cases processing with
  | none => cases hcall
  | some processing =>
    rw [Handling.backendCalls_of_some] at hcall
    by_cases hallowed : processing.decision = some .allow
    · obtain ⟨headers, body, exchange, hpasses, rfl, hcalls, -⟩ :=
        h.handed processing rfl hallowed
      rw [hcalls] at hcall
      exact ⟨headers, hpasses, fun name hname =>
        Client.values_of_mem_arrived hname hcall⟩
    · rw [(h.kept processing rfl hallowed).1] at hcall
      cases hcall

variable (hpasses : ∀ headers id, passes headers
  (withRequestId (passedOn headers) id))
include hpasses

/-- The answer to what is forwarded goes back. An answer that breaks off is not
passed on in part. -/
theorem goesBack_forward {forwarder : Forwarder} {method target : String}
    {headers : Headers} {body : List UInt8} {id : String} :
    GoesBack passes
      (Client.send network method (forwarder.address target)
        (Forwarder.outgoing headers id) body)
      (forwarder.forward network method target headers body id).result
      (Service.responseOf
        (forwarder.forward network method target headers body id).result id)
      := by
  unfold Forwarder.forward
  dsimp only
  -- only the answer counts from here on, not how it came about
  generalize Client.send network method _ _ body = exchange
  constructor
  · intro answer hanswer hwhole
    unfold Forwarder.relay
    rw [hanswer]
    dsimp only
    rw [if_pos hwhole]
    exact ⟨rfl, hpasses answer.headers id⟩
  · intro hbroken
    cases hanswer : exchange.response with
    | none => rfl
    | some answer =>
      unfold Forwarder.relay
      dsimp only
      rw [hbroken answer hanswer]
      rfl

/-- **Whatever holds of headers and those that are passed on** with an id, holds
of the gateway. -/
theorem passesOn_handle :
    PassesOn service network inbound passes
      (service.handle network moment inbound) := by
  cases hpath : Service.isInternal inbound.uri.path with
  | true =>
    -- at the gateway's own paths nothing is processed
    rw [Service.handle_internal hpath]
    exact ⟨nofun, nofun⟩
  | false =>
    rw [Service.handle_eq_process hpath]
    have hends := service.process_ends network (idOf moment inbound) inbound
    constructor
    · rintro _ ⟨⟩ hdenied
      rcases hends with ⟨-, hallowed, -⟩ | ⟨-, hnone, failure, hfailed⟩
      · exact absurd hallowed hdenied
      · exact ⟨hnone, by rw [hfailed]; rfl⟩
    · rintro _ ⟨⟩ hallowed
      rcases hends with ⟨body, -, hcalls, hresult⟩ | ⟨hdenied, -⟩
      · refine ⟨_, body, _, hpasses inbound.headers (idOf moment inbound), rfl,
          hcalls, ?_⟩
        rw [hresult]
        exact goesBack_forward hpasses
      · exact absurd hallowed hdenied

end Passage

/-- **Headers pass through the gateway faithfully**, those of every request and
those of every answer, whatever the service and its partners; and passing them
on once more changes nothing. -/
theorem handle_faithful :
    (∀ (service : Service) (network : Network) (moment : Moment)
        (inbound : Inbound),
      PassesOn service network inbound Faithful
        (service.handle network moment inbound)) ∧
    ∀ headers, passedOn (passedOn headers) = passedOn headers :=
  ⟨fun _ _ _ _ => passesOn_handle faithful_withRequestId, passedOn_passedOn⟩

/-- A request that names one field twice, with another one in between that is
held back. -/
def repeating : Inbound :=
  { method := "GET"
    uri := .origin ⟨"/orders/7", none⟩
    headers := ⟨[("accept", Text.Utf8.bytes "a"),
      ("upgrade", Text.Utf8.bytes "websocket"),
      ("accept", Text.Utf8.bytes "b")]⟩
    body := {} }

example :
    (orders.handle (fun _ => .answered allowing) ⟨"1", 0, none⟩
      repeating).backendCalls.map (·.headers.fields)
      = [[("accept", [0x61]), ("accept", [0x62]),
          ("x-request-id", [0x31])]] := by
  decide +kernel

end PolicyGateway.Gateway
