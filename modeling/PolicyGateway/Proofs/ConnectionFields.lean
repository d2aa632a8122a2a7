import PolicyGateway.Proofs.HeaderPassage

/-!
# Fields for one connection only

A field may concern the one connection on which it is sent. Some do by their
names (`hopByHop`). Any other does so in a message whose Connection fields list
it as an option, so that which fields these are depends on the values of others
(`IsHopByHop`).

The gateway goes by a fixed list of names and reads no Connection field.
`handle_stopsByName` says what comes of that on both ways: no field passes with
one of the names in `stopped`, whatever its letter case; a field that a
Connection field lists fares as it does unlisted; and without its Connection
fields a message is passed on in the same way. `session_passes` is a message with
a field for its connection only that goes through.

**Why it matters which way a field is stopped.** Whoever lists a field as an
option expects the next one on the way to take it off. A gateway that goes by
names alone does so only for the names it knows, and passes on the others as if
they were meant for the backend service. On the other hand nobody can use a
Connection field to have a field taken away that the backend service relies on.
-/

namespace PolicyGateway

namespace Http

/-- **The names of the fields that concern one connection only** in every
message. These are the ones that a reader of HTTP/1.1 takes for such, listed or
not. -/
def hopByHop : List String :=
  ["connection", "keep-alive", "proxy-authenticate", "proxy-authorization",
    "te", "trailer", "transfer-encoding", "upgrade"]

/-- **The options that the value of a Connection field lists**: what stands
between the commas, without the blanks around it and in lower case. Bytes that
are no characters of a name make an option that no field has. -/
def connectionOptions (value : FieldValue) : List String :=
  (value.splitOn 0x2c).map fun option => Text.lowercase
    (String.ofList ((Inbound.trimLine option).map fun b => Char.ofNat b.toNat))

/-- **A Connection field lists a name**, in whatever letter case. A message may
have more than one Connection field, and they all count. -/
def IsListed (headers : Headers) (name : String) : Prop :=
  ∃ value ∈ headers.values "connection",
    Text.lowercase name ∈ connectionOptions value

/-- **A name is for one connection only** in a message with these headers. Which
names these are differs from message to message. -/
def IsHopByHop (headers : Headers) (name : String) : Prop :=
  Text.lowercase name ∈ hopByHop ∨ IsListed headers name

instance (headers : Headers) (name : String) :
    Decidable (IsListed headers name) :=
  inferInstanceAs (Decidable (∃ value ∈ _, _))

instance (headers : Headers) (name : String) :
    Decidable (IsHopByHop headers name) :=
  inferInstanceAs (Decidable (_ ∨ _))

end Http

namespace Gateway

open PolicyGateway.Http PolicyGateway.Policy

/-- **Nothing is passed on that is for one connection only.** This is the rule
that a gateway which reads Connection fields would keep. -/
def StopsHopByHop (given passed : Headers) : Prop :=
  ∀ name, IsHopByHop given name → passed.values name = []

/-! ## What is stopped

A list of names decides, the same one on the way to the backend service and on
the way back. So one statement about the headers before and after does for both
ways, and `PassesOn` carries it to every request. -/

/-- **The names that are stopped**, of those for one connection only. -/
def stopped : List String :=
  ["connection", "keep-alive", "proxy-authenticate", "proxy-authorization",
    "te", "transfer-encoding", "upgrade"]

theorem stopped_subset_heldBack : stopped ⊆ heldBack := by
  decide

/-- Without its Connection fields a message is passed on in the same way. The
Connection fields go anyway, and nothing is read of them before. -/
theorem passedOn_erase_connection (headers : Headers) :
    passedOn (headers.erase "connection") = passedOn headers := by
  refine Headers.keep_keep (fun name hname => ?_) headers
  have hconnection : isHeldBack "connection" = true := by decide +kernel
  rw [decide_eq_true_eq]
  rintro rfl
  rw [hconnection] at hname
  cases hname

/-- **Fields are stopped by their names**, and to list them changes nothing.
What becomes of a field with the name `trailer` is left open. The three parts
are what is stopped, what is not, and that nothing else in the message has a say
in it. -/
structure StopsByName (given passed : Headers) : Prop where
  /-- Of the names that are stopped, whatever the letter case, no value is
  left. -/
  stopped : ∀ name, Text.lowercase name ∈ stopped → passed.values name = []
  /-- A field that is listed keeps its values, unless its name is held back
  whether it is listed or not. -/
  listed : ∀ name, IsListed given name → Text.lowercase name ≠ "trailer" →
    name ≠ requestIdHeader →
    passed.values name
      = if Text.lowercase name ∈ heldBack then [] else given.values name
  /-- What is passed on is what is passed on without the Connection fields. -/
  unread : ∃ id,
    passed = withRequestId (passedOn (given.erase "connection")) id

theorem stopsByName_withRequestId (headers : Headers) (id : String) :
    StopsByName headers (withRequestId (passedOn headers) id) :=
  have hfaithful := faithful_withRequestId headers id
  { stopped := fun _ hname =>
      hfaithful.values_eq_nil (stopped_subset_heldBack hname)
    listed := fun _ _ _ hid => hfaithful.values_eq_ite hid
    unread := ⟨id, by rw [passedOn_erase_connection]⟩ }

/-- **The gateway stops fields by their names**, in every request and in every
answer, whatever the service and its partners; and the Connection fields of a
message have no say in what is passed on of it. -/
theorem handle_stopsByName (service : Service) (network : Network)
    (moment : Moment) (inbound : Inbound) :
    PassesOn service network inbound StopsByName
      (service.handle network moment inbound) :=
  passesOn_handle stopsByName_withRequestId

/-! ### A field for one connection that goes through

The request lists its field in the second of two Connection fields, in another
letter case and with a blank in front of the comma. It is received as it stands.
-/

/-- A request with a field that one of its Connection fields lists. -/
def sessionRequest : Inbound :=
  { method := "GET"
    uri := .origin ⟨"/orders/7", none⟩
    headers := ⟨[("connection", Text.Utf8.bytes "close"),
      ("connection", Text.Utf8.bytes "keep-alive , X-Session"),
      ("x-session", Text.Utf8.bytes "asked")]⟩
    body := {} }

/-- An answer with such a field. -/
def sessionAnswer : Response :=
  { status := 200
    headers := ⟨[("x-session", Text.Utf8.bytes "answered"),
      ("connection", Text.Utf8.bytes "x-session")]⟩ }

/-- The policy server allows, and the backend service gives the answer. -/
def sessionNetwork : Network := fun request =>
  .answered (if request.url.path = ["check"] then allowing else sessionAnswer)

/-- The backend service gets the field of the request, and whoever asked gets
that of the answer. -/
theorem session_passes :
    Inbound.receive "GET" "/orders/7"
        [("Connection", Text.Utf8.bytes "close"),
          ("Connection", Text.Utf8.bytes "keep-alive , X-Session"),
          ("X-Session", Text.Utf8.bytes "asked")] [] = .ok sessionRequest ∧
      IsHopByHop sessionRequest.headers "x-session" ∧
      IsHopByHop sessionAnswer.headers "x-session" ∧
      (orders.handle sessionNetwork ⟨"1", 0, none⟩
        sessionRequest).response.headers.values "x-session"
        = [Text.Utf8.bytes "answered"] ∧
      ¬ PassesOn orders sessionNetwork sessionRequest StopsHopByHop
        (orders.handle sessionNetwork ⟨"1", 0, none⟩ sessionRequest) := by
  have hlisted : IsHopByHop sessionRequest.headers "x-session" := by
    decide +kernel
  refine ⟨eq_ok_of_toOption (by decide +kernel), hlisted, by decide +kernel,
    by decide +kernel, fun hstops => ?_⟩
  -- the field reaches the backend service, and the client has not put it there
  have harrived : ∃ call ∈ (orders.handle sessionNetwork ⟨"1", 0, none⟩
      sessionRequest).backendCalls,
      call.headers.values "x-session" = [Text.Utf8.bytes "asked"] := by
    decide +kernel
  obtain ⟨call, hcall, hvalue⟩ := harrived
  obtain ⟨headers, hnone, hkept⟩ := hstops.exists_of_arrived hcall
  rw [hkept "x-session" (by decide), hnone "x-session" hlisted] at hvalue
  cases hvalue

end Gateway

end PolicyGateway
