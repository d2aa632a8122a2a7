import PolicyGateway.Proofs.Exposure
import PolicyGateway.Proofs.Referrals
import PolicyGateway.Proofs.SentPath

/-!
# One id for a request

A request goes by one id, the one that it brings along or one that is made up
for it (`HasId`). The id leaves the gateway on several ways: in the questions
of the checks, among the headers that are forwarded, among those of the
response, and in the body of an error. Each way has its own map of headers with
its own rule for a name that is there already, and a request may bring any
number of ids, text or not.

`handle_identified` says that on every way it is the same id, and once: whatever
the service and its partners, and however the request ends. An id that is made
up is taken to be a row of hexadecimal digits and hyphens.

**Why one id.** Whoever looks into a refusal has a log of the gateway, one of
the policy server and one of the backend service, and finds the request in them
by its id. If one of the three had another id, or two of them, the trail would
end there.

**Why the alphabet of a made id.** An id goes into a header, and a header cannot
hold every text. One that a request brings has arrived in a header, so it can
leave in one; one that is made up has to be known to be of such characters.
-/

namespace PolicyGateway

/-! ## Ids as the values of a field

An id is a text here and the bytes of a field there. For the characters that may
stand in a field the two are the same thing. -/

namespace Http

/-- A character that may stand in the value of a field as itself. These are the
visible ones of ASCII and the blanks within a line. -/
def IsFieldChar (c : Char) : Prop :=
  c = '\t' ∨ 0x20 ≤ c.toNat ∧ c.toNat < 0x7f

theorem IsFieldChar.toNat_lt {c : Char} (h : IsFieldChar c) :
    c.toNat < 0x80 := by
  rcases h with rfl | ⟨-, h⟩
  · decide
  · omega

/-- Hexadecimal digits may stand in a value. -/
theorem isFieldChar_of_hexDigit? {c : Char}
    (h : (Text.hexDigit? c).isSome) : IsFieldChar c := by
  unfold Text.hexDigit? at h
  right
  split at h
  · next hc =>
    exact ⟨Nat.le_trans (by decide) hc.1,
      Nat.lt_of_le_of_lt hc.2 (by decide)⟩
  · split at h
    · next hc =>
      exact ⟨Nat.le_trans (by decide) hc.1,
        Nat.lt_of_le_of_lt hc.2 (by decide)⟩
    · split at h
      · next hc =>
        exact ⟨Nat.le_trans (by decide) hc.1,
          Nat.lt_of_le_of_lt hc.2 (by decide)⟩
      · cases h

/-- **Text in field characters** may be the value of a field. -/
theorem isFieldValue_bytes {s : String}
    (h : ∀ c ∈ s.toList, IsFieldChar c) :
    isFieldValue (Text.Utf8.bytes s) = true := by
  unfold Text.Utf8.bytes
  generalize s.toList = cs at h
  induction cs with
  | nil => rfl
  | cons c rest ih =>
    have hc := h c List.mem_cons_self
    rw [Text.Utf8.encode_cons, Text.Utf8.encode_ascii hc.toNat_lt]
    unfold isFieldValue at ih ⊢
    rw [List.singleton_append, List.all_cons,
      ih fun d hd => h d (List.mem_cons_of_mem c hd), Bool.and_true]
    rcases hc with rfl | ⟨hlow, hhigh⟩
    · decide
    · have hnat : (UInt8.ofNat c.toNat).toNat = c.toNat :=
        UInt8.toNat_ofNat_of_lt' (Nat.lt_trans hhigh (by decide))
      have hle : (0x20 : UInt8) ≤ UInt8.ofNat c.toNat := by
        rw [UInt8.le_iff_toNat_le, hnat]
        exact hlow
      have hne : UInt8.ofNat c.toNat ≠ 0x7f := fun heq => by
        rw [heq] at hnat
        rw [← hnat] at hhigh
        exact absurd hhigh (by decide)
      simp [hle, hne]

/-- The text of a value consists of field characters. -/
theorem isFieldChar_of_fieldText? {value : FieldValue} {s : String}
    (h : fieldText? value = some s) : ∀ c ∈ s.toList, IsFieldChar c := by
  unfold fieldText? at h
  split at h
  · next htext =>
    cases h
    rw [String.toList_ofList]
    intro c hc
    obtain ⟨b, hb, rfl⟩ := List.mem_map.1 hc
    have hbyte := List.all_eq_true.1 htext b hb
    simp only [Bool.or_eq_true, beq_iff_eq, Bool.and_eq_true,
      decide_eq_true_eq] at hbyte
    rcases hbyte with rfl | ⟨hlow, hhigh⟩
    · exact .inl rfl
    · rw [UInt8.le_iff_toNat_le] at hlow
      rw [UInt8.lt_iff_toNat_lt] at hhigh
      right
      rw [Text.Utf8.toNat_charOfNat (Nat.lt_trans hhigh (by decide))]
      exact ⟨hlow, hhigh⟩
  · cases h

end Http

namespace Gateway

open PolicyGateway.Http PolicyGateway.Policy
open PolicyGateway.Json (Value)

/-- **An id that is made up** consists of hexadecimal digits and hyphens. -/
def IsMade (id : String) : Prop :=
  ∀ c ∈ id.toList, (Text.hexDigit? c).isSome ∨ c = '-'

/-- **The id of a request**: its first value under the name, if it is text and
not empty, and otherwise the one that is made up. Later values under the name do
not count, even where the first one is no text. -/
inductive HasId (headers : Headers) (made : String) : String → Prop
  /-- It is brought along. -/
  | brought {value : FieldValue} {id : String}
      (first : headers.first? requestIdHeader = some value)
      (text : fieldText? value = some id) (nonempty : id ≠ "") :
      HasId headers made id
  /-- It is made up. -/
  | made (none : ∀ value id, headers.first? requestIdHeader = some value →
      fieldText? value = some id → id = "") :
      HasId headers made made

/-- **A request goes by its id.** -/
theorem hasId_requestId (headers : Headers) (made : String) :
    HasId headers made (requestId headers made) := by
  unfold requestId broughtId?
  cases hvalue : headers.first? requestIdHeader with
  | none => exact .made fun value id h => by cases hvalue.symm.trans h
  | some value =>
    rw [Option.bind_some]
    cases htext : fieldText? value with
    | none =>
      refine .made fun other id h hid => ?_
      cases hvalue.symm.trans h
      cases htext.symm.trans hid
    | some id =>
      dsimp only
      split
      · next hempty =>
        refine .made fun other found h hid => ?_
        cases hvalue.symm.trans h
        cases htext.symm.trans hid
        exact String.isEmpty_iff.1 hempty
      · next hne =>
        exact .brought hvalue htext fun h => hne (String.isEmpty_iff.2 h)

/-- **A request has one id**, the one that it goes by. -/
theorem hasId_iff {headers : Headers} {made id : String} :
    HasId headers made id ↔ id = requestId headers made := by
  refine ⟨fun h => ?_, fun h => h ▸ hasId_requestId headers made⟩
  unfold requestId broughtId?
  cases h with
  | brought first text nonempty =>
    have hne : id.isEmpty = false :=
      Bool.eq_false_iff.2 fun h => nonempty (String.isEmpty_iff.1 h)
    rw [first, Option.bind_some, text]
    dsimp only
    rw [hne]
    rfl
  | made none =>
    split
    · next id hid =>
      obtain ⟨value, hvalue, htext⟩ := Option.bind_eq_some_iff.1 hid
      rw [if_pos (String.isEmpty_iff.2 (none value id hvalue htext))]
      rfl
    · rfl

/-- An id consists of field characters. -/
theorem HasId.isFieldChar {headers : Headers} {made id : String}
    (h : HasId headers made id) (hmade : IsMade made) :
    ∀ c ∈ id.toList, IsFieldChar c := by
  cases h with
  | brought first text nonempty => exact isFieldChar_of_fieldText? text
  | made =>
    intro c hc
    rcases hmade c hc with hdigit | rfl
    · exact isFieldChar_of_hexDigit? hdigit
    · exact .inr (by decide)

end Gateway

/-! ## On the way to the policy server

The headers of a question are a list that is made for it, with the id in front
of those that are passed on. It has to be ruled out that another value comes in
under its name, in whatever letter case. -/

namespace Policy

open PolicyGateway.Json (Value)
open PolicyGateway.Http.Client (LeadsTo)

/-- **The headers that a question shows**: those of the question itself, or of
the request in it. -/
def headersOf (question : Value) : List (String × Value) :=
  match (question.member? "headers").or
    ((question.member? "request").bind (Value.member? "headers")) with
  | some (.object members) => members
  | _ => []

/-- **A question shows an id**: under the name of the id, whatever its letter
case, this one and nothing else. -/
def ShowsId (id : String) (question : Value) : Prop :=
  ((headersOf question).filter fun header =>
    Text.sameIgnoringCase header.1 requestIdHeader).map Prod.snd = [.text id]

/-- **A request bears a body**, or has been sent on without one: a post bears
it, and what became of a post by a reference may be a GET without a body. A
reference may turn a post into a request without a body; such a request shows
nothing, and the id least of all. -/
inductive Bears (body : List UInt8) (call : Http.Request) : Prop
  /-- It is a post. -/
  | posted (method : call.method = "POST") (bytes : call.body = body)
  /-- It is no longer one. -/
  | bare (method : call.method = "GET") (bytes : call.body = [])

/-- What bears a body still does so where it leads. -/
theorem Bears.leadsTo {network : Http.Network} {body : List UInt8}
    {request further : Http.Request} (hleads : LeadsTo network request further)
    (h : Bears body request) : Bears body further := by
  obtain ⟨response, next, -, -, rfl⟩ := hleads
  unfold Http.Client.redirected
  cases hdrops : Http.Client.dropsBody response.status request.method with
  | true =>
    refine .bare ?_ rfl
    cases h with
    | posted method => simp [method]
    | bare method => simp [method]
  | false =>
    cases h with
    | posted method bytes => exact .posted method bytes
    | bare method bytes => exact .bare method bytes

/-- **Whatever a question sends bears it.** -/
theorem Server.Posted.bears {server : Server} {network : Http.Network}
    {endpoint : Endpoint} {question : Value} {outcome : Outcome Verdict}
    (h : server.Posted network endpoint question outcome)
    {call : Http.Request} (hcall : call ∈ outcome.calls) :
    Bears (Text.Utf8.bytes question.toText) call := by
  rcases h.arrives with hnone | ⟨post, further, hpost, hcalls, -, hchain⟩
  · rw [hnone] at hcall
    cases hcall
  · rw [hcalls] at hcall
    obtain ⟨url, -, rfl⟩ := Option.map_eq_some_iff.1 hpost
    rcases List.mem_cons.1 hcall with rfl | hcall
    · exact .posted rfl rfl
    · exact hchain.cons_induction (Bears _) further
        (fun _ _ hleads => Bears.leadsTo hleads) (.posted rfl rfl) call hcall

/-- Whatever a check sends bears the one question that it asks. -/
theorem AsksOnce.exists_question {network : Http.Network}
    {endpoint : Endpoint} {outcome : Outcome Verdict}
    {asked? : Option (Server × Value)}
    (h : AsksOnce network endpoint outcome asked?) {call : Http.Request}
    (hcall : call ∈ outcome.calls) :
    ∃ server question, asked? = some (server, question) ∧
      Bears (Text.Utf8.bytes question.toText) call := by
  rcases asked? with - | ⟨server, question⟩
  · have hnone : outcome.calls = [] := h
    rw [hnone] at hcall
    cases hcall
  · have hposted : server.Posted network endpoint question outcome := h
    exact ⟨server, question, rfl, hposted.bears hcall⟩

/-- Headers that start with the id and go on with authorizations show it. -/
theorem ids_of_cons {id : String} {others : List (String × String)}
    (h : ∀ header ∈ others, header.1 = authorizationHeader) :
    ((((requestIdHeader, id) :: others).map fun header =>
        (header.1, Value.text header.2)).filter fun header =>
          Text.sameIgnoringCase header.1 requestIdHeader).map Prod.snd
      = [.text id] := by
  have hnone : (others.map fun header =>
      (header.1, Value.text header.2)).filter (fun header =>
        Text.sameIgnoringCase header.1 requestIdHeader) = [] := by
    refine List.filter_eq_nil_iff.2 fun header hheader => ?_
    obtain ⟨other, hother, rfl⟩ := List.mem_map.1 hheader
    rw [h other hother]
    decide
  have hself : Text.sameIgnoringCase requestIdHeader requestIdHeader = true :=
    beq_self_eq_true _
  rw [List.map_cons, List.filter_cons, if_pos hself, hnone]
  rfl

section Shows

variable {request : AccessRequest} {id : String}
  (h : request.header? requestIdHeader = some id)
include h

/-- The headers that go along with a question start with the id. -/
theorem AccessRequest.forwarded_eq :
    ∃ others, request.forwarded = (requestIdHeader, id) :: others ∧
      ∀ header ∈ others, header.1 = authorizationHeader := by
  unfold forwarded forwardedHeaders
  rw [List.filterMap_cons_some (by rw [h]; rfl)]
  refine ⟨_, rfl, fun header hheader => ?_⟩
  obtain ⟨name, hname, htold⟩ := List.mem_filterMap.1 hheader
  rw [List.mem_singleton.1 hname] at htold
  obtain ⟨token, -, rfl⟩ := Option.map_eq_some_iff.1 htold
  rfl

/-- **A question with the request in it** shows the id. -/
theorem showsId_of_request {question : Value}
    (hheaders : question.member? "headers" = none)
    (hrequest : question.member? "request" = some request.toJson) :
    ShowsId id question := by
  obtain ⟨others, hforwarded, hothers⟩ := AccessRequest.forwarded_eq h
  have htold : request.toJson.member? "headers" = some (.object
      (request.forwarded.map fun header => (header.1, .text header.2))) := by
    unfold AccessRequest.toJson
    rw [hforwarded]
    rfl
  unfold ShowsId headersOf
  rw [hheaders, hrequest]
  dsimp only [Option.or_none, Option.none_or, Option.bind_some]
  rw [htold, hforwarded]
  exact ids_of_cons hothers

/-- **A decision request** shows the id. -/
theorem DecisionRequest.showsId_of_build {ruleset : Ruleset} {body : Value}
    {decision : DecisionRequest}
    (hbuild : build request ruleset body = .ok decision) :
    ShowsId id decision.toJson := by
  have hheaders : decision.headers = shownHeaders request := by
    obtain ⟨uri, fields, -, -, rfl⟩ := exists_of_build hbuild
    rfl
  have htold : decision.toJson.member? "headers"
      = some (textMembers (shownHeaders request)) := by
    rw [← hheaders]
    rfl
  unfold ShowsId headersOf
  rw [htold]
  unfold textMembers shownHeaders
  dsimp only [Option.some_or]
  rw [h]
  refine ids_of_cons fun header hheader => ?_
  split at hheader
  · rw [List.mem_singleton.1 hheader]
  · cases hheader

variable (principal : Principal) (body : Value)

theorem ResourceCheck.showsId_of_asked? {check : ResourceCheck}
    {server : Server} {question : Value}
    (hasked : check.asked? request principal = some (server, question)) :
    ShowsId id question := by
  obtain ⟨resource, anonymousAccess, rfl⟩ := exists_of_asked? hasked
  exact showsId_of_request h rfl rfl

theorem RulesetCheck.showsId_of_askedDecision? {check : RulesetCheck}
    {server : Server} {question : Value}
    (hasked : check.askedDecision? request body = some (server, question)) :
    ShowsId id question := by
  unfold askedDecision? at hasked
  simp only [Option.bind_eq_bind, Option.bind_eq_some_iff] at hasked
  obtain ⟨⟨found, ruleset⟩, -, decision, hdecision, hquestion⟩ := hasked
  cases hquestion
  exact DecisionRequest.showsId_of_build h (eq_ok_of_toOption hdecision)

theorem RulesetCheck.showsId_of_askedGeneric? {check : RulesetCheck}
    {server : Server} {question : Value}
    (hasked : check.askedGeneric? request principal
      = some (server, question)) :
    ShowsId id question := by
  obtain ⟨ruleset, rfl⟩ := exists_of_askedGeneric? hasked
  exact showsId_of_request h rfl rfl

/-- **Whatever the checks send** bears a question that shows the id. -/
theorem Gate.exists_question_of_calls {gate : Gate}
    {network : Http.Network} {call : Http.Request}
    (hcall : call ∈ (gate.authorize network request principal body).calls) :
    ∃ question, ShowsId id question ∧
      Bears (Text.Utf8.bytes question.toText) call := by
  rcases List.mem_append.1 hcall with hcall | hcall
  · obtain ⟨server, question, hasked, hbears⟩ :=
      (ResourceCheck.asksOnce_run network request principal
        gate.checks.resources).exists_question hcall
    exact ⟨question, ResourceCheck.showsId_of_asked? h principal hasked,
      hbears⟩
  · have hruleset : call ∈ (gate.checks.rulesets.run network request principal
        body).calls := hcall
    unfold RulesetCheck.run at hruleset
    split at hruleset
    · obtain ⟨server, question, hasked, hbears⟩ :=
        (RulesetCheck.asksOnce_runDecision network request body
          gate.checks.rulesets).exists_question hruleset
      exact ⟨question, RulesetCheck.showsId_of_askedDecision? h body hasked,
        hbears⟩
    · obtain ⟨server, question, hasked, hbears⟩ :=
        (RulesetCheck.asksOnce_runGeneric network request principal
          gate.checks.rulesets).exists_question hruleset
      exact ⟨question,
        RulesetCheck.showsId_of_askedGeneric? h principal hasked, hbears⟩

end Shows

end Policy

/-! ## On the way to the backend service

The headers are handed to the HTTP client, which sets some by itself and leaves
some out where a reference leads to another host. The name of the id is none of
those. -/

namespace Http.Client

/-- **The headers that the client sees to**: it sets them by itself, or
leaves them out on the way. -/
def managed : List String :=
  ["accept", "referer"] ++ bodyHeaders ++ secretHeaders

section Managed

variable {name : String} (hname : name ∉ managed)
include hname

theorem values_withDefault {other : String} (hother : other ∈ managed)
    (headers : Headers) (value : FieldValue) :
    (withDefault headers other value).values name = headers.values name := by
  unfold withDefault
  split
  · rfl
  · refine Headers.values_set_of_ne ?_ headers value
    rintro rfl
    exact hname hother

/-- A request is first sent with all other headers as they are. -/
theorem values_firstHeaders (authority : Authority) (headers : Headers) :
    (firstHeaders authority headers).values name = headers.values name := by
  unfold firstHeaders
  dsimp only
  split
  · exact values_withDefault hname (by decide) headers _
  · rw [values_withDefault hname (by decide),
      values_withDefault hname (by decide)]

/-- It goes on with them as well. -/
theorem values_redirected (request : Request) (status : Nat) (next : Url) :
    (redirected request status next).headers.values name
      = request.headers.values name := by
  simp only [managed, List.mem_append, not_or] at hname
  obtain ⟨⟨hset, hbody⟩, hsecret⟩ := hname
  have hreferer : name ≠ "referer" := fun h => hset (by simp [h])
  have hkept : ∀ headers : Headers,
      (withReferer headers request.url next).values name
        = headers.values name := by
    intro headers
    unfold withReferer
    split
    · rfl
    · exact Headers.values_set_of_ne hreferer headers _
  unfold redirected
  dsimp only
  rw [hkept]
  refine Headers.values_keep ?_ request.headers
  simp [hbody, hsecret]

/-- **Whatever arrives of a request** has them as they were handed over. -/
theorem values_of_mem_arrived {network : Network} {method address : String}
    {headers : Headers} {body : List UInt8} {call : Request}
    (hcall : call ∈ (send network method address headers body).arrived) :
    call.headers.values name = headers.values name := by
  unfold send at hcall
  cases hurl : Url.parse? address with
  | none =>
    rw [hurl] at hcall
    cases hcall
  | some url =>
    rw [hurl] at hcall
    rcases (course_follow network greatestRedirects _).arrived_eq with
      hnone | ⟨further, harrived, -, hchain⟩
    · rw [hnone] at hcall
      cases hcall
    · rw [harrived] at hcall
      have hfirst := values_firstHeaders hname url.authority headers
      rcases List.mem_cons.1 hcall with rfl | hcall
      · exact hfirst
      · refine hchain.cons_induction
          (fun call => call.headers.values name = headers.values name) further
          ?_ hfirst call hcall
        rintro request _ ⟨response, next, -, -, rfl⟩ hrequest
        rw [values_redirected hname, hrequest]

end Managed

end Http.Client

/-! ## The whole way

Each way has had its turn, and what is left is to put them together over how a
request may end. The id is settled before anything else is done, and passed down
from there. -/

namespace Gateway

open PolicyGateway.Http PolicyGateway.Policy

/-- **Headers carry an id**: it is the one value under its name. One value and
no more, so nobody can choose among several. -/
def Carries (headers : Headers) (id : String) : Prop :=
  headers.values requestIdHeader = [Text.Utf8.bytes id]

theorem carries_withRequestId {id : String}
    (h : ∀ c ∈ id.toList, IsFieldChar c) (headers : Headers) :
    Carries (withRequestId headers id) id :=
  Headers.values_set (isFieldValue_bytes h) headers

/-- **A request goes by one id** on all its ways. One part for each way on which
the id leaves. -/
structure Identified (network : Network) (inbound : Inbound) (id : String)
    (handling : Handling) : Prop where
  /-- Whatever the checks send bears a question that shows the id. -/
  asked : ∀ call ∈ handling.policyCalls, ∃ question, ShowsId id question ∧
    Bears (Text.Utf8.bytes question.toText) call
  /-- A request that is allowed is handed over with headers that carry it. -/
  handed : ∀ processing, handling.processing = some processing →
    processing.decision = some .allow →
    ∃ address headers body, Carries headers id ∧
      handling.backendCalls
        = (Client.send network inbound.method address headers body).arrived
  /-- Whatever arrives of it carries the id. -/
  forwarded : ∀ call ∈ handling.backendCalls, Carries call.headers id
  /-- The response carries it, whatever the backend service answered. -/
  answered : Carries handling.response.headers id
  /-- A failure is told with it. -/
  told : ∀ processing failure, handling.processing = some processing →
    processing.result = .error failure →
    ∃ body, Tells handling.response failure.status body ∧
      body.toJson.member? "request_id" = some (.text id)

namespace Service

variable (service : Service) (network : Network) (id : String)
  (inbound : Inbound)

/-- What the checks see of a request has the id of the request. -/
theorem header?_accessRequest :
    (accessRequest inbound id).header? requestIdHeader = some id := by
  unfold AccessRequest.header? accessRequest
  dsimp only
  rw [Record.OrderedMap.find?_insert, if_pos rfl]
  rfl

/-- Whatever is asked about a request shows its id. -/
theorem exists_question_of_process {call : Request}
    (hcall : call ∈ (service.process network id inbound).policyCalls) :
    ∃ question, ShowsId id question ∧
      Bears (Text.Utf8.bytes question.toText) call := by
  obtain ⟨principal, body, -, hasked⟩ :=
    service.exists_authorization_of_process network id inbound hcall
  exact Gate.exists_question_of_calls (header?_accessRequest id inbound)
    principal (bodyValue body) hasked

variable {service network id inbound}

theorem carries_of_forward {method target : String} {headers : Headers}
    {body : List UInt8} (h : ∀ c ∈ id.toList, IsFieldChar c) {call : Request}
    (hcall : call ∈ (service.forwarder.forward network method target headers
      body id).calls) : Carries call.headers id := by
  have hkept : call.headers.values requestIdHeader
      = (Forwarder.outgoing headers id).values requestIdHeader :=
    Client.values_of_mem_arrived (by decide) hcall
  exact hkept.trans (carries_withRequestId h (passedOn headers))

/-- **Every request goes by its one id**: unless it is for the gateway itself,
whatever the service and its partners, whatever ids it brings along and whatever
the backend service calls it, and however it ends.

That it is one value under its name means that an id which the backend service
gives to its answer is replaced, and so are further ones that the request
brings. -/
theorem handle_identified (service : Service) (network : Network)
    (moment : Moment) (inbound : Inbound)
    (hpath : isInternal inbound.uri.path = false)
    (hmade : IsMade moment.madeId) :
    ∃ id, (∀ other, HasId inbound.headers moment.madeId other ↔ other = id) ∧
      Identified network inbound id (service.handle network moment inbound) := by
  have hchars := (hasId_requestId inbound.headers moment.madeId).isFieldChar
    hmade
  refine ⟨_, fun _ => hasId_iff, ?_⟩
  -- whether anything was forwarded, and then with which body
  have hforwards := service.process_forwards network (idOf moment inbound)
    inbound
  rw [handle_eq_process hpath]
  exact
    { asked := fun call hcall =>
        service.exists_question_of_process network _ inbound hcall
      handed := by
        rintro _ hprocessing hallowed
        cases hprocessing
        rcases hforwards with ⟨body, -, hcalls⟩ | ⟨hdenied, -⟩
        · exact ⟨_, _, body, carries_withRequestId hchars _, hcalls⟩
        · exact absurd hallowed hdenied
      forwarded := by
        intro call hcall
        rw [Handling.backendCalls_of_some] at hcall
        rcases hforwards with ⟨body, -, hcalls⟩ | ⟨-, hnone⟩
        · rw [hcalls] at hcall
          exact carries_of_forward hchars hcall
        · rw [hnone] at hcall
          cases hcall
      answered := carries_withRequestId hchars _
      told := by
        rintro _ failure hprocessing hfailed
        cases hprocessing
        dsimp only
        rw [hfailed]
        exact ⟨_, tells_responseOf_error failure _, rfl⟩ }

/-! ### Ids on every side

The request brings two ids, and a third one in bytes that are no text. The
backend service gives its answer ids of its own. -/

/-- A request that brings two ids and a third one that is no text. -/
def twiceNamed : Inbound :=
  { method := "GET"
    uri := .origin ⟨"/orders/7", none⟩
    headers := ⟨[("x-request-id", Text.Utf8.bytes "a1"),
      ("x-request-id", Text.Utf8.bytes "b2"), ("x-request-id", [0xff])]⟩
    body := {} }

/-- The answer of a backend service that has ids of its own. -/
def ownNamed : Response :=
  { status := 200
    headers := ⟨[("x-request-id", Text.Utf8.bytes "c3"),
      ("x-request-id", Text.Utf8.bytes "d4")]⟩ }

/-- The policy server allows, and the backend service answers in its way. -/
def naming : Network := fun request =>
  .answered (if request.url.path = ["check"] then allowing else ownNamed)

/-- An id as it is made up. -/
def someId : String := "0190f5fe-7c00-7a00-8000-00000000002a"

theorem isMade_someId : IsMade someId := by
  have hall : someId.toList.all
      (fun c => (Text.hexDigit? c).isSome || c == '-') = true := by
    decide +kernel
  intro c hc
  simpa using List.all_eq_true.1 hall c hc

/-- The request goes by the first id that it brings, to the policy server, to
the backend service and back. -/
theorem twiceNamed_identified :
    isInternal twiceNamed.uri.path = false ∧ IsMade someId ∧
      Identified naming twiceNamed "a1"
        (orders.handle naming ⟨someId, 0, none⟩ twiceNamed) ∧
      (orders.handle naming ⟨someId, 0, none⟩ twiceNamed).policyCalls.length
        = 1 ∧
      (orders.handle naming ⟨someId, 0, none⟩ twiceNamed).backendCalls.length
        = 1 := by
  have hpath : isInternal twiceNamed.uri.path = false := by decide +kernel
  obtain ⟨id, hid, h⟩ := handle_identified orders naming ⟨someId, 0, none⟩
    twiceNamed hpath isMade_someId
  have hbrought : HasId twiceNamed.headers someId "a1" :=
    .brought rfl (by decide +kernel) (by decide)
  rw [← (hid "a1").1 hbrought] at h
  exact ⟨hpath, isMade_someId, h, by decide +kernel, by decide +kernel⟩

end Service

end Gateway

end PolicyGateway
