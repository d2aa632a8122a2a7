import Mathlib.Data.List.Chain
import PolicyGateway.Proofs.Evidence

/-!
# What a question sends and which answer counts

A check asks one question at most, and posts it once. Between the check and
the policy server stands the HTTP client, and it follows an answer that refers
elsewhere. Then more than one request is sent, to places that nobody named in
the settings, and the verdict is read from the last answer, whatever the first
one said.

So an answer without success is a failure, told with its status and after a
single request, exactly if it refers nowhere (`Checks.refusal_told_iff`). All
statuses but five do, and so do these five without an address. A server that
answers with one of the five and an address does not refuse: in
`Checks.referral_allows` it says no more than where to go, and whoever answers
there allows the request.

**Why it matters who answers.** The settings name the one server that is trusted
with a decision. A server that answers with success decides, and one that does
not should make the check fail, since silence and errors must not open the gate.
An answer that refers elsewhere is neither. It is not success, and yet the check
does not fail: it goes on to whoever is there.
-/

namespace PolicyGateway

/-! ## What is sent on the way

What the client does is given as a relation between a request, the budget of
references and the exchange (`Course`). All that is said here follows from that
relation by induction on it, one case for each way in which an answer can be
taken. -/

namespace Http.Client

/-- Only a status that redirects refers anywhere. -/
theorem destination_eq_nowhere {here : Url} {response : Response}
    (h : isRedirect response.status = false) :
    destination here response = .nowhere := by
  unfold destination
  rw [h]
  rfl

/-- Where the body is not dropped, the request goes on as it is. -/
theorem redirected_eq {request : Request} {status : Nat} {next : Url}
    (h : dropsBody status request.method = false) :
    (redirected request status next).method = request.method ∧
      (redirected request status next).body = request.body := by
  unfold redirected
  rw [h]
  exact ⟨rfl, rfl⟩

/-- **A request leads to a further one**: the answer to it refers to the web,
and the further request is the one that follows the reference. Method and body
may change on the way, by the status of the answer. -/
def LeadsTo (network : Network) (request further : Request) : Prop :=
  ∃ response next, network request = .answered response ∧
    destination request.url response = .web next ∧
    further = redirected request response.status next

namespace Course

variable {network : Network} {budget : Nat} {request : Request}
  {exchange : Exchange} {response : Response}

/-- Where nothing arrives, nothing is answered. -/
theorem response_of_arrived_nil (h : Course network budget request exchange)
    (hnone : exchange.arrived = []) : exchange.response = none := by
  cases h with
  | lost => rfl
  | unanswered => rfl
  | told => cases hnone
  | led => cases hnone

/-- **What arrives** is nothing, or the request and behind it a chain of
references, no more of them than may be followed. -/
theorem arrived_eq (h : Course network budget request exchange) :
    exchange.arrived = [] ∨
      ∃ further, exchange.arrived = request :: further ∧
        further.length ≤ budget ∧
        (request :: further).IsChain (LeadsTo network) := by
  induction h with
  | lost => exact .inl rfl
  | unanswered => exact .inr ⟨[], rfl, Nat.zero_le _, .singleton _⟩
  | told => exact .inr ⟨[], rfl, Nat.zero_le _, .singleton _⟩
  | led answered leads _ ih =>
    right
    rcases ih with hnone | ⟨further, harrived, hlength, hchain⟩
    -- the further request need not arrive
    · rw [hnone]
      exact ⟨[], rfl, Nat.zero_le _, .singleton _⟩
    · rw [harrived]
      exact ⟨_, rfl, Nat.succ_le_succ hlength,
        .cons_cons ⟨_, _, answered, leads, rfl⟩ hchain⟩

/-- **What is told** is the answer to the last request. -/
theorem exists_last (h : Course network budget request exchange)
    (htold : exchange.response = some response) :
    ∃ last, exchange.arrived.getLast? = some last ∧
      network last = .answered response := by
  induction h with
  | lost => cases htold
  | unanswered => cases htold
  | told answered =>
    cases htold
    exact ⟨_, rfl, answered⟩
  | led _ _ _ ih =>
    obtain ⟨last, hlast, answered⟩ := ih htold
    refine ⟨last, ?_, answered⟩
    rw [List.getLast?_cons, hlast]
    rfl

/-- An answer that refers nowhere is told. -/
theorem eq_of_nowhere (h : Course network budget request exchange)
    (answered : network request = .answered response)
    (stays : destination request.url response = .nowhere) :
    exchange = ⟨[request], some response⟩ := by
  cases h with
  | lost refused =>
    rw [refused] at answered
    cases answered
  | unanswered _ refers => exact absurd stays (refers response answered)
  | told answered' =>
    rw [answered'] at answered
    cases answered
    rfl
  | led answered' leads =>
    rw [answered'] at answered
    cases answered
    rw [leads] at stays
    cases stays

/-- An answer that refers somewhere is not told: a further request arrives,
or there is no answer. -/
theorem response_of_single (h : Course network budget request exchange)
    (answered : network request = .answered response)
    (refers : destination request.url response ≠ .nowhere)
    (hsingle : exchange.arrived = [request]) : exchange.response = none := by
  cases h with
  | lost => rfl
  | unanswered => rfl
  | told answered' stays =>
    rw [answered'] at answered
    cases answered
    exact absurd stays refers
  | led _ _ course =>
    exact course.response_of_arrived_nil (List.cons.inj hsingle).2

end Course

end Http.Client

namespace Policy

open PolicyGateway.Json (Value)
open PolicyGateway.Http.Client (LeadsTo)

/-! ## What asking comes to

A question is one exchange of the client and one reading of its final answer.
The check sees nothing else of it, and so it cannot know whether the answer came
from the server that it asked. -/

/-- **The verdict that an endpoint answers with**, if the document can be read.
It hides what the two kinds of answers have for fields, so that one statement
can be about both. -/
def Endpoint.verdict? : Endpoint → List UInt8 → Option Verdict
  | decision, bs => (DecisionAnswer.ofBytes? bs).map DecisionAnswer.verdict
  | validation, bs =>
    (ValidationAnswer.ofBytes? bs).map ValidationAnswer.verdict

namespace Server

variable {server : Server} {network : Http.Network} {endpoint : Endpoint}
  {question : Value} {post : Http.Request}

/-- A verdict is read from an answer like the answer itself. -/
theorem map_readAnswer {α β : Type} (f : α → β) (read : List UInt8 → Option α)
    (response : Http.Response) :
    (readAnswer endpoint read response).map f
      = readAnswer endpoint (fun bs => (read bs).map f) response := by
  unfold readAnswer
  split
  · rfl
  · split
    · rfl
    · split
      · rfl
      · next bs _ => cases hread : read bs <;> simp only [hread] <;> rfl

theorem map_ask {α β : Type} (f : α → β) (read : List UInt8 → Option α) :
    (⟨(server.ask network endpoint question read).calls,
        (server.ask network endpoint question read).result.map f⟩ : Outcome β)
      = server.ask network endpoint question fun bs => (read bs).map f := by
  unfold ask
  split
  · rfl
  · next auth _ =>
    dsimp only
    cases (Http.Client.send network "POST" server.url (server.headers auth)
      (Text.Utf8.bytes question.toText)).response with
    | none => rfl
    | some response => exact congrArg _ (map_readAnswer f read response)

/-- **A question as it is posted**, if the address of the server is one. It is
what a single request would be, and the first one in any case. -/
def post? (server : Server) (question : Value) : Option Http.Request :=
  (Http.Url.parse? server.url).map fun url =>
    { method := "POST"
      url := url.withoutUser
      headers := Http.Client.firstHeaders url.authority
        (server.headers server.credentials.auth)
      body := Text.Utf8.bytes question.toText }

/-- **An answer is told as a refusal**: the question is the only request, and
the failure has the status of the answer and the endpoint that was asked, whose
`refusal` is the reason. -/
structure Refused (endpoint : Endpoint) (post : Http.Request)
    (response : Http.Response) (outcome : Outcome Verdict) : Prop where
  /-- Nothing else is sent. -/
  single : outcome.calls = [post]
  /-- The failure is this one. -/
  result : outcome.result
    = .error (.unexpectedStatus response.status endpoint)

/-- **What comes of a question** to an endpoint of a server. The first two parts
hold in every case. The last two tell when a refusal counts as one, in general
and for all statuses but those that redirect. -/
structure Posted (server : Server) (network : Http.Network)
    (endpoint : Endpoint) (question : Value) (outcome : Outcome Verdict) :
    Prop where
  /-- What arrives is nothing, or the question as it is posted and behind it
  what the answers lead to. -/
  arrives : outcome.calls = [] ∨
    ∃ post further, server.post? question = some post ∧
      outcome.calls = post :: further ∧
      further.length ≤ Http.Client.greatestRedirects ∧
      (post :: further).IsChain (LeadsTo network)
  /-- The verdict is read from the answer to the last request. -/
  verdict : ∀ verdict, outcome.result = .ok verdict →
    ∃ last response, outcome.calls.getLast? = some last ∧
      network last = .answered response ∧
      readAnswer endpoint endpoint.verdict? response = .ok verdict
  /-- An answer without success is told as a refusal exactly if it refers
  nowhere. -/
  refused_iff : ∀ post response, server.credentials.IsSupported →
    server.post? question = some post →
    network post = .answered response → response.isSuccess = false →
    (Refused endpoint post response outcome ↔
      Http.Client.destination post.url response = .nowhere)
  /-- And always if its status does not redirect. -/
  refused : ∀ post response, server.credentials.IsSupported →
    server.post? question = some post →
    network post = .answered response → response.isSuccess = false →
    Http.Client.isRedirect response.status = false →
    Refused endpoint post response outcome

/-- A refusal is never a verdict that allows. -/
theorem Refused.not_allows {response : Http.Response}
    {outcome : Outcome Verdict}
    (h : Refused endpoint post response outcome) :
    ¬ Allows outcome.result := by
  rw [h.result]
  exact not_allows_error

/-- The HTTP client follows the question as it is posted. -/
theorem course_exchange (network : Http.Network)
    (h : server.post? question = some post) :
    Http.Client.Course network Http.Client.greatestRedirects post
      (server.exchange network question) := by
  obtain ⟨url, hurl, rfl⟩ := Option.map_eq_some_iff.1 h
  unfold exchange Http.Client.send
  rw [hurl]
  exact Http.Client.course_follow ..

/-- An answer without success is a failure. -/
theorem readAnswer_of_not_isSuccess {α : Type} {read : List UInt8 → Option α}
    {response : Http.Response} (h : response.isSuccess = false) :
    readAnswer endpoint read response
      = .error (.unexpectedStatus response.status endpoint) := by
  unfold readAnswer
  rw [h]
  rfl

section Ask

variable {α : Type} {read : List UInt8 → Option α}

theorem calls_ask (h : server.credentials.IsSupported) :
    (server.ask network endpoint question read).calls
      = (server.exchange network question).arrived := by
  have hauth := Credentials.ofName_eq_ok_iff.2 ⟨h, rfl⟩
  unfold ask
  rw [hauth]
  rfl

theorem result_ask (h : server.credentials.IsSupported) :
    (server.ask network endpoint question read).result
      = match (server.exchange network question).response with
        | none => .error .unreachable
        | some response => readAnswer endpoint read response := by
  have hauth := Credentials.ofName_eq_ok_iff.2 ⟨h, rfl⟩
  unfold ask
  rw [hauth]
  rfl

/-- Without a supported way to authenticate nothing is asked. -/
theorem ask_of_unsupported (h : ¬ server.credentials.IsSupported) :
    server.ask network endpoint question read = .silent (.error
      (.unsupportedClientAuth server.credentials.clientAuthMethod)) := by
  obtain ⟨hempty, hbasic⟩ := not_or.1 h
  have hauth : ClientAuth.ofName server.credentials.clientAuthMethod
      = .error (.unsupportedClientAuth server.credentials.clientAuthMethod) := by
    unfold ClientAuth.ofName
    rw [if_neg hempty, if_neg hbasic]
  unfold ask
  rw [hauth]

end Ask

/-- An answer without success is told as a refusal exactly if it refers
nowhere. -/
theorem refused_ask_iff {response : Http.Response}
    (hsupported : server.credentials.IsSupported)
    (hpost : server.post? question = some post)
    (answered : network post = .answered response)
    (hrefuses : response.isSuccess = false) :
    Refused endpoint post response
        (server.ask network endpoint question endpoint.verdict?) ↔
      Http.Client.destination post.url response = .nowhere := by
  have hcourse := course_exchange network hpost
  constructor
  · rintro ⟨hsingle, hresult⟩
    rw [calls_ask hsupported] at hsingle
    rw [result_ask hsupported] at hresult
    -- the only request, and yet not the last one: there is no answer at all
    by_contra hrefers
    rw [hcourse.response_of_single answered hrefers hsingle] at hresult
    cases hresult
  · intro hstays
    -- the answer ends the exchange, and is what the check gets
    have htold := hcourse.eq_of_nowhere answered hstays
    refine ⟨?_, ?_⟩
    · rw [calls_ask hsupported, htold]
    · rw [result_ask hsupported, htold]
      exact readAnswer_of_not_isSuccess hrefuses

/-- **What comes of asking.** -/
theorem posted_ask (server : Server) (network : Http.Network)
    (endpoint : Endpoint) (question : Value) :
    server.Posted network endpoint question
      (server.ask network endpoint question endpoint.verdict?) where
  arrives := by
    by_cases hsupported : server.credentials.IsSupported
    · rw [calls_ask hsupported]
      cases hpost : server.post? question with
      | none =>
        left
        have hurl := Option.map_eq_none_iff.1 hpost
        unfold exchange Http.Client.send
        rw [hurl]
      | some post =>
        refine (course_exchange network hpost).arrived_eq.imp_right ?_
        rintro ⟨further, harrived⟩
        exact ⟨post, further, rfl, harrived⟩
    · rw [ask_of_unsupported hsupported]
      exact .inl rfl
  verdict := by
    intro verdict hverdict
    obtain ⟨bs, hanswers, hread⟩ := ask_eq_ok_iff.1 hverdict
    obtain ⟨response, hresponse, hcarries⟩ := hanswers.response
    -- a verdict is read from the final response, and that is the answer to the
    -- last request
    have hanswer : readAnswer endpoint endpoint.verdict? response
        = .ok verdict := readAnswer_eq_ok_iff.2 ⟨bs, hcarries, hread⟩
    rw [calls_ask hanswers.supported]
    cases hpost : server.post? question with
    | none =>
      have hurl := Option.map_eq_none_iff.1 hpost
      unfold exchange Http.Client.send at hresponse
      rw [hurl] at hresponse
      cases hresponse
    | some post =>
      obtain ⟨last, hlast, answered⟩ :=
        (course_exchange network hpost).exists_last hresponse
      exact ⟨last, response, hlast, answered, hanswer⟩
  refused_iff := fun _ _ hsupported hpost answered hrefuses =>
    refused_ask_iff hsupported hpost answered hrefuses
  refused := fun _ _ hsupported hpost answered hrefuses hstays =>
    (refused_ask_iff hsupported hpost answered hrefuses).2
      (Http.Client.destination_eq_nowhere hstays)

end Server

/-! ## What each check asks

There are three ways to ask: the resource check, and the ruleset check in each
of its dialects. They differ in what is asked and in how the answer is read, and
in nothing that is said here. -/

/-- **A check that asks once**: without a question it sends nothing, and of its
question comes what comes of one. To ask a second time would be a second chance
for whoever answers. -/
def AsksOnce (network : Http.Network) (endpoint : Endpoint)
    (outcome : Outcome Verdict) : Option (Server × Value) → Prop
  | none => outcome.calls = []
  | some (server, question) =>
    server.Posted network endpoint question outcome

/-- **What the resource check asks**, and whom. -/
def ResourceCheck.asked? (check : ResourceCheck) (request : AccessRequest)
    (principal : Principal) : Option (Server × Value) := do
  let rules ← check.rules
  let best ← (rules.resources.best? none request.path).toOption
  let (_, resource) ← best
  return (rules.server,
    question principal request resource rules.anonymousAccess)

/-- A check that takes part asks its server about the one best resource. -/
theorem ResourceCheck.asked?_of_best {settings : ResourceSettings}
    {request : AccessRequest} {principal : Principal}
    {rule : Route.Pattern × String} (hact : settings.isActive = true)
    (hbest : settings.table.best? none request.path = .ok (some rule)) :
    (ofSettings settings).asked? request principal
      = some (settings.server, question principal request rule.2
          settings.anonymousAccess) := by
  unfold asked?
  rw [rules_of_active hact]
  show (settings.table.best? none request.path).toOption.bind _ = _
  rw [hbest]
  rfl

/-- It asks on behalf of the caller. -/
theorem ResourceCheck.exists_of_asked? {check : ResourceCheck}
    {request : AccessRequest} {principal : Principal} {server : Server}
    {asked : Value} (h : check.asked? request principal = some (server, asked)) :
    ∃ resource anonymousAccess,
      asked = question principal request resource anonymousAccess := by
  unfold asked? at h
  simp only [Option.bind_eq_bind, Option.bind_eq_some_iff] at h
  obtain ⟨rules, -, best, -, ⟨pattern, resource⟩, -, hasked⟩ := h
  cases hasked
  exact ⟨resource, rules.anonymousAccess, rfl⟩

/-- **The server and the ruleset** that the ruleset check finds. It finds none
where the table has no answer, and where it is ambiguous. -/
def RulesetCheck.found? (check : RulesetCheck) (request : AccessRequest) :
    Option (Server × Ruleset) :=
  match check.select request with
  | .ok (.found server ruleset) => some (server, ruleset)
  | _ => none

/-- **What the ruleset check asks in the decision dialect**, and whom. -/
def RulesetCheck.askedDecision? (check : RulesetCheck)
    (request : AccessRequest) (body : Value) : Option (Server × Value) := do
  let (server, ruleset) ← check.found? request
  let decision ← (DecisionRequest.build request ruleset body).toOption
  return (server, decision.toJson)

/-- **What the ruleset check asks in the generic dialect**, and whom. -/
def RulesetCheck.askedGeneric? (check : RulesetCheck)
    (request : AccessRequest) (principal : Principal) :
    Option (Server × Value) := do
  let (server, ruleset) ← check.found? request
  return (server, question principal request ruleset)

/-- In the generic dialect it asks on behalf of the caller as well. -/
theorem RulesetCheck.exists_of_askedGeneric? {check : RulesetCheck}
    {request : AccessRequest} {principal : Principal} {server : Server}
    {asked : Value}
    (h : check.askedGeneric? request principal = some (server, asked)) :
    ∃ ruleset, asked = question principal request ruleset := by
  unfold askedGeneric? at h
  simp only [Option.bind_eq_bind, Option.bind_eq_some_iff] at h
  obtain ⟨⟨found, ruleset⟩, -, hasked⟩ := h
  cases hasked
  exact ⟨ruleset, rfl⟩

section Checks

variable (network : Http.Network) (request : AccessRequest)
  (principal : Principal) (body : Value)

theorem Server.posted_askValidation (server : Server) (question : Value) :
    server.Posted network .validation question
      (server.askValidation network question) := by
  unfold askValidation
  rw [map_ask]
  exact posted_ask server network .validation question

/-- A question in the decision dialect is asked for its verdict. -/
theorem Server.askDecision_eq {server : Server} {question : Value} :
    server.askDecision network question
      = server.ask network .decision question Endpoint.decision.verdict? :=
  map_ask DecisionAnswer.verdict DecisionAnswer.ofBytes?

theorem Server.posted_askDecision (server : Server) (question : Value) :
    server.Posted network .decision question
      (server.askDecision network question) := by
  rw [askDecision_eq]
  exact posted_ask server network .decision question

theorem ResourceCheck.asksOnce_run (check : ResourceCheck) :
    AsksOnce network .validation (check.run network request principal)
      (check.asked? request principal) := by
  unfold run asked?
  cases check.rules with
  | none => rfl
  | some rules =>
    dsimp only [Option.bind_eq_bind, Option.bind_some]
    cases rules.resources.best? none request.path with
    | error ambiguity => rfl
    | ok best =>
      cases best with
      | none => rfl
      | some entry => exact Server.posted_askValidation network _ _

theorem RulesetCheck.asksOnce_runDecision (check : RulesetCheck) :
    AsksOnce network .decision (check.runDecision network request body)
      (check.askedDecision? request body) := by
  unfold runDecision askedDecision? found?
  rcases check.select request with failure | ⟨reason⟩ | ⟨server, ruleset⟩
  · rfl
  · rfl
  · dsimp only [Option.bind_eq_bind, Option.bind_some]
    cases DecisionRequest.build request ruleset body with
    | error failure => rfl
    | ok decision => exact Server.posted_askDecision network _ _

theorem RulesetCheck.asksOnce_runGeneric (check : RulesetCheck) :
    AsksOnce network .validation (check.runGeneric network request principal)
      (check.askedGeneric? request principal) := by
  unfold runGeneric askedGeneric? found?
  rcases check.select request with failure | ⟨reason⟩ | ⟨server, ruleset⟩
  · rfl
  · rfl
  · exact Server.posted_askValidation network _ _

end Checks

/-- **Which answers without success are failures.** Every question is posted
once, and of the requests behind it each one is what an answer refers to. An
answer without success is told, with its status and the refusal of the
endpoint, exactly if it refers nowhere. So it is of each check, and in either
dialect. -/
theorem Checks.refusal_told_iff (network : Http.Network) :
    (∀ (server : Server) (endpoint : Endpoint) (question : Value),
      server.Posted network endpoint question
        (server.ask network endpoint question endpoint.verdict?)) ∧
    ∀ (checks : Checks) (request : AccessRequest) (principal : Principal)
      (body : Value),
      AsksOnce network .validation
          (checks.resources.run network request principal)
          (checks.resources.asked? request principal) ∧
        AsksOnce network .decision
          (checks.rulesets.runDecision network request body)
          (checks.rulesets.askedDecision? request body) ∧
        AsksOnce network .validation
          (checks.rulesets.runGeneric network request principal)
          (checks.rulesets.askedGeneric? request principal) :=
  ⟨fun server endpoint question =>
      Server.posted_ask server network endpoint question,
    fun checks request principal body =>
      ⟨checks.resources.asksOnce_run network request principal,
        checks.rulesets.asksOnce_runDecision network request body,
        checks.rulesets.asksOnce_runGeneric network request principal⟩⟩

/-! ### A server that refers to another place

The status is one after which a post is repeated as it is. So whoever is at the
other place is sent the whole question, and its answer counts. -/

/-- The answer of a server that only says where to go. -/
def elsewhere : Http.Response :=
  { status := 307
    headers := ⟨[("location", Text.Utf8.bytes "/elsewhere")]⟩ }

/-- The policy server refers to another place, and whoever answers there
allows. -/
def referring : Http.Network := fun request =>
  .answered (if request.url.path = ["check"] then elsewhere else allowing)

/-- What is asked about an order. -/
def ordersQuestion : Value :=
  ResourceCheck.question {} ordersRequest "order" false

/-- The question is posted to both places, and the request is allowed, although
the policy server did not answer with success. -/
theorem Checks.referral_allows :
    let outcome := (ofSettings ordersSettings).resources.run referring
      ordersRequest {}
    ∃ first second,
      ordersSettings.resources.server.post? ordersQuestion = some first ∧
        referring first = .answered elsewhere ∧
        outcome.calls = [first, second] ∧
        second.method = "POST" ∧ second.body = first.body ∧
        second.url.path = ["elsewhere"] ∧
        Allows outcome.result ∧
        ¬ Server.Refused .validation first elsewhere outcome := by
  intro outcome
  have hbest : ordersSettings.resources.table.best? none ordersRequest.path
      = .ok (some (.parse "[/orders/*]", "order")) :=
    eq_ok_of_toOption (by decide +kernel)
  have hasked : (ofSettings ordersSettings).resources.asked? ordersRequest {}
      = some (ordersSettings.resources.server, ordersQuestion) :=
    ResourceCheck.asked?_of_best rfl hbest
  have hasks := ((refusal_told_iff referring).2 (ofSettings ordersSettings)
    ordersRequest {} (.object [])).1
  rw [hasked] at hasks
  have hposted : ordersSettings.resources.server.Posted referring .validation
      ordersQuestion outcome := hasks
  have hallows : Allows outcome.result :=
    ⟨⟨true, ""⟩, eq_ok_of_toOption (by decide +kernel), rfl⟩
  have hpaths : outcome.calls.map (·.url.path)
      = [["check"], ["elsewhere"]] := by decide +kernel
  rcases hposted.arrives with
    hnone | ⟨first, further, hpost, hcalls, -, hchain⟩
  · rw [hnone] at hpaths
    cases hpaths
  rw [hcalls, List.map_cons, List.cons.injEq,
    List.map_eq_singleton_iff] at hpaths
  obtain ⟨hcheck, second, rfl, hpath⟩ := hpaths
  have hanswered : referring first = .answered elsewhere :=
    congrArg Http.Reply.answered (if_pos hcheck)
  obtain ⟨⟨response, next, hresponse, -, rfl⟩, -⟩ :=
    List.isChain_cons_cons.1 hchain
  rw [hanswered] at hresponse
  cases hresponse
  have hmethod : first.method = "POST" := by
    obtain ⟨url, -, rfl⟩ := Option.map_eq_some_iff.1 hpost
    rfl
  -- after this status a post goes on as it is
  obtain ⟨hmethod', hbody⟩ := Http.Client.redirected_eq
    (show Http.Client.dropsBody elsewhere.status first.method = false from rfl)
  exact ⟨first, _, hpost, hanswered, hcalls, hmethod'.trans hmethod, hbody,
    hpath, hallows, fun hrefused => hrefused.not_allows hallows⟩

end Policy

end PolicyGateway
