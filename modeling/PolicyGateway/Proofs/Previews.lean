import PolicyGateway.Proofs.Referrals

/-!
# The preview of a decision request

The ruleset check can be asked for the decision request that it would send.
What it shows is worth something only if the check then sends this request and
no other, fails where the preview fails, and stays silent where there is
nothing to show. The preview looks neither at the credentials nor at the
network; so what the check makes of them has to come last.

`Foretells` says what a preview promises of a check in the decision dialect, and
`RulesetCheck.preview_foretells` that the promise is kept.

To ask once is to call the HTTP client once, and the answer is the one that the
client finally gives (`Server.AskedOnce`). The client may be referred elsewhere
in between. Where it is not, the question is the only request.

**Why the answers are not compared.** What a policy server answers is its own
affair, and it need not answer twice alike. So a preview cannot foretell the
verdict. It foretells what is asked, to whom, and how often, and that the
verdict depends on the answer and on nothing else.
-/

namespace PolicyGateway

/-! ## A single request

An answer may refer the client elsewhere, and then there is a second request
though it was called once. Where no answer does, one call is one request. -/

/-- The answer to a request, if there is one. -/
def Http.Reply.response? : Reply → Option Response
  | answered response => some response
  | _ => none

/-- A request that arrives, and whose answer refers nowhere if there is one, is
the only request. -/
theorem Http.Client.Course.eq_of_stays {network : Network} {budget : Nat}
    {request : Request} {exchange : Exchange}
    (h : Course network budget request exchange)
    (arrives : network request ≠ .refused)
    (stays : ∀ response, network request = .answered response →
      destination request.url response = .nowhere) :
    exchange = ⟨[request], (network request).response?⟩ := by
  cases hreply : network request with
  | refused => exact absurd hreply arrives
  | answered response => exact h.eq_of_nowhere hreply (stays response hreply)
  | closed =>
    cases h with
    | lost refused => exact absurd refused arrives
    | unanswered => rfl
    | told answered =>
      rw [hreply] at answered
      cases answered
    | led answered =>
      rw [hreply] at answered
      cases answered

namespace Policy

open PolicyGateway.Json (Value)
open PolicyGateway.Http.Client (LeadsTo)

/-! ## A question that is asked once

What is called once and what arrives are kept apart. The check calls the client
one time with one text, which is the check's doing; everything that arrives
after the first request is what the answers led to, which is not. -/

/-- **What the final answer of an endpoint comes to**: a verdict or a failure,
and always a failure without one. -/
def Endpoint.conclusion (endpoint : Endpoint) :
    Option Http.Response → Except Failure Verdict
  | none => .error .unreachable
  | some response => Server.readAnswer endpoint endpoint.verdict? response

namespace Server

/-- **A question is asked once**: the HTTP client is called one time, with the
text of the question, and what it gives is all there is. The first two parts are
what the check does, and the other three what arrives. -/
structure AskedOnce (server : Server) (network : Http.Network)
    (endpoint : Endpoint) (question : Value) (outcome : Outcome Verdict) :
    Prop where
  /-- All that arrives is what this call sends. -/
  exchanged : outcome.calls = (server.exchange network question).arrived
  /-- The result depends on its answer alone. -/
  concluded : outcome.result
    = endpoint.conclusion (server.exchange network question).response
  /-- What arrives first is the question as it is posted, and its body is the
  text of the question. -/
  posted : ∀ first, outcome.calls.head? = some first →
    server.post? question = some first ∧ first.method = "POST" ∧
      first.body = Text.Utf8.bytes question.toText
  /-- What arrives behind it is only what the answers lead to. -/
  followed : outcome.calls.IsChain (LeadsTo network)
  /-- A question that arrives, and whose answer refers nowhere if there is one,
  is the only request, and its answer is the one that counts. -/
  single : ∀ post, server.post? question = some post →
    network post ≠ .refused →
    (∀ response, network post = .answered response →
      Http.Client.destination post.url response = .nowhere) →
    outcome = ⟨[post], endpoint.conclusion (network post).response?⟩

variable {server : Server} {network : Http.Network} {endpoint : Endpoint}
  {question : Value}

/-- A question is posted with its text as the body. -/
theorem post?_eq_some {post : Http.Request}
    (h : server.post? question = some post) :
    post.method = "POST" ∧ post.body = Text.Utf8.bytes question.toText := by
  obtain ⟨url, -, rfl⟩ := Option.map_eq_some_iff.1 h
  exact ⟨rfl, rfl⟩

/-- What comes of asking is what one exchange comes to. -/
theorem ask_eq_conclusion (h : server.credentials.IsSupported) :
    server.ask network endpoint question endpoint.verdict?
      = ⟨(server.exchange network question).arrived,
          endpoint.conclusion (server.exchange network question).response⟩ := by
  refine congrArg₂ Outcome.mk (calls_ask h) ((result_ask h).trans ?_)
  cases (server.exchange network question).response <;> rfl

/-- **Asking is asking once**, with credentials that are supported. -/
theorem askedOnce_ask (h : server.credentials.IsSupported) :
    server.AskedOnce network endpoint question
      (server.ask network endpoint question endpoint.verdict?) where
  exchanged := calls_ask h
  concluded := congrArg Outcome.result (ask_eq_conclusion h)
  posted := by
    intro first hfirst
    rcases (posted_ask server network endpoint question).arrives with
      hnone | ⟨post, further, hpost, hcalls, -, -⟩
    · rw [hnone] at hfirst
      cases hfirst
    · rw [hcalls] at hfirst
      cases hfirst
      exact ⟨hpost, post?_eq_some hpost⟩
  followed := by
    rcases (posted_ask server network endpoint question).arrives with
      hnone | ⟨post, further, -, hcalls, -, hchain⟩
    · rw [hnone]
      exact .nil
    · rw [hcalls]
      exact hchain
  single := by
    intro post hpost arrives stays
    rw [ask_eq_conclusion h,
      (course_exchange network hpost).eq_of_stays arrives stays]

end Server

/-! ## What a preview promises

A preview ends in one of three ways, and the check in the same one: with a
failure, with nothing to show, or with a decision request. Both are made of the
same parts in the same order, so it is enough to follow what is selected and
then what can be built. -/

namespace RulesetCheck

/-- **What a preview promises** of a check of the same request. Credentials are
last: with ones that are not supported the preview shows a request, and the
check fails before it sends it. -/
structure Foretells (settings : RulesetSettings) (network : Http.Network)
    (preview : Except Failure (Option DecisionRequest))
    (outcome : Outcome Verdict) : Prop where
  /-- Where there is no preview, the check fails in the same way, and silently. -/
  failed : ∀ failure, preview = .error failure →
    outcome = .silent (.error failure)
  /-- Where nothing would be sent, the request passes silently. The reason says
  whether the section takes part. -/
  skipped : preview = .ok none →
    ∃ reason, outcome = .silent (.ok (.allow reason)) ∧
      (reason = inactive ∨ reason = unmatched) ∧
      (reason = inactive ↔ settings.isActive = false)
  /-- The server of the settings is asked once, with the decision request that
  was shown. -/
  asked : ∀ decision, preview = .ok (some decision) →
    settings.credentials.IsSupported →
    settings.server.AskedOnce network .decision decision.toJson outcome
  /-- Without a supported way to authenticate, nobody is asked. -/
  unsupported : ∀ decision, preview = .ok (some decision) →
    ¬ settings.credentials.IsSupported →
    outcome = .silent
      (.error (.unsupportedClientAuth settings.credentials.clientAuthMethod))

namespace Foretells

variable {settings : RulesetSettings} {network : Http.Network}

theorem of_failed (failure : Failure) :
    Foretells settings network (.error failure) (.silent (.error failure)) where
  failed := by
    rintro _ ⟨⟩
    rfl
  skipped := nofun
  asked := nofun
  unsupported := nofun

theorem of_skipped {reason : String}
    (hreason : reason = inactive ∨ reason = unmatched)
    (htells : reason = inactive ↔ settings.isActive = false) :
    Foretells settings network (.ok none) (.silent (.ok (.allow reason))) where
  failed := nofun
  skipped := fun _ => ⟨reason, rfl, hreason, htells⟩
  asked := nofun
  unsupported := nofun

theorem of_asked (decision : DecisionRequest) :
    Foretells settings network (.ok (some decision))
      (settings.server.askDecision network decision.toJson) where
  failed := nofun
  skipped := nofun
  asked := by
    rintro _ ⟨⟩ hsupported
    rw [Server.askDecision_eq]
    exact Server.askedOnce_ask hsupported
  unsupported := by
    rintro _ ⟨⟩ hunsupported
    rw [Server.askDecision_eq]
    exact Server.ask_of_unsupported hunsupported

end Foretells

/-- **What the check selects**: nothing, because of a tie; a reason to pass,
which says whether the section takes part; or a ruleset, to ask the server of
the settings about. -/
theorem select_cases (settings : RulesetSettings) (request : AccessRequest) :
    (∃ failure, (ofSettings settings).select request = .error failure) ∨
    (∃ reason, (ofSettings settings).select request = .ok (.skipped reason) ∧
      (reason = inactive ∨ reason = unmatched) ∧
      (reason = inactive ↔ settings.isActive = false)) ∨
    ∃ ruleset, (ofSettings settings).select request
      = .ok (.found settings.server ruleset) := by
  cases hactive : settings.isActive with
  | false =>
    exact .inr (.inl ⟨inactive, select_of_inactive hactive, .inl rfl, by simp⟩)
  | true =>
    unfold select
    rw [rules_of_active hactive]
    dsimp only
    rcases settings.table.best? (some request.method) request.path with
      ambiguity | (_ | ⟨key, ruleset⟩)
    · exact .inl ⟨_, rfl⟩
    · exact .inr (.inl ⟨unmatched, rfl, .inr rfl, by decide⟩)
    · exact .inr (.inr ⟨ruleset, rfl⟩)

/-- A check in the decision dialect is as it was foretold. -/
theorem foretells_runDecision (settings : RulesetSettings)
    (network : Http.Network) (request : AccessRequest) (body : Value) :
    Foretells settings network ((ofSettings settings).preview? request body)
      ((ofSettings settings).runDecision network request body) := by
  unfold preview? runDecision
  -- both go by what is selected, and then by what can be built
  rcases select_cases settings request with
    ⟨failure, hselect⟩ | ⟨reason, hselect, hreason, htells⟩ |
    ⟨ruleset, hselect⟩ <;> rw [hselect]
  · exact .of_failed failure
  · exact .of_skipped hreason htells
  · dsimp only
    cases DecisionRequest.build request ruleset body with
    | error failure => exact .of_failed failure
    | ok decision => exact .of_asked decision

/-- **The preview and the check agree.** -/
theorem preview_foretells (settings : RulesetSettings)
    (network : Http.Network) (request : AccessRequest) (principal : Principal)
    (body : Value) :
    let check := ofSettings settings
    let preview := check.preview? request body
    Foretells settings network preview
        (check.runDecision network request body) ∧
      (settings.dialect = .decision →
        Foretells settings network preview
          (check.run network request principal body)) := by
  intro check preview
  have hforetells := foretells_runDecision settings network request body
  refine ⟨hforetells, fun hdialect => ?_⟩
  unfold run
  rw [dialect_ofSettings, hdialect]
  exact hforetells

/-! ### An order that is decided on

The rule names one field of the body. The check asks the server about it once,
with just the text that was shown. -/

/-- Settings under which an order is decided on by its items. -/
def itemSettings : RulesetSettings :=
  { enabled := true
    validationUrl := "http://policy/decide"
    credentials := .basic "gateway" "secret"
    resourceMap := .ofList [("[/orders:POST]",
      { name := "orders", body := .ofList [("ids", "$.items[*].id")] })] }

/-- Somebody orders. -/
def itemRequest : AccessRequest :=
  { method := "POST", path := "/orders", fullUrl := "/orders" }

/-- One item is ordered. -/
def orderedItem : Value :=
  .object [("items", .array [.object [("id", .text "gift")]])]

/-- The policy server is shown the item, once, and just as the preview has it. -/
theorem order_foretold :
    let check := ofSettings itemSettings
    let outcome := check.run (fun _ => .answered allowing) itemRequest {}
      orderedItem
    ∃ decision post,
      check.preview? itemRequest orderedItem = .ok (some decision) ∧
        (Value.object decision.body).toText = "\x7b\"ids\":[\"gift\"]\x7d" ∧
        outcome.calls = [post] ∧
        post.body = Text.Utf8.bytes decision.toJson.toText := by
  intro check outcome
  have hforetells : Foretells itemSettings (fun _ => .answered allowing)
      (check.preview? itemRequest orderedItem) outcome :=
    (preview_foretells itemSettings (fun _ => .answered allowing) itemRequest
      {} orderedItem).2 rfl
  have hshown : ((check.preview? itemRequest orderedItem).toOption.bind
      id).map (fun shown => (Value.object shown.body).toText)
      = some "\x7b\"ids\":[\"gift\"]\x7d" := by
    decide +kernel
  obtain ⟨decision, hdecision, hbody⟩ := Option.map_eq_some_iff.1 hshown
  obtain ⟨_, hpreview, rfl⟩ := Option.bind_eq_some_iff.1 hdecision
  have hmethods : outcome.calls.map (·.method) = ["POST"] := by decide +kernel
  obtain ⟨post, hcalls, -⟩ := List.map_eq_singleton_iff.1 hmethods
  have hasked := hforetells.asked decision (eq_ok_of_toOption hpreview) (.inr rfl)
  obtain ⟨-, -, htext⟩ := hasked.posted post (by rw [hcalls]; rfl)
  exact ⟨decision, post, eq_ok_of_toOption hpreview, hbody, hcalls, htext⟩

end RulesetCheck

end Policy

end PolicyGateway
