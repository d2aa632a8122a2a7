import PolicyGateway.Proofs.Addresses
import PolicyGateway.Proofs.FailClosed
import PolicyGateway.Proofs.QueryWeight
import PolicyGateway.Proofs.Targets

/-!
# The query that is shown and the query that is forwarded

What is forwarded of a request is its target. What a policy server is shown in
the decision dialect is the query of the whole URL, and that URL is put together
from the host that the headers name and the target, then read again. A host is
any text, so it may have ended the path before the target begins.

`shown_query_iff` says which query is shown, and for which hosts its parameters
are those of the target: for those that hold neither a question mark nor a
number sign. A question mark takes the target into a query of the host, which
then never shows the same, since it is heavier. A number sign hides the target
altogether, so that the client chooses what is shown (`masked_shows_user`).

**Why a host can do this.** The URL is a text that is put together and read
again, and what stands in front of the target is taken from a header. A header
is any text. Its author is the author of the target as well, and can choose the
host so that the reader of the whole takes the target for something else.
-/

namespace PolicyGateway

open PolicyGateway.Http.Url (endsPath)

namespace Uri

/-! ## The query of a text

It takes two characters to find a query, and whichever comes first decides what
the rest is. So of two texts, one behind the other, the first may leave the
query to the second, take all of it into its own, or hide it. -/

/-- **The query of a text**: what stands between its first question mark and
the number sign behind it, unless a number sign stands in front. -/
def queryOf (cs : List Char) : Option (List Char) :=
  match cs.dropWhile (!endsPath ·) with
  | '?' :: rest => some (rest.takeWhile (· != '#'))
  | _ => none

theorem queryOf_question (rest : List Char) :
    queryOf ('?' :: rest) = some (rest.takeWhile (· != '#')) := rfl

/-- A text that has not ended its path leaves the query to what follows. -/
theorem queryOf_append {cs : List Char} (h : cs.any endsPath = false)
    (ds : List Char) : queryOf (cs ++ ds) = queryOf ds := by
  unfold queryOf
  rw [List.dropWhile_append_of_pos fun c hc => by
    simpa using List.any_eq_false.1 h c hc]

/-- A text that has ended its path does so at one place first. -/
theorem exists_end {cs : List Char} (h : cs.any endsPath = true) :
    ∃ before rest, before.any endsPath = false ∧
      (cs = before ++ '?' :: rest ∨ cs = before ++ '#' :: rest) := by
  obtain ⟨mark, hfind⟩ := Option.isSome_iff_exists.1
    (List.find?_isSome.2 (List.any_eq_true.1 h))
  obtain ⟨hmark, before, rest, rfl, hbefore⟩ :=
    List.find?_eq_some_iff_append.1 hfind
  refine ⟨before, rest, List.any_eq_false.2 (by simpa using hbefore), ?_⟩
  unfold endsPath at hmark
  simp only [Bool.or_eq_true, beq_iff_eq] at hmark
  rcases hmark with rfl | rfl
  · exact .inl rfl
  · exact .inr rfl

theorem not_mem_of_any {before : List Char}
    (h : before.any endsPath = false) : '?' ∉ before ∧ '#' ∉ before :=
  ⟨fun hmem => List.any_eq_false.1 h '?' hmem (by decide),
    fun hmem => List.any_eq_false.1 h '#' hmem (by decide)⟩

theorem any_of_mem {cs : List Char} {c : Char} (hmem : c ∈ cs)
    (hc : endsPath c = true) : cs.any endsPath = true :=
  List.any_eq_true.2 ⟨c, hmem, hc⟩

/-- What holds no number sign is taken whole. -/
theorem takeWhile_eq_self {cs : List Char} (h : '#' ∉ cs) :
    cs.takeWhile (· != '#') = cs := by
  have hall : ∀ c ∈ cs, (c != '#') = true := fun c hc => by
    simpa using fun heq : c = '#' => h (heq ▸ hc)
  have htake : (cs ++ []).takeWhile (· != '#') = cs ++ [] :=
    List.takeWhile_append_of_pos hall
  rwa [List.append_nil] at htake

/-- **A text that has begun a fragment** lets nothing follow. -/
theorem queryOf_append_of_fragment {cs : List Char} (h : '#' ∈ cs)
    (ds : List Char) : queryOf (cs ++ ds) = queryOf cs := by
  obtain ⟨before, rest, hbefore, rfl | rfl⟩ :=
    exists_end (any_of_mem h (by decide))
  · have hrest : '#' ∈ rest := by
      rcases List.mem_append.1 h with hmem | hmem
      · exact absurd hmem (not_mem_of_any hbefore).2
      · exact (List.mem_cons.1 hmem).resolve_left (by decide)
    rw [List.append_assoc, queryOf_append hbefore, queryOf_append hbefore,
      List.cons_append, queryOf_question, queryOf_question]
    exact congrArg some (Http.Url.takeWhile_append_of_any (p := (· == '#'))
      (List.any_eq_true.2 ⟨'#', hrest, by decide⟩) ds)
  · rw [List.append_assoc, queryOf_append hbefore, queryOf_append hbefore]
    rfl

/-- **A text that has begun a query** takes what follows into it. -/
theorem queryOf_append_of_query {cs : List Char} (h : '?' ∈ cs)
    (hfragment : '#' ∉ cs) :
    ∃ begun, ∀ ds, '#' ∉ ds → queryOf (cs ++ ds) = some (begun ++ ds) := by
  obtain ⟨before, rest, hbefore, rfl | rfl⟩ :=
    exists_end (any_of_mem h (by decide))
  · refine ⟨rest, fun ds hds => ?_⟩
    have hnone : '#' ∉ rest ++ ds := by
      rw [List.mem_append, not_or]
      exact ⟨fun hmem => hfragment (by simp [hmem]), hds⟩
    rw [List.append_assoc, queryOf_append hbefore, List.cons_append,
      queryOf_question, takeWhile_eq_self hnone]
  · exact absurd (by simp) hfragment

/-- **The query that is read is the query of the text.** -/
theorem query_of_readTarget {cs : List Char} {target : PathAndQuery}
    (h : readTarget cs = .ok target) :
    target.query = (queryOf cs).map String.ofList := by
  -- the path of the text has no mark in it, so the query is that of what
  -- follows
  have hpath : (cs.takeWhile isPathChar).any endsPath = false := by
    refine List.any_eq_false.2 fun c hc hends => ?_
    have hchar := List.all_eq_true.1 List.all_takeWhile c hc
    unfold endsPath at hends
    simp only [Bool.or_eq_true, beq_iff_eq] at hends
    rcases hends with rfl | rfl <;> exact absurd hchar (by decide)
  have hquery (rest : List Char) : '#' ∉ rest.takeWhile isQueryChar :=
    fun hmem => absurd
      (List.all_eq_true.1 List.all_takeWhile '#' hmem) (by decide)
  rw [← List.takeWhile_append_dropWhile (p := isPathChar) (l := cs),
    queryOf_append hpath]
  unfold readTarget at h
  dsimp only at h
  split at h
  · next hdrop =>
    cases h
    rw [hdrop]
    rfl
  · next hdrop =>
    cases h
    rw [hdrop]
    rfl
  · next rest hdrop =>
    rw [hdrop, queryOf_question,
      ← List.takeWhile_append_dropWhile (p := isQueryChar) (l := rest)]
    split at h
    · next hnil =>
      cases h
      rw [hnil, List.append_nil, takeWhile_eq_self (hquery rest)]
      rfl
    · next more hmore =>
      cases h
      rw [hmore, Http.Url.takeWhile_append_of_head (by decide),
        takeWhile_eq_self (hquery rest)]
      rfl
    · cases h
  · cases h

/-- What is read behind a scheme has the query of its text. -/
theorem query?_of_readFull {cs rest : List Char} {scheme : String} {uri : Uri}
    (hscheme : readScheme cs = .ok (some (scheme, rest)))
    (h : readFull cs = .ok uri) :
    uri.scheme? = some scheme ∧
      uri.query? = (queryOf rest).map String.ofList := by
  obtain ⟨authority, rfl, hnone⟩ | ⟨name, text, authority, behind, target,
    hsome, hread, htarget, rfl⟩ := exists_of_readFull h
  · cases hnone.symm.trans hscheme
  · cases hsome.symm.trans hscheme
    obtain ⟨before, rfl, hbefore, -⟩ := readAuthority_eq_ok hread
    rw [queryOf_append hbefore]
    exact ⟨rfl, query_of_readTarget htarget⟩

/-- **The query of an address behind `http`** is the query of its text. -/
theorem query?_of_parse_http {s : String} {uri : Uri}
    (h : parse ("http://" ++ s) = .ok uri) :
    uri.scheme? = some "http" ∧
      uri.query? = (queryOf s.toList).map String.ofList := by
  have htext : ("http://" ++ s).toList
      = 'h' :: 't' :: 't' :: 'p' :: ':' :: '/' :: '/' :: s.toList := by
    rw [String.toList_append]
    rfl
  unfold parse at h
  rw [htext] at h
  split at h
  · cases h
  · exact query?_of_readFull rfl h

end Uri

/-! ## What is posted

A decision request is posted as it was built, and what follows from a reference
is posted with the same body. So whatever is posted can be traced back to the
request and its URL. -/

namespace Http.Client

/-- What goes on as a post was one, and keeps its body. -/
theorem post_of_redirected {request : Request} {status : Nat} {next : Url}
    (h : (redirected request status next).method = "POST") :
    request.method = "POST" ∧
      (redirected request status next).body = request.body := by
  unfold redirected at h ⊢
  dsimp only at h ⊢
  split at h
  · exact absurd h (by decide)
  · next hkeeps =>
    refine ⟨h, if_neg fun hdrops => hkeeps ?_⟩
    rw [hdrops, h]
    simp

/-- **Whatever is posted on the way** has the body that was posted first. -/
theorem Course.post_of_mem {network : Network} {budget : Nat}
    {request call : Request} {exchange : Exchange}
    (hcourse : Course network budget request exchange)
    (h : call ∈ exchange.arrived) (hpost : call.method = "POST") :
    request.method = "POST" ∧ call.body = request.body := by
  induction hcourse with
  | lost => cases h
  | unanswered =>
    obtain rfl := List.mem_singleton.1 h
    exact ⟨hpost, rfl⟩
  | told =>
    obtain rfl := List.mem_singleton.1 h
    exact ⟨hpost, rfl⟩
  | led _ _ _ ih =>
    rcases List.mem_cons.1 h with rfl | h
    · exact ⟨hpost, rfl⟩
    · obtain ⟨hmethod, hbody⟩ := ih h
      obtain ⟨hfirst, hkept⟩ := post_of_redirected hmethod
      exact ⟨hfirst, hbody.trans hkept⟩

theorem body_of_send {network : Network} {method address : String}
    {headers : Headers} {body : List UInt8} {call : Request}
    (h : call ∈ (send network method address headers body).arrived)
    (hpost : call.method = "POST") : call.body = body := by
  unfold send at h
  split at h
  · cases h
  · exact ((course_follow ..).post_of_mem h hpost).2

end Http.Client

namespace Policy

open PolicyGateway.Json (Value)

/-- **What is posted in the decision dialect** is a decision request that was
built. -/
theorem RulesetCheck.exists_build_of_post {check : RulesetCheck}
    {network : Http.Network} {request : AccessRequest}
    {principal : Principal} {body : Value} {call : Http.Request}
    (hdialect : check.dialect = .decision)
    (hcall : call ∈ (check.run network request principal body).calls)
    (hpost : call.method = "POST") :
    ∃ ruleset decision,
      DecisionRequest.build request ruleset body = .ok decision ∧
        call.body = Text.Utf8.bytes decision.toJson.toText := by
  unfold run at hcall
  rw [hdialect] at hcall
  change call ∈ (check.runDecision network request body).calls at hcall
  unfold runDecision at hcall
  split at hcall
  · cases hcall
  · cases hcall
  · next server ruleset _ =>
    cases hbuild : DecisionRequest.build request ruleset body with
    | error failure =>
      rw [hbuild] at hcall
      cases hcall
    | ok decision =>
      rw [hbuild] at hcall
      change call ∈ (server.ask network .decision decision.toJson
        DecisionAnswer.ofBytes?).calls at hcall
      -- whatever is asked is the decision request, so whatever is posted has
      -- its text
      unfold Server.ask at hcall
      split at hcall
      · cases hcall
      · exact ⟨ruleset, decision, hbuild,
          Http.Client.body_of_send hcall hpost⟩

/-- A decision request shows the URL that is read. -/
theorem DecisionRequest.uri_of_build {request : AccessRequest}
    {ruleset : Ruleset} {body : Value} {decision : DecisionRequest}
    (h : build request ruleset body = .ok decision) :
    ∃ uri, Uri.parse request.fullUrl = .ok uri ∧
      decision.uri.schema = uri.scheme?.getD "http" ∧
      decision.uri.query = uri.query?.getD "" := by
  obtain ⟨uri, fields, hparse, -, rfl⟩ := exists_of_build h
  exact ⟨uri, hparse, rfl, rfl⟩

end Policy

namespace Gateway

open PolicyGateway.Http PolicyGateway.Policy
open PolicyGateway.Json (Value)

/-- **The host that the headers name**, empty where they name none. A header
that is no text names none. -/
def hostOf (headers : Headers) : List Char :=
  (((headers.first? "host").bind fieldText?).map String.toList).getD []

/-- Behind a query that has begun, a target is heavier than its own query. -/
theorem weight_target (begun path : List Char) (query : Option (List Char)) :
    Query.weight (Query.pairs (String.ofList (query.getD [])))
      < Query.weight (Query.pairs (String.ofList
          (begun ++ '/' :: (path ++ Uri.queryText query)))) := by
  have hslash : Query.IsPlain '/' :=
    ⟨⟨by decide, by decide, by decide⟩, by decide, by decide, by decide⟩
  have hquestion : Query.IsPlain '?' :=
    ⟨⟨by decide, by decide, by decide⟩, by decide, by decide, by decide⟩
  cases query with
  | none =>
    have hlt := Query.weight_lt hslash begun path
    rw [show path ++ Uri.queryText none = path from List.append_nil path]
    exact Nat.lt_of_le_of_lt (Nat.zero_le _) hlt
  | some cs =>
    have hlt := Query.weight_lt hquestion (begun ++ '/' :: path) cs
    rw [List.append_assoc] at hlt
    exact hlt

section Shown

variable {uri : Uri} {path : List Char} {query : Option (List Char)}
  (h : Uri.IsOrigin uri path query)
include h

/-- The query of a target is the query of its text. -/
theorem queryOf_target :
    Uri.queryOf ('/' :: (path ++ Uri.queryText query)) = query := by
  have hpath : ('/' :: path).any endsPath = false :=
    List.any_eq_false.2 fun c hc => by rw [h.not_endsPath c hc]; simp
  have hfragment := h.not_mem_fragment
  rw [← List.cons_append] at hfragment ⊢
  rw [Uri.queryOf_append hpath]
  cases query with
  | none => rfl
  | some cs =>
    have hcs : '#' ∉ cs := fun hmem => hfragment
      (List.mem_append_right _ (List.mem_cons_of_mem '?' hmem))
    show Uri.queryOf ('?' :: cs) = _
    rw [Uri.queryOf_question, Uri.takeWhile_eq_self hcs]

/-- **The whole URL shows the query of host and target**, one behind the
other. -/
theorem query_of_fullUrl {headers : Headers} {read : Uri}
    (hread : Uri.parse (Service.fullUrl uri headers) = .ok read) :
    read.scheme?.getD "http" = "http" ∧
      read.query?.getD "" = String.ofList
        ((Uri.queryOf (hostOf headers ++
          '/' :: (path ++ Uri.queryText query))).getD []) := by
  have hgetD (found : Option (List Char)) :
      (found.map String.ofList).getD "" = String.ofList (found.getD []) := by
    cases found <;> rfl
  have hscheme : uri.scheme? = none := by
    rw [h.eq]
    rfl
  unfold Service.fullUrl at hread
  rw [hscheme, if_neg (by simp), h.targetOf_eq] at hread
  unfold hostOf
  rw [← hgetD]
  -- without a host the URL is the target, and with one it is read behind the
  -- scheme
  cases hhost : (headers.first? "host").bind fieldText? with
  | none =>
    rw [hhost] at hread
    obtain ⟨target, htarget, rfl⟩ :=
      Uri.exists_readTarget hread String.toList_ofList
    exact ⟨rfl, congrArg (·.getD "") (Uri.query_of_readTarget htarget)⟩
  | some host =>
    rw [hhost] at hread
    dsimp only at hread
    rw [String.append_assoc] at hread
    obtain ⟨hhttp, hquery⟩ := Uri.query?_of_parse_http hread
    rw [String.toList_append, String.toList_ofList] at hquery
    rw [hhttp, hquery]
    exact ⟨rfl, rfl⟩

/-- **When the query that is shown is that of the target**: where the host
leaves the path open, or where it brings a whole query that happens to be the
same. -/
theorem shown_iff (host : List Char) :
    Query.toJson (String.ofList ((Uri.queryOf (host ++
          '/' :: (path ++ Uri.queryText query))).getD []))
        = Query.toJson (String.ofList (query.getD [])) ↔
      host.any endsPath = false ∨
        '#' ∈ host ∧
          Query.toJson (String.ofList ((Uri.queryOf host).getD []))
            = Query.toJson (String.ofList (query.getD [])) := by
  cases hany : host.any endsPath with
  | false =>
    rw [Uri.queryOf_append hany, queryOf_target h]
    exact ⟨fun _ => .inl rfl, fun _ => rfl⟩
  | true =>
    by_cases hfragment : '#' ∈ host
    · rw [Uri.queryOf_append_of_fragment hfragment]
      exact ⟨fun heq => .inr ⟨hfragment, heq⟩,
        fun hor => (hor.resolve_left (by simp)).2⟩
    · have hquestion : '?' ∈ host := by
        obtain ⟨before, rest, -, rfl | rfl⟩ := Uri.exists_end hany
        · simp
        · exact absurd (by simp) hfragment
      obtain ⟨begun, hbegun⟩ :=
        Uri.queryOf_append_of_query hquestion hfragment
      rw [hbegun _ h.not_mem_fragment]
      -- the query of the host has taken the target in, and is heavier for it
      refine ⟨fun heq => ?_, fun hor => ?_⟩
      · exact absurd heq
          (Query.toJson_ne_of_weight_lt (weight_target begun path query))
      · exact absurd (hor.resolve_left (by simp)).1 hfragment

end Shown

namespace Service

variable {service : Service} {network : Network} {moment : Moment}
  {inbound : Inbound} {principal : Principal} {body : Value}

/-- **Which query is shown** of a request that arrives with a path as its
target: a decision request that is posted shows `http` and the query of the host
and the target, one behind the other. Its parameters are those of the target
exactly if the host holds neither a question mark nor a number sign, or holds a
number sign and a query in front of it with the same parameters.

The host is whatever the header holds, also where that is no host. -/
theorem shown_query_iff {method target : String}
    {fields : List (String × FieldValue)} {bs : List UInt8}
    (harrived : Inbound.receive method target fields bs = .ok inbound)
    (horigin : target.toList.head? = some '/')
    (hdialect : service.gate.checks.rulesets.dialect = .decision)
    {call : Request}
    (hcall : call ∈ (service.gate.authorize network
      (accessRequest inbound (idOf moment inbound)) principal
      body).rulesetCalls)
    (hpost : call.method = "POST") :
    let host := hostOf inbound.headers
    let parameters := Query.toJson (inbound.uri.query?.getD "")
    ∃ ruleset decision,
      DecisionRequest.build (accessRequest inbound (idOf moment inbound))
          ruleset body = .ok decision ∧
        call.body = Text.Utf8.bytes decision.toJson.toText ∧
        decision.uri.schema = "http" ∧
        decision.uri.query = String.ofList
          ((Uri.queryOf (host ++ (targetOf inbound.uri).toList)).getD []) ∧
        (Query.toJson decision.uri.query = parameters ↔
          host.any endsPath = false ∨
            '#' ∈ host ∧
              Query.toJson (String.ofList ((Uri.queryOf host).getD []))
                = parameters) := by
  obtain ⟨path, query, huri⟩ :=
    Uri.exists_isOrigin (Inbound.parse_of_receive harrived) horigin
  obtain ⟨ruleset, decision, hbuild, hbody⟩ :=
    RulesetCheck.exists_build_of_post hdialect hcall hpost
  obtain ⟨read, hread, hschema, hquery⟩ :=
    DecisionRequest.uri_of_build hbuild
  -- what is built shows the URL that was read, and that is host and target
  obtain ⟨hhttp, hshown⟩ := query_of_fullUrl huri hread
  have hparameters : inbound.uri.query?.getD ""
      = String.ofList (query.getD []) := by
    rw [huri.query?_eq]
    cases query <;> rfl
  dsimp only
  rw [hparameters, huri.targetOf_eq, String.toList_ofList]
  refine ⟨ruleset, decision, hbuild, hbody, hschema.trans hhttp,
    hquery.trans hshown, ?_⟩
  rw [hquery, hshown]
  exact shown_iff huri (hostOf inbound.headers)

/-! ### A host that brings a query

Every path is decided on by its query, and the client brings one that it likes
to be decided on. -/

/-- Settings under which every path is decided on by its query. -/
def decidedSettings : Settings :=
  { authorization :=
      { rulesets :=
          { enabled := true
            validationUrl := "http://policy/decide"
            resourceMap := .ofList [("[/**]", { name := "orders" })] } } }

/-- A service with these settings. -/
def decided : Service :=
  { settings := decidedSettings
    gate := ⟨.ofSettings decidedSettings.authorization⟩
    forwarder := .ofSettings decidedSettings.server
    status := { ready := true, resources := false, rulesets := true } }

/-- A host that brings a query and begins a fragment. -/
def maskedHost : FieldValue := Text.Utf8.bytes "shop?role=user#"

/-- Somebody asks for the orders of an administrator. -/
def masked : Inbound :=
  { method := "GET"
    uri := .origin ⟨"/orders", some "role=admin"⟩
    headers := ⟨[("host", maskedHost)]⟩
    body := {} }

/-- What is asked about it. -/
def maskedCalls : List Request :=
  (decided.gate.authorize (fun _ => .answered allowing)
    (accessRequest masked (idOf ⟨"1", 0, none⟩ masked)) {}
    (.object [])).rulesetCalls

/-- The policy server is shown a user, and the orders are those of an
administrator. -/
theorem masked_shows_user :
    Inbound.receive "GET" "/orders?role=admin" [("host", maskedHost)] []
        = .ok masked ∧
      targetOf masked.uri = "/orders?role=admin" ∧
      ∃ call ∈ maskedCalls, ∃ decision : DecisionRequest,
        call.body = Text.Utf8.bytes decision.toJson.toText ∧
        decision.uri.query = "role=user" ∧
        Query.toJson decision.uri.query ≠ Query.toJson "role=admin" := by
  have harrived : Inbound.receive "GET" "/orders?role=admin"
      [("host", maskedHost)] [] = .ok masked :=
    eq_ok_of_toOption (by decide +kernel)
  have hmethods : maskedCalls.map (·.method) = ["POST"] := by decide +kernel
  obtain ⟨call, hcalls, hpost⟩ := List.map_eq_singleton_iff.1 hmethods
  have hcall : call ∈ maskedCalls := by
    rw [hcalls]
    exact List.mem_singleton_self call
  obtain ⟨ruleset, decision, -, hbody, -, hquery, hiff⟩ :=
    shown_query_iff harrived (by decide) rfl hcall hpost
  have huser : decision.uri.query = "role=user" := by
    rw [hquery]
    decide +kernel
  refine ⟨harrived, by decide +kernel, call, hcall, decision, hbody, huser,
    fun heq => ?_⟩
  rcases hiff.1 heq with hopen | ⟨-, hsame⟩
  · exact absurd hopen (by decide +kernel)
  · exact absurd (congrArg Query.weightOf hsame) (by decide +kernel)

end Service

end Gateway

end PolicyGateway
