import Mathlib.Data.List.Basic
import PolicyGateway.Policy.Gate
import PolicyGateway.Proofs.FailClosed
import PolicyGateway.Proofs.LetterCase
import PolicyGateway.Proofs.PathSteps
import PolicyGateway.Proofs.Targets

/-!
# What a policy server can learn

The checks see all headers of a request, and what they send depends on two
of them. Two requests that agree in these, and in method, path and URL, are
asked about in the same words and come to the same end, whatever else they
carry and wherever it stands (`Gate.authorize_congr`).

The gateway itself looks at a few headers more before the checks are made:
at the host, which becomes part of the URL, at the one that names the caller
and at those that say where the body ends. Two requests that arrive with the
same fields under these names lead to the same questions (`calls_tell_no_more`).

**Why two requests.** That a header is kept from a policy server cannot be read
off one run: whatever a server is sent might have been computed from it. What
can be said is that a run with another header, or without it, sends the same. So
every statement here compares two requests, and what they have in common is what
a server may learn at most.

This is more than a list of the fields of a question. It also rules out that a
header decides whether a question is put, or how often, or what comes of it.
-/

namespace PolicyGateway

namespace Policy

open PolicyGateway.Json (Value)

/-! ## What the checks tell of a request

The checks see the headers as a list, with names in the case in which they are
given. Which of them are told does not depend on their case nor on their place.
So the list is cut down to those, in order, and everything that the checks do is
shown to be a function of what is left. -/

namespace AccessRequest

/-- **A name under which a header may be told**, whatever its letter case. The
two names are those of the id and of the authorization. -/
def mayTell (name : String) : Bool :=
  forwardedHeaders.any (Text.sameIgnoringCase name)

/-- **The headers that may be told**, in their order. -/
def told (request : AccessRequest) : List (String × String) :=
  request.headers.entries.filter fun entry => mayTell entry.1

/-- **Two requests look the same from outside**: they agree in method, path and
URL, and in the headers that may be told. The principal and the body are no part
of this: they are told in full, and so they are kept the same wherever two
requests are compared. -/
structure LooksLike (request other : AccessRequest) : Prop where
  /-- The methods are the same. -/
  method : request.method = other.method
  /-- The paths are the same. -/
  path : request.path = other.path
  /-- The URLs are the same. -/
  fullUrl : request.fullUrl = other.fullUrl
  /-- The headers that may be told are the same, in the same order. -/
  told : request.told = other.told

theorem requestId_mem : requestIdHeader ∈ forwardedHeaders :=
  List.mem_cons_self

theorem authorization_mem : authorizationHeader ∈ forwardedHeaders :=
  List.mem_cons_of_mem _ List.mem_cons_self

theorem mayTell_of_sameIgnoringCase {name other : String}
    (hname : name ∈ forwardedHeaders)
    (hsame : Text.sameIgnoringCase other name = true) :
    mayTell other = true :=
  List.any_eq_true.2 ⟨name, hname, hsame⟩

/-- **A header that may be told is looked up among those.** -/
theorem header?_eq_told (request : AccessRequest) {name : String}
    (hname : name ∈ forwardedHeaders) :
    request.header? name
      = (request.told.lookup name).or
          ((request.told.find? fun entry =>
            Text.sameIgnoringCase entry.1 name).map Prod.snd) := by
  have hself : mayTell name = true :=
    mayTell_of_sameIgnoringCase hname (beq_self_eq_true _)
  unfold header? told Record.OrderedMap.find?
  rw [Record.OrderedMap.lookup_filter hself, List.find?_filter]
  congr 2
  refine congrArg (List.find? · request.headers.entries) ?_
  funext entry
  cases hsame : Text.sameIgnoringCase entry.1 name with
  | false => simp [hsame]
  | true => simp [hsame, mayTell_of_sameIgnoringCase hname hsame]

namespace LooksLike

variable {request other : AccessRequest} (h : LooksLike request other)
include h

theorem header?_eq {name : String} (hname : name ∈ forwardedHeaders) :
    request.header? name = other.header? name := by
  rw [header?_eq_told request hname, header?_eq_told other hname, h.told]

theorem toJson_eq : request.toJson = other.toJson := by
  have hforwarded : request.forwarded = other.forwarded := by
    unfold forwarded
    exact List.filterMap_congr fun name hname => by rw [h.header?_eq hname]
  unfold toJson
  rw [hforwarded, h.method, h.path]

theorem shownHeaders_eq :
    DecisionRequest.shownHeaders request
      = DecisionRequest.shownHeaders other := by
  unfold DecisionRequest.shownHeaders
  rw [h.header?_eq requestId_mem, h.header?_eq authorization_mem]

theorem build_eq (ruleset : Ruleset) (body : Value) :
    DecisionRequest.build request ruleset body
      = DecisionRequest.build other ruleset body := by
  unfold DecisionRequest.build
  rw [h.shownHeaders_eq, h.method, h.path, h.fullUrl]

end LooksLike

end AccessRequest

section Checks

variable {request other : AccessRequest}
  (h : AccessRequest.LooksLike request other)
include h

/-- **The resource check** asks the same about requests that look the
same. -/
theorem ResourceCheck.run_congr (check : ResourceCheck)
    (network : Http.Network) (principal : Principal) :
    check.run network request principal
      = check.run network other principal := by
  unfold run question
  rw [h.path, h.toJson_eq]

theorem RulesetCheck.select_congr (check : RulesetCheck) :
    check.select request = check.select other := by
  unfold select
  rw [h.method, h.path]

/-- **The ruleset check in the decision dialect** asks the same about
requests that look the same. -/
theorem RulesetCheck.runDecision_congr (check : RulesetCheck)
    (network : Http.Network) (body : Value) :
    check.runDecision network request body
      = check.runDecision network other body := by
  unfold runDecision
  simp only [select_congr h, h.build_eq]

/-- **The ruleset check in the generic dialect** asks the same about
requests that look the same. -/
theorem RulesetCheck.runGeneric_congr (check : RulesetCheck)
    (network : Http.Network) (principal : Principal) :
    check.runGeneric network request principal
      = check.runGeneric network other principal := by
  unfold runGeneric question
  simp only [select_congr h, h.toJson_eq]

/-- **Requests that look the same** lead to the same calls and come to the same
end. The gate adds nothing to what its checks do, so it is enough to say it of
each of them. -/
theorem Gate.authorize_congr (gate : Gate) (network : Http.Network)
    (principal : Principal) (body : Value) :
    gate.authorize network request principal body
      = gate.authorize network other principal body := by
  have hruleset : gate.checks.rulesets.run network request principal body
      = gate.checks.rulesets.run network other principal body := by
    unfold RulesetCheck.run
    rw [RulesetCheck.runDecision_congr h, RulesetCheck.runGeneric_congr h]
  unfold authorize Checks.authorize
  rw [ResourceCheck.run_congr h, hruleset]

end Checks

end Policy

namespace Gateway

open PolicyGateway.Http PolicyGateway.Policy PolicyGateway.Record

variable {keeps : String → Bool}

/-- The first value under a name that is text. -/
def firstText? (headers : Headers) (name : String) :
    Option (String × String) :=
  ((headers.values name).filterMap fieldText?).head?.map (name, ·)

theorem firstText?_keep {name : String} (hname : keeps name = true)
    (headers : Headers) :
    firstText? (headers.keep keeps) name = firstText? headers name := by
  unfold firstText?
  rw [Headers.values_keep hname]

/-- A name that is not kept has no entry that is kept. -/
theorem filter_firstText? (headers : Headers) (name : String) :
    (firstText? headers name).filter (fun entry => keeps entry.1)
      = if keeps name then firstText? headers name else none := by
  unfold firstText?
  cases ((headers.values name).filterMap fieldText?).head? with
  | none => simp
  | some text => simp [Option.filter]

/-- **The checks see of the headers that are kept** what they see of all
under the names that are kept. -/
theorem filter_visibleHeaders (headers : Headers) :
    (visibleHeaders headers).entries.filter (fun entry => keeps entry.1)
      = (visibleHeaders (headers.keep keeps)).entries := by
  show (OrderedMap.ofList (headers.names.filterMap
      (firstText? headers))).entries.filter _
    = (OrderedMap.ofList ((headers.keep keeps).names.filterMap
        (firstText? (headers.keep keeps)))).entries
  rw [OrderedMap.filter_ofList, Headers.names_keep, List.filter_filterMap,
    List.filterMap_filter]
  refine congrArg (fun l => (OrderedMap.ofList l).entries)
    (List.filterMap_congr fun name _ => ?_)
  rw [filter_firstText?]
  by_cases hk : keeps name = true
  · rw [if_pos hk, if_pos hk, firstText?_keep hk]
  · rw [if_neg hk, if_neg hk]

/-! ## What the gateway goes by

Before the checks are made the gateway itself reads a few headers. Who asks is
written in one of them, and the URL that a policy server is shown starts with
another; the length of the body is in a third. What these hold does have a say
in the questions, and nothing else has. -/

/-- **The headers that the gateway goes by** when it asks about a request: the
two that may be told, the host, the one that names the caller and those that
delimit the body. The settings name the header of the caller, so the list
depends on them. -/
def consulted (settings : IdentitySettings) : List String :=
  [requestIdHeader, authorizationHeader, "host", settings.principalHeader,
    "content-length", "transfer-encoding"]

/-- Whether the gateway goes by a header of this name, whatever its letter
case. -/
def isConsulted (settings : IdentitySettings) (name : String) : Bool :=
  (consulted settings).any (Text.sameIgnoringCase name)

/-- **Two requests that are alike** to a gateway: they differ in headers that it
does not go by, and in nothing else. Headers are compared after those that do
not count are taken out, and so the order among those that count is the same. -/
structure Alike (settings : IdentitySettings) (inbound other : Inbound) :
    Prop where
  /-- The methods are the same. -/
  method : inbound.method = other.method
  /-- The targets are the same. -/
  uri : inbound.uri = other.uri
  /-- The bodies are the same. -/
  body : inbound.body = other.body
  /-- The headers that the gateway goes by are the same. -/
  headers : inbound.headers.keep (isConsulted settings)
    = other.headers.keep (isConsulted settings)

section Names

variable {settings : IdentitySettings} {name : String}

theorem isConsulted_of_mem (h : name ∈ consulted settings) :
    isConsulted settings name = true :=
  List.any_eq_true.2 ⟨name, h, beq_self_eq_true _⟩

theorem isConsulted_of_fieldName? {spelled : String}
    (h : fieldName? spelled = some name) :
    isConsulted settings name = isConsulted settings spelled := by
  unfold fieldName? at h
  split at h
  · cases h
    unfold isConsulted
    refine congrArg (List.any _) (funext fun other => ?_)
    exact Text.sameIgnoringCase_lowercase spelled other
  · cases h

theorem isConsulted_of_mayTell (h : AccessRequest.mayTell name = true) :
    isConsulted settings name = true := by
  obtain ⟨told, htold, hsame⟩ := List.any_eq_true.1 h
  refine List.any_eq_true.2 ⟨told, ?_, hsame⟩
  rcases List.mem_cons.1 htold with rfl | htold
  · exact List.mem_cons_self
  · rw [List.mem_singleton.1 htold]
    exact List.mem_cons_of_mem _ List.mem_cons_self

end Names

namespace Alike

variable {settings : IdentitySettings} {inbound other : Inbound}
  (h : Alike settings inbound other)
include h

theorem first?_eq {name : String} (hname : isConsulted settings name = true) :
    inbound.headers.first? name = other.headers.first? name := by
  rw [← Headers.first?_keep hname, h.headers, Headers.first?_keep hname]

theorem requestId_eq (made : String) :
    requestId inbound.headers made = requestId other.headers made := by
  unfold requestId broughtId?
  rw [h.first?_eq (isConsulted_of_mem (by simp [consulted]))]

theorem callerOf_eq :
    callerOf inbound.headers settings = callerOf other.headers settings := by
  unfold callerOf
  have hcaller : (fieldName? settings.principalHeader).bind
      inbound.headers.first?
        = (fieldName? settings.principalHeader).bind other.headers.first? := by
    cases hname : fieldName? settings.principalHeader with
    | none => rfl
    | some name =>
      refine h.first?_eq ?_
      rw [isConsulted_of_fieldName? hname]
      exact isConsulted_of_mem (by simp [consulted])
  rw [hcaller]

theorem readBody_eq (limit : Nat) :
    Service.readBody limit inbound.headers inbound.body
      = Service.readBody limit other.headers other.body := by
  unfold Service.readBody Service.declaredLength?
  rw [h.first?_eq (isConsulted_of_mem (by simp [consulted])), h.body]

/-- **The checks are shown requests that look the same.** -/
theorem looksLike (id : String) :
    AccessRequest.LooksLike (Service.accessRequest inbound id)
      (Service.accessRequest other id) where
  method := h.method
  path := congrArg Uri.path h.uri
  fullUrl := by
    show Service.fullUrl inbound.uri inbound.headers
      = Service.fullUrl other.uri other.headers
    unfold Service.fullUrl
    rw [h.uri, h.first?_eq (isConsulted_of_mem (by simp [consulted]))]
  told := by
    show (OrderedMap.put requestIdHeader id
        (visibleHeaders inbound.headers).entries).filter
          (fun entry => AccessRequest.mayTell entry.1)
      = (OrderedMap.put requestIdHeader id
        (visibleHeaders other.headers).entries).filter
          (fun entry => AccessRequest.mayTell entry.1)
    rw [OrderedMap.filter_put, OrderedMap.filter_put, filter_visibleHeaders,
      filter_visibleHeaders,
      ← Headers.keep_keep (fun _ => isConsulted_of_mayTell), h.headers,
      Headers.keep_keep (fun _ => isConsulted_of_mayTell)]

end Alike

namespace Service

variable (service : Service) (network : Network)

/-- What the checks send is not changed by what becomes of the request. -/
theorem policyCalls_authorizeAndForward (id : String) (inbound : Inbound)
    (principal : Principal) (body : List UInt8) :
    (service.authorizeAndForward network id inbound principal
        body).policyCalls
      = (service.gate.authorize network (accessRequest inbound id) principal
          (bodyValue body)).calls := by
  unfold authorizeAndForward
  dsimp only
  split
  · rfl
  · split <;> rfl

/-- **Whatever the checks send** they send on behalf of the caller. Where nobody
is identified nothing is sent at all. -/
theorem exists_authorization_of_process (id : String) (inbound : Inbound)
    {call : Request}
    (hcall : call ∈ (service.process network id inbound).policyCalls) :
    ∃ principal body,
      callerOf inbound.headers service.settings.identity = .ok principal ∧
      call ∈ (service.gate.authorize network (accessRequest inbound id)
        principal (bodyValue body)).calls := by
  unfold process at hcall
  split at hcall
  · cases hcall
  · next principal hcaller =>
    split at hcall
    · cases hcall
    · next body _ =>
      rw [policyCalls_authorizeAndForward] at hcall
      exact ⟨principal, body, hcaller, hcall⟩

variable {service network} {inbound other : Inbound}
  (h : Alike service.settings.identity inbound other)
include h

/-- **Requests that are alike** lead to the same questions. -/
theorem policyCalls_process (id : String) :
    (service.process network id inbound).policyCalls
      = (service.process network id other).policyCalls := by
  unfold process
  rw [h.callerOf_eq, h.readBody_eq]
  split
  · rfl
  · next principal _ =>
    split
    · rfl
    · next body _ =>
      rw [policyCalls_authorizeAndForward, policyCalls_authorizeAndForward,
        Gate.authorize_congr (h.looksLike id)]

theorem policyCalls_handle (moment : Moment) :
    (service.handle network moment inbound).policyCalls
      = (service.handle network moment other).policyCalls := by
  unfold handle
  dsimp only
  rw [h.uri, h.requestId_eq]
  split
  · rfl
  · exact policyCalls_process h _

end Service

end Gateway

/-! ## Fields as they arrive

A field arrives under a name in any letter case and among others. Taking it in
can fail, and it can change how the body is read. Both depend on the field alone
and on those of its kind, so that other fields may be left out beforehand or
afterwards. -/

namespace Http.Inbound

variable {keeps : String → Bool}

/-- **A condition on names** that does not regard their letter case. Names are
kept in lower case once a field was taken in, and a condition has to hold of
both spellings or of none. -/
def IgnoresCase (keeps : String → Bool) : Prop :=
  ∀ spelled name, fieldName? spelled = some name → keeps name = keeps spelled

/-- What is kept of headers behind which a field is appended. -/
theorem keep_append (hcase : IgnoresCase keeps) (headers : Headers)
    (name : String) (value : FieldValue) :
    (headers.append name value).keep keeps
      = if keeps name then (headers.keep keeps).append name value
        else headers.keep keeps := by
  unfold Headers.append
  cases hname : fieldName? name with
  | none => exact (ite_self _).symm
  | some lower =>
    dsimp only
    rw [← hcase name lower hname]
    split
    · unfold Headers.keep
      rw [List.filter_append, List.filter_cons]
      dsimp only
      split
      · rfl
      · exact congrArg Headers.mk (List.append_nil _)
    · exact (ite_self _).symm

/-- What is kept of the headers taken in so far. -/
def keptOf (keeps : String → Bool) (state : Headers × Framing) :
    Headers × Framing :=
  (state.1.keep keeps, state.2)

/-- **A field that is kept is taken in** with or without the others. If it is
refused, it is refused either way. -/
theorem takeField_keptOf (hcase : IgnoresCase keeps)
    {field : String × FieldValue} (hfield : keeps field.1 = true)
    (state : Headers × Framing) :
    takeField (keptOf keeps state) field
      = (takeField state field).map (keptOf keeps) := by
  obtain ⟨headers, framing⟩ := state
  unfold takeField keptOf
  dsimp only
  cases hname : fieldName? field.1 with
  | none => rfl
  | some name =>
    dsimp only
    -- a field that is kept is appended to those that are
    have happend : (headers.append name (trimLine field.2)).keep keeps
        = (headers.keep keeps).append name (trimLine field.2) := by
      rw [keep_append hcase, if_pos]
      rw [hcase _ _ hname, hfield]
    split
    · rfl
    · split
      · rw [← happend]
        rfl
      · split
        · split
          · rfl
          · rfl
          · rfl
          · split <;> rfl
          · rw [← happend]
            rfl
        · rw [← happend]
          rfl

/-- **A field that is not kept** leaves the others as they are, and the body
too, unless its name says where the body ends. -/
theorem keptOf_takeField (hcase : IgnoresCase keeps)
    (hframing : ∀ name ∈ ["transfer-encoding", "content-length"],
      keeps name = true)
    {field : String × FieldValue} (hfield : keeps field.1 = false)
    {state next : Headers × Framing} (h : takeField state field = .ok next) :
    keptOf keeps next = keptOf keeps state := by
  obtain ⟨headers, framing⟩ := state
  unfold takeField at h
  dsimp only at h
  cases hname : fieldName? field.1 with
  | none =>
    rw [hname] at h
    cases h
  | some name =>
    rw [hname] at h
    dsimp only at h
    have hout : keeps name = false := by rw [hcase _ _ hname, hfield]
    -- the two names that say where the body ends are kept, so this is neither
    have hne : ∀ other ∈ ["transfer-encoding", "content-length"],
        name ≠ other := by
      rintro other hother rfl
      rw [hframing name hother] at hout
      cases hout
    rw [if_neg (hne _ (by simp)), if_neg (hne _ (by simp))] at h
    split at h
    · cases h
    · cases h
      unfold keptOf
      rw [keep_append hcase, if_neg (by simp [hout])]

/-- **All fields are taken in** as those that are kept are. The induction goes
along the fields as they arrive, and keeps the state in step with the one that
has only seen those that are kept. -/
theorem foldlM_takeField_keptOf (hcase : IgnoresCase keeps)
    (hframing : ∀ name ∈ ["transfer-encoding", "content-length"],
      keeps name = true)
    {fields : List (String × FieldValue)}
    {state last : Headers × Framing}
    (h : fields.foldlM takeField state = .ok last) :
    (fields.filter fun field => keeps field.1).foldlM takeField
      (keptOf keeps state) = .ok (keptOf keeps last) := by
  -- on the fields as they arrive, with the state left open
  induction fields generalizing state with
  | nil =>
    cases h
    rfl
  | cons field rest ih =>
    rw [List.foldlM_cons] at h
    cases hnext : takeField state field with
    | error status =>
      rw [hnext] at h
      cases h
    | ok next =>
      rw [hnext] at h
      have hrest := ih h
      rw [List.filter_cons]
      cases hfield : keeps field.1 with
      | true =>
        rw [if_pos rfl, List.foldlM_cons, takeField_keptOf hcase hfield, hnext]
        exact hrest
      | false =>
        rw [if_neg Bool.false_ne_true,
          ← keptOf_takeField hcase hframing hfield hnext]
        exact hrest

end Http.Inbound

namespace Gateway

open PolicyGateway.Http PolicyGateway.Policy
open PolicyGateway.Json (Value)

theorem ignoresCase_isConsulted (settings : IdentitySettings) :
    Inbound.IgnoresCase (isConsulted settings) :=
  fun _ _ h => isConsulted_of_fieldName? h

/-- **Requests that arrive with the same fields** under the names that the
gateway goes by are alike to it. -/
theorem alike_of_receive {settings : IdentitySettings}
    {method target : String} {bs : List UInt8}
    {fields others : List (String × FieldValue)} {inbound other : Inbound}
    (harrived : Inbound.receive method target fields bs = .ok inbound)
    (hother : Inbound.receive method target others bs = .ok other)
    (hfields : fields.filter (fun field => isConsulted settings field.1)
      = others.filter fun field => isConsulted settings field.1) :
    Alike settings inbound other := by
  obtain ⟨uri, headers, framing, body, huri, htaken, hbody, rfl⟩ :=
    Inbound.exists_of_receive harrived
  obtain ⟨uri', headers', framing', body', huri', htaken', hbody', rfl⟩ :=
    Inbound.exists_of_receive hother
  rw [huri] at huri'
  cases huri'
  -- where the body ends is said by two headers, and the gateway goes by both
  have hframing : ∀ name ∈ ["transfer-encoding", "content-length"],
      isConsulted settings name = true := by
    intro name hname
    refine isConsulted_of_mem ?_
    simp only [List.mem_cons, List.not_mem_nil, or_false] at hname
    rcases hname with rfl | rfl <;> simp [consulted]
  have hcase := ignoresCase_isConsulted settings
  have hkept := Inbound.foldlM_takeField_keptOf hcase hframing htaken
  have hkept' := Inbound.foldlM_takeField_keptOf hcase hframing htaken'
  rw [hfields, hkept'] at hkept
  -- both have taken in the same fields of those that are kept
  have hstate := Except.ok.inj hkept
  have hheaders : headers'.keep (isConsulted settings)
      = headers.keep (isConsulted settings) := congrArg Prod.fst hstate
  obtain rfl : framing' = framing := congrArg Prod.snd hstate
  rw [hbody] at hbody'
  cases hbody'
  exact ⟨rfl, rfl, rfl, hheaders.symm⟩

/-- **A policy server learns no more than it may.** Whatever the gate and the
partners, two requests that look the same from outside lead to the same calls
and come to the same end, in each check and in either dialect. And whatever the
service, two requests that agree in the headers that it goes by lead to the same
calls, be they taken as they are or as the fields they arrive with.

The calls are compared as a whole: how many there are, where they go, and every
byte of them. -/
theorem calls_tell_no_more :
    (∀ (gate : Gate) (network : Network) (principal : Principal)
      (body : Value) (request other : AccessRequest),
      AccessRequest.LooksLike request other →
        gate.authorize network request principal body
            = gate.authorize network other principal body ∧
          gate.checks.resources.run network request principal
            = gate.checks.resources.run network other principal ∧
          gate.checks.rulesets.runDecision network request body
            = gate.checks.rulesets.runDecision network other body ∧
          gate.checks.rulesets.runGeneric network request principal
            = gate.checks.rulesets.runGeneric network other principal) ∧
    (∀ (service : Service) (network : Network) (moment : Moment)
      (inbound other : Inbound),
      Alike service.settings.identity inbound other →
        (service.handle network moment inbound).policyCalls
          = (service.handle network moment other).policyCalls) ∧
    (∀ (service : Service) (network : Network) (moment : Moment)
      (method target : String) (bs : List UInt8)
      (fields others : List (String × FieldValue)) (inbound other : Inbound),
      Inbound.receive method target fields bs = .ok inbound →
      Inbound.receive method target others bs = .ok other →
      fields.filter (fun field =>
          isConsulted service.settings.identity field.1)
        = others.filter (fun field =>
          isConsulted service.settings.identity field.1) →
        (service.handle network moment inbound).policyCalls
          = (service.handle network moment other).policyCalls) := by
  refine ⟨fun gate network principal body request other h =>
      ⟨Gate.authorize_congr h gate network principal body,
        ResourceCheck.run_congr h _ network principal,
        RulesetCheck.runDecision_congr h _ network body,
        RulesetCheck.runGeneric_congr h _ network principal⟩,
    fun service network moment inbound other h =>
      Service.policyCalls_handle h moment, ?_⟩
  -- what arrives with the same fields is alike to the service
  intro service network moment method target bs fields others inbound other
    harrived hother hfields
  exact Service.policyCalls_handle
    (alike_of_receive harrived hother hfields) moment

/-! ### A request that carries more

The second request has fields of other names, one of them in front of those that
count. -/

/-- A service under which orders are a resource. -/
def orders : Service :=
  { settings := { authorization := ordersSettings }
    gate := ⟨.ofSettings ordersSettings⟩
    forwarder := .ofSettings {}
    status := { ready := true, resources := true, rulesets := false } }

/-- The fields of a plain request. -/
def plainFields : List (String × FieldValue) :=
  [("Host", Text.Utf8.bytes "shop"),
    ("AUTHORIZATION", Text.Utf8.bytes "Bearer token")]

/-- Its fields among others. -/
def ladenFields : List (String × FieldValue) :=
  [("Cookie", Text.Utf8.bytes "session=1"),
    ("Host", Text.Utf8.bytes "shop"),
    ("X-Forwarded-For", Text.Utf8.bytes "10.0.0.1"),
    ("AUTHORIZATION", Text.Utf8.bytes "Bearer token"),
    ("Accept", Text.Utf8.bytes "text/html")]

/-- The plain request once it has arrived. -/
def plain : Inbound :=
  { method := "GET"
    uri := .origin ⟨"/orders/7", none⟩
    headers := ⟨[("host", Text.Utf8.bytes "shop"),
      ("authorization", Text.Utf8.bytes "Bearer token")]⟩
    body := {} }

/-- The request with more fields once it has arrived. -/
def laden : Inbound :=
  { plain with
    headers := ⟨[("cookie", Text.Utf8.bytes "session=1"),
      ("host", Text.Utf8.bytes "shop"),
      ("x-forwarded-for", Text.Utf8.bytes "10.0.0.1"),
      ("authorization", Text.Utf8.bytes "Bearer token"),
      ("accept", Text.Utf8.bytes "text/html")]⟩ }

/-- The policy server is asked about both in the same words. -/
theorem laden_tells_no_more :
    Inbound.receive "GET" "/orders/7" plainFields [] = .ok plain ∧
      Inbound.receive "GET" "/orders/7" ladenFields [] = .ok laden ∧
      (orders.handle (fun _ => .answered allowing) ⟨"1", 0, none⟩
        laden).policyCalls
        = (orders.handle (fun _ => .answered allowing) ⟨"1", 0, none⟩
          plain).policyCalls ∧
      (orders.handle (fun _ => .answered allowing) ⟨"1", 0, none⟩
        plain).policyCalls.length = 1 ∧
      orders.gate.authorize (fun _ => .answered allowing)
          (Service.accessRequest laden "1") {} .null
        = orders.gate.authorize (fun _ => .answered allowing)
          (Service.accessRequest plain "1") {} .null := by
  have hplain : Inbound.receive "GET" "/orders/7" plainFields [] = .ok plain :=
    eq_ok_of_toOption (by decide +kernel)
  have hladen : Inbound.receive "GET" "/orders/7" ladenFields [] = .ok laden :=
    eq_ok_of_toOption (by decide +kernel)
  obtain ⟨hgate, -, hservice⟩ := calls_tell_no_more
  refine ⟨hplain, hladen, hservice orders _ _ _ _ _ _ _ _ _ hladen hplain
    (by decide +kernel), by decide +kernel, ?_⟩
  exact (hgate orders.gate _ {} .null _ _
    ⟨rfl, rfl, by decide +kernel, by decide +kernel⟩).1

end Gateway

end PolicyGateway
