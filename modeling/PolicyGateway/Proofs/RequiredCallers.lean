import PolicyGateway.Proofs.Exposure

/-!
# Required callers

Settings may require a caller of every request. Then a request without the
header of the caller is refused, and so is one whose header is no caller. But a
caller is a record of which every field may be missing, so what the header says
may be a caller without a user, and such a caller is the anonymous one.

`Required` says of every request what the requirement comes to. A caller that is
not refused is the one that the document in the header says
(`callerOf_eq_ok_iff`), and it is anonymous exactly if the document names nobody
(`isAnonymous_iff_of_ofNode?`). For such a caller the request is authorized and,
where the checks allow it, forwarded, as for any other. So it is of every
request at every place of every run (`run_required`). In `nobody_forwarded` a
request is forwarded for a caller that is an empty object.

**Why an anonymous caller can be required.** To require a caller is to require
its header, and that the header can be read. Whether somebody is named in it is
not asked. The fields of a caller all have defaults, so a document that leaves
out the user is read as one with an empty user, and that is what being anonymous
means. A policy server can tell such a caller from the others; the gateway lets
it come that far.
-/

namespace PolicyGateway

namespace Record

/-! ## The first field of a record

A record may be written as an object or as a sequence of its fields. The user is
the first field, so it is the first item of a sequence and the member of its
name in an object. -/

/-- **What a node gives for the first field** of a record: the member of its
name, or the first item. -/
def Node.first? (name : String) : Node → Option Node
  | mapping members => members.lookup name
  | sequence items => items.head?
  | _ => none

/-- Among the fields of a record the first one is what the node gives. -/
theorem Fields.lookup_first {format : Format} {name : String}
    {names : List String} {node : Node} {fields : Fields}
    (h : ofNode? format (name :: names) node = some fields) :
    fields.given.lookup name = node.first? name := by
  cases node with
  | mapping members =>
    change ofMembers? (name :: names) members = some fields at h
    unfold ofMembers? at h
    dsimp only at h
    split at h
    · cases h
      exact OrderedMap.lookup_filter (by simp) members
    · cases h
  | sequence items =>
    unfold ofNode? at h
    dsimp only at h
    split at h
    · cases h
      cases items with
      | nil => rfl
      | cons item rest => simp [Node.first?]
    · cases h
  | _ => cases h

end Record

namespace Policy.Principal

open PolicyGateway.Record

/-! ## Documents that name nobody

This is said of the document and not of the record that is read from it, so that
one can see it in what was sent. -/

/-- **A document names nobody**: it gives no user id, or the empty text. What
else it says does not count. -/
def NamesNobody (node : Node) : Prop :=
  node.first? "user_id" = none ∨ node.first? "user_id" = some (.text "")

/-- **A caller is anonymous exactly if its document names nobody.** -/
theorem isAnonymous_iff_of_ofNode? {node : Node} {principal : Principal}
    (h : ofNode? node = some principal) :
    principal.isAnonymous = true ↔ NamesNobody node := by
  unfold ofNode? at h
  simp only [Option.bind_eq_bind, Option.bind_eq_some_iff] at h
  obtain ⟨fields, hfields, userId, huser, username, -, email, -, hmade⟩ := h
  cases hmade
  unfold Fields.get? at huser
  rw [Fields.lookup_first hfields] at huser
  unfold isAnonymous NamesNobody
  rw [String.isEmpty_iff]
  cases hgiven : node.first? "user_id" with
  | none =>
    rw [hgiven] at huser
    cases huser
    simp
  | some given =>
    rw [hgiven] at huser
    cases given with
    | text s =>
      cases huser
      simp
    | _ => cases huser

end Policy.Principal

namespace Gateway

open PolicyGateway.Http PolicyGateway.Policy PolicyGateway.Record

/-! ## The document of the caller

The header is text that spells JSON. Either of these may fail, and then there is
no caller, and with one required no way to go on. -/

/-- **The document in the header of the caller**: of the first field of its
name, if this is text and the text is JSON. -/
def callerDocument? (headers : Headers) (settings : IdentitySettings) :
    Option Node :=
  (((fieldName? settings.principalHeader).bind headers.first?).bind
    fieldText?).bind Json.readText?

section Caller

variable {settings : IdentitySettings} {headers : Headers}

/-- Whoever is no caller is not authenticated. -/
theorem exists_message_of_callerOf {failure : Failure}
    (h : callerOf headers settings = .error failure) :
    ∃ message, failure = .unauthenticated message := by
  unfold callerOf at h
  split at h
  · split at h
    · cases h
      exact ⟨_, rfl⟩
    · cases h
  · split at h
    · cases h
      exact ⟨_, rfl⟩
    · split at h
      · cases h
        exact ⟨_, rfl⟩
      · cases h

/-- **A caller that is required is the one that the document says.** Nothing
else about the header is looked at. -/
theorem callerOf_eq_ok_iff (hrequired : settings.requirePrincipal = true)
    {principal : Principal} :
    callerOf headers settings = .ok principal
      ↔ (callerDocument? headers settings).bind Principal.ofNode?
        = some principal := by
  unfold callerOf callerDocument?
  cases (fieldName? settings.principalHeader).bind headers.first? with
  | none => simp [hrequired]
  | some value =>
    rw [Option.bind_some]
    dsimp only
    cases fieldText? value with
    | none => simp
    | some text =>
      rw [Option.bind_some]
      dsimp only
      cases (Json.readText? text).bind Principal.ofNode? with
      | none => simp
      | some found => simp

end Caller

/-! ## What the requirement comes to

Three things may become of a request: it is refused for its caller, it fails on
its own for another reason, or it is authorized for the caller that it brings.
Which one it is does not depend on whether this caller has a name. -/

section Requirement

variable (settings : Settings) (checks : Policy.Settings)
  (network : Network) (moment : Moment) (inbound : Inbound)

/-- **A request is authorized for a caller**: it is judged, and what the checks
send is what they send on behalf of this caller. That the checks ask on behalf
of a caller can only be seen in what they send, so this is what is compared. -/
structure AuthorizedFor (principal : Principal) (handling : Handling) :
    Prop where
  /-- The caller is this one. -/
  caller : callerOf inbound.headers settings.identity = .ok principal
  /-- The checks ask on its behalf. -/
  asked : handling.policyCalls
    = (authorizationOf checks network moment inbound principal).calls
  /-- There is a decision. -/
  judged : ∃ processing decision, handling.processing = some processing ∧
    processing.decision = some decision

/-- **The header of a request names nobody**: its document is a caller, and
names nobody. -/
def BringsNobody : Prop :=
  ∃ node, callerDocument? inbound.headers settings.identity = some node ∧
    (Principal.ofNode? node).isSome = true ∧ Principal.NamesNobody node

/-- **What becomes of a request** where a caller is required. The first part is
about the header, the second about who is refused, and the other two about who
is not. -/
structure Required (handling : Handling) : Prop where
  /-- The caller is not authenticated, or it is the one that the document in
  the header says, and anonymous exactly if this names nobody. -/
  caller : (∃ message, callerOf inbound.headers settings.identity
      = .error (.unauthenticated message)) ∨
    ∃ node principal,
      callerDocument? inbound.headers settings.identity = some node ∧
      Principal.ofNode? node = some principal ∧
      callerOf inbound.headers settings.identity = .ok principal ∧
      (principal.isAnonymous = true ↔ Principal.NamesNobody node)
  /-- Whoever is not authenticated is told so, and nobody is called. -/
  refused : ∀ message, Service.isInternal inbound.uri.path = false →
    callerOf inbound.headers settings.identity
      = .error (.unauthenticated message) →
    handling.IsSilent ∧ handling.response.status = 401
  /-- It is authorized for an anonymous caller exactly if its header names
  nobody and it gets as far as the checks. -/
  authorized : (∃ principal : Principal, principal.isAnonymous = true ∧
      AuthorizedFor settings checks network moment inbound principal handling)
    ↔ BringsNobody settings inbound ∧
      Service.isInternal inbound.uri.path = false ∧ IsRead settings inbound
  /-- Where the checks allow it, it is forwarded for whatever caller, and this
  one is anonymous exactly if the header names nobody. -/
  forwarded : ∀ principal,
    Passes settings checks network moment inbound principal →
    handling.backendCalls
        = (forwardingOf settings network moment inbound).calls ∧
      (principal.isAnonymous = true ↔ BringsNobody settings inbound)

end Requirement

section Anonymous

variable {settings : Settings} {inbound : Inbound} {principal : Principal}
  (hrequired : settings.identity.requirePrincipal = true)
include hrequired

/-- A caller that is required has a document. -/
theorem exists_callerDocument
    (h : callerOf inbound.headers settings.identity = .ok principal) :
    ∃ node, callerDocument? inbound.headers settings.identity = some node ∧
      Principal.ofNode? node = some principal :=
  Option.bind_eq_some_iff.1 ((callerOf_eq_ok_iff hrequired).1 h)

/-- **A caller that is required is anonymous exactly if the header names
nobody.** -/
theorem isAnonymous_iff_bringsNobody
    (h : callerOf inbound.headers settings.identity = .ok principal) :
    principal.isAnonymous = true ↔ BringsNobody settings inbound := by
  obtain ⟨node, hnode, hread⟩ := exists_callerDocument hrequired h
  rw [Principal.isAnonymous_iff_of_ofNode? hread]
  constructor
  · intro hnobody
    exact ⟨node, hnode, by rw [hread]; rfl, hnobody⟩
  · rintro ⟨other, hother, -, hnobody⟩
    rw [hnode] at hother
    cases hother
    exact hnobody

/-- A header that names nobody brings an anonymous caller. -/
theorem BringsNobody.exists_caller (h : BringsNobody settings inbound) :
    ∃ principal, callerOf inbound.headers settings.identity
        = .ok principal ∧ principal.isAnonymous = true := by
  obtain ⟨node, hnode, hcaller, hnobody⟩ := h
  obtain ⟨principal, hread⟩ := Option.isSome_iff_exists.1 hcaller
  refine ⟨principal, (callerOf_eq_ok_iff hrequired).2 ?_,
    (Principal.isAnonymous_iff_of_ofNode? hread).2 hnobody⟩
  rw [hnode]
  exact hread

end Anonymous

/-- What was authorized has a decision. -/
theorem Service.exists_decision (service : Service) (network : Network)
    (id : String) (inbound : Inbound) (principal : Principal)
    (body : List UInt8) :
    ∃ decision, (service.authorizeAndForward network id inbound principal
      body).decision = some decision := by
  unfold authorizeAndForward
  dsimp only
  split
  · exact ⟨_, rfl⟩
  · split <;> exact ⟨_, rfl⟩

namespace Enforces

variable {settings : Settings} {checks : Policy.Settings} {session : Session}
  {network : Network} {moment : Moment} {inbound : Inbound}
  (h : Enforces settings checks session)
include h

/-- **A request is authorized for its caller**, if it has one and gets as far as
the checks. -/
theorem authorizedFor_iff {principal : Principal} :
    AuthorizedFor settings checks network moment inbound principal
        (session.service.handle network moment inbound)
      ↔ callerOf inbound.headers settings.identity = .ok principal ∧
        Service.isInternal inbound.uri.path = false ∧
        IsRead settings inbound := by
  constructor
  · rintro ⟨hcaller, -, processing, decision, hprocessing, hdecision⟩
    refine ⟨hcaller, ?_⟩
    -- without a decision it was not authorized, and there is none before the
    -- body is read
    cases hpath : Service.isInternal inbound.uri.path with
    | true =>
      rw [Service.handle_internal hpath] at hprocessing
      cases hprocessing
    | false =>
      rw [Service.handle_eq_process hpath] at hprocessing
      cases hprocessing
      refine ⟨rfl, ?_⟩
      cases hbody : Service.readBody (limitOf settings) inbound.headers
          inbound.body with
      | error failure =>
        rw [h.process_unread hcaller hbody] at hdecision
        cases hdecision
      | ok body => exact (isRead_of_readBody hbody).1
  · rintro ⟨hcaller, hpath, hread⟩
    obtain ⟨decision, hdecision⟩ := Service.exists_decision session.service
      network (idOf moment inbound) inbound principal inbound.body.bytes
    rw [Service.handle_eq_process hpath, h.process_read hcaller hread]
    refine ⟨hcaller, ?_, _, decision, rfl, hdecision⟩
    rw [← h.authorize_eq]
    exact Service.policyCalls_authorizeAndForward _ _ _ _ _ _

/-- **The requirement for one request** in a session. -/
theorem required (hrequired : settings.identity.requirePrincipal = true) :
    Required settings checks network moment inbound
      (session.service.handle network moment inbound) where
  caller := by
    cases hcaller : callerOf inbound.headers settings.identity with
    | error failure =>
      obtain ⟨message, rfl⟩ := exists_message_of_callerOf hcaller
      exact .inl ⟨message, rfl⟩
    | ok principal =>
      -- the caller is what its document says, so both are anonymous or neither
      obtain ⟨node, hnode, hread⟩ := exists_callerDocument hrequired hcaller
      exact .inr ⟨node, principal, hnode, hread, rfl,
        Principal.isAnonymous_iff_of_ofNode? hread⟩
  refused message hpath hcaller := h.failClosed.unidentified _ hpath hcaller
  authorized := by
    simp only [h.authorizedFor_iff]
    constructor
    · rintro ⟨principal, hanonymous, hcaller, hpath, hread⟩
      exact ⟨(isAnonymous_iff_bringsNobody hrequired hcaller).1 hanonymous,
        hpath, hread⟩
    · rintro ⟨hnobody, hpath, hread⟩
      obtain ⟨principal, hcaller, hanonymous⟩ :=
        hnobody.exists_caller hrequired
      exact ⟨principal, hanonymous, hcaller, hpath, hread⟩
  forwarded principal hpasses :=
    ⟨(h.failClosed.forwarded principal hpasses).1,
      isAnonymous_iff_bringsNobody hrequired hpasses.caller⟩

end Enforces

/-- **What a required caller comes to**: whatever settings a service accepts
that require one, in every run of exchanges and requests, whatever header a
request brings and whatever the policy servers and the backend service do.

The settings may name any header for the caller, and may be exchanged for others
as far as the checks go. -/
theorem run_required {settings : Settings} {service : Service}
    (h : Service.ofSettings settings = .ok service)
    (hrequired : settings.identity.requirePrincipal = true)
    (earlier later : List Event) (network : Network) (moment : Moment)
    (inbound : Inbound) :
    ∃ handling,
      ((Session.start service).run
          (earlier ++ .request network moment inbound :: later)).2[
            earlier.length]? = some (.handled handling) ∧
      Required settings (inForce settings.authorization earlier) network moment
        inbound handling :=
  ⟨_, Session.run_effects_getElem? _ earlier later _,
    ((Enforces.start h).run earlier).required hrequired⟩

/-! ### An empty object for a caller

The header is there and can be read. It says nothing. -/

/-- Settings that require a caller. -/
def requiringSettings : Settings :=
  { openSettings with identity := { requirePrincipal := true } }

/-- A request of which the caller is an empty object. -/
def nobodysRequest : Inbound :=
  { method := "GET"
    uri := .origin ⟨"/notes", none⟩
    headers := ⟨[("x-caller-identity", Text.Utf8.bytes "\x7b\x7d")]⟩
    body := .ofBytes [] }

/-- Partners that answer whatever they are sent. -/
def welcoming : Network := fun _ => .answered { status := 200 }

/-- It is forwarded for an anonymous caller, although one is required. -/
theorem nobody_forwarded :
    requiringSettings.identity.requirePrincipal = true ∧
      ∃ service, Service.ofSettings requiringSettings = .ok service ∧
      ∃ handling,
        ((Session.start service).run
          [.request welcoming ⟨"1", 0, none⟩ nobodysRequest]).2[0]?
            = some (.handled handling) ∧
        (∃ principal : Principal, principal.isAnonymous = true ∧
          AuthorizedFor requiringSettings requiringSettings.authorization
            welcoming ⟨"1", 0, none⟩ nobodysRequest principal handling) ∧
        handling.backendCalls.map (·.url.path) = [["notes"]] := by
  have hservice : Service.ofSettings requiringSettings
      = .ok ⟨requiringSettings, ⟨.ofSettings requiringSettings.authorization⟩,
          .ofSettings requiringSettings.server, ⟨false, true, false⟩⟩ := rfl
  have hnobody : BringsNobody requiringSettings nobodysRequest :=
    ⟨.mapping [], rfl, rfl, .inl rfl⟩
  have hpasses : Passes requiringSettings requiringSettings.authorization
      welcoming ⟨"1", 0, none⟩ nobodysRequest {} :=
    { path := by decide +kernel
      caller := rfl
      body := ⟨by decide +kernel, by decide +kernel, rfl⟩
      allowed := ⟨.allow RulesetCheck.inactive, rfl, rfl⟩ }
  obtain ⟨handling, hat, hrequired⟩ := run_required hservice rfl [] []
    welcoming ⟨"1", 0, none⟩ nobodysRequest
  refine ⟨rfl, _, hservice, handling, hat,
    hrequired.authorized.2 ⟨hnobody, hpasses.path, hpasses.body⟩, ?_⟩
  rw [(hrequired.forwarded {} hpasses).1]
  decide +kernel

end Gateway

end PolicyGateway
