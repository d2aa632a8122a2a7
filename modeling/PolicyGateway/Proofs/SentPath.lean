import PolicyGateway.Proofs.Addresses
import PolicyGateway.Proofs.FailClosed
import PolicyGateway.Proofs.Targets

/-!
# The path that was checked and the path that is sent

The rules of the checks are matched against the path as it is written in the
target of a request. What is sent to the backend service is an address made of
the configured one and the target, and an address takes its steps. So the
backend service may be asked for another path than the checks were.

`forwarded_continues_iff` says for which requests both are the same, compared
segment by segment as what the segments stand for: the configured address has
to be open, and the path must not hold a backslash or a segment that says one
dot or two. Of every other request the backend service sees another path than
the checks did. `around_reaches_admin` is one of them, and it passes the checks
only because they look at the other path.

**Why this can be a way around.** A rule is about the text of a path, and the
text is what the client wrote. The address is taken for what it means, which is
shorter where it steps back. A path that starts like a public one can so come to
mean one that is kept, and nothing on the way looks at it again.
-/

namespace PolicyGateway.Gateway

open PolicyGateway.Http PolicyGateway.Policy
open PolicyGateway.Text (decoded)

/-- The request that is sent goes to the address that was read. -/
theorem url_of_follow {network : Network} {budget : Nat}
    {request call : Request} {further : List Request}
    (h : (Client.follow network budget request).arrived = call :: further) :
    call = request := by
  have hcourse := Client.course_follow network budget request
  generalize Client.follow network budget request = exchange at h hcourse
  cases hcourse <;> cases h <;> rfl

/-- **What is sent first goes to the address**, without the name of a user. -/
theorem url_of_send {network : Network} {method address : String}
    {headers : Headers} {body : List UInt8} {call : Request}
    {further : List Request}
    (h : (Client.send network method address headers body).arrived
      = call :: further) :
    ∃ url, Url.parse? address = some url ∧ call.url = url.withoutUser := by
  unfold Client.send at h
  split at h
  · cases h
  · next url hurl => exact ⟨url, hurl, by rw [url_of_follow h]⟩

namespace Service

/-- **A request is forwarded** exactly if it is allowed, and only then is there
a response that does not tell a failure. It is how a forwarding is recognized
from outside. -/
theorem process_ends (service : Service) (network : Network)
    (id : String) (inbound : Inbound) :
    (∃ body, (service.process network id inbound).decision = some .allow ∧
      (service.process network id inbound).backendCalls
        = (service.forwarder.forward network inbound.method
            (targetOf inbound.uri) inbound.headers body id).calls ∧
      (service.process network id inbound).result
        = (service.forwarder.forward network inbound.method
            (targetOf inbound.uri) inbound.headers body id).result) ∨
    (service.process network id inbound).decision ≠ some .allow ∧
      (service.process network id inbound).backendCalls = [] ∧
      ∃ failure, (service.process network id inbound).result
        = .error failure := by
  -- the processing ends early with a failure, or with a forwarding
  unfold process
  split
  · exact .inr ⟨nofun, rfl, _, rfl⟩
  · split
    · exact .inr ⟨nofun, rfl, _, rfl⟩
    · next body _ =>
      unfold authorizeAndForward
      dsimp only
      split
      · exact .inr ⟨nofun, rfl, _, rfl⟩
      · split
        · exact .inl ⟨body, rfl, rfl, rfl⟩
        · exact .inr ⟨nofun, rfl, _, rfl⟩

/-- What is forwarded for a request. -/
theorem process_forwards (service : Service) (network : Network)
    (id : String) (inbound : Inbound) :
    (∃ body, (service.process network id inbound).decision = some .allow ∧
      (service.process network id inbound).backendCalls
        = (service.forwarder.forward network inbound.method
            (targetOf inbound.uri) inbound.headers body id).calls) ∨
    (service.process network id inbound).decision ≠ some .allow ∧
      (service.process network id inbound).backendCalls = [] := by
  rcases service.process_ends network id inbound with
    ⟨body, hallowed, hcalls, -⟩ | ⟨hdenied, hnone, -⟩
  · exact .inl ⟨body, hallowed, hcalls⟩
  · exact .inr ⟨hdenied, hnone⟩

variable {service : Service} {network : Network} {moment : Moment}
  {inbound : Inbound}

/-- **Whatever is forwarded goes to the address for the target.** In front of it
stands the address of the settings, and behind it nothing. -/
theorem exists_forward_of_backendCalls
    (h : (service.handle network moment inbound).backendCalls ≠ []) :
    ∃ body, (service.handle network moment inbound).backendCalls
      = (service.forwarder.forward network inbound.method
          (targetOf inbound.uri) inbound.headers body
          (idOf moment inbound)).calls := by
  unfold handle at h ⊢
  dsimp only at h ⊢
  split at h
  · exact absurd rfl h
  · next hpath =>
    rw [if_neg hpath]
    rw [Handling.backendCalls_of_some] at h ⊢
    rcases service.process_forwards network (idOf moment inbound) inbound with
      ⟨body, -, hcalls⟩ | ⟨-, hnone⟩
    · exact ⟨body, hcalls⟩
    · exact absurd hnone h

/-- **When the backend service sees the path that was checked**: of every
request that arrives with a path as its target and is forwarded, exactly if the
configured address is open and the path has no backslash and takes no step.

What is compared is what segments say and not how they are written, so that an
encoding which the address adds or keeps makes no difference. -/
theorem forwarded_continues_iff {method target : String}
    {fields : List (String × FieldValue)} {bs : List UInt8}
    (harrived : Inbound.receive method target fields bs = .ok inbound)
    (horigin : target.toList.head? = some '/')
    {call : Request} {further : List Request}
    (hcalls : (service.handle network moment inbound).backendCalls
      = call :: further) :
    let checked :=
      (accessRequest inbound (idOf moment inbound)).path.toList
    Url.Continues service.forwarder.base call.url (Route.segments checked) ↔
      Url.IsOpen service.forwarder.base ∧ '\\' ∉ checked ∧
        ∀ segment ∈ Route.segments checked,
          decoded segment ≠ [0x2e] ∧ decoded segment ≠ [0x2e, 0x2e] := by
  obtain ⟨path, query, huri⟩ :=
    Uri.exists_isOrigin (Inbound.parse_of_receive harrived) horigin
  have hchecked : (accessRequest inbound (idOf moment inbound)).path.toList
      = '/' :: path := by
    show inbound.uri.path.toList = _
    rw [huri.path_eq, String.toList_ofList]
  have hsegments : Route.segments ('/' :: path) = path.splitOn '/' := rfl
  -- what is forwarded goes to the address for the target, and is read as one
  obtain ⟨body, hforward⟩ := exists_forward_of_backendCalls
    (by rw [hcalls]; exact List.cons_ne_nil _ _)
  rw [hcalls] at hforward
  obtain ⟨url, hurl, hcall⟩ := url_of_send hforward.symm
  unfold Forwarder.address at hurl
  rw [huri.targetOf_eq] at hurl
  have hpath : call.url.path = url.path := by rw [hcall]; rfl
  have hiff := Url.continues_iff huri.visible hurl
  rw [huri.takeWhile_path] at hiff
  dsimp only
  rw [hchecked, hsegments]
  unfold Url.Continues at hiff ⊢
  rw [hpath, hiff]
  refine and_congr_right fun _ => and_congr ?_ ?_
  · rw [List.mem_cons]
    simp
  · simp only [Url.isStep_iff, not_or]

/-! ### A request that goes around

One rule is all there is, and it keeps what is below one path. The request names
a path that this rule does not fit. -/

/-- Settings that keep the paths of administrators and let all others
pass. -/
def guardedSettings : Settings :=
  { authorization :=
      { resources :=
          { enabled := true
            anonymousAccess := true
            validationUrl := "http://policy/check"
            resourceMap := .ofList [("[/admin/**]", "admin")] } } }

/-- A service with these settings. -/
def guarded : Service :=
  { settings := guardedSettings
    gate := ⟨.ofSettings guardedSettings.authorization⟩
    forwarder := .ofSettings guardedSettings.server
    status := { ready := true, resources := true, rulesets := false } }

/-- Somebody steps back from a public path. -/
def around : Inbound :=
  { method := "GET"
    uri := .origin ⟨"/public/../admin/users", none⟩
    headers := {}
    body := {} }

/-- What the backend service sees of it. -/
def aroundSent : Request :=
  { method := "GET"
    url :=
      { scheme := .http
        authority := { host := "localhost", port := some 3000 }
        path := ["admin", "users"]
        query := none }
    headers := ⟨[("x-request-id", [0x31]), ("accept", [0x2a, 0x2f, 0x2a])]⟩
    body := [] }

/-- It reaches the users of the administrators, about whom nobody was
asked. -/
theorem around_reaches_admin :
    Inbound.receive "GET" "/public/../admin/users" [] [] = .ok around ∧
      (guarded.handle (fun _ => .answered allowing) ⟨"1", 0, none⟩
        around).policyCalls = [] ∧
      (guarded.handle (fun _ => .answered allowing) ⟨"1", 0, none⟩
        around).backendCalls = [aroundSent] ∧
      aroundSent.url.pathText = "/admin/users" ∧
      ¬ Url.Continues guarded.forwarder.base aroundSent.url
        (Route.segments "/public/../admin/users".toList) := by
  have harrived : Inbound.receive "GET" "/public/../admin/users" [] []
      = .ok around := eq_ok_of_toOption (by decide +kernel)
  have hcalls : (guarded.handle (fun _ => .answered allowing) ⟨"1", 0, none⟩
      around).backendCalls = [aroundSent] := by decide +kernel
  refine ⟨harrived, by decide +kernel, hcalls, by decide +kernel,
    fun hsame => ?_⟩
  have hplain := (forwarded_continues_iff harrived (by decide) hcalls).1 hsame
  exact (hplain.2.2 ['.', '.'] (by decide +kernel)).2 (by decide)

end Service

end PolicyGateway.Gateway
