import PolicyGateway.Proofs.FailClosed
import PolicyGateway.Proofs.JsonText

/-!
# What readiness tells of the checks

Whoever asks the gateway whether it is ready is told which of the two checks
take part. The answer comes from the state of readiness, and the checks are in
the gate. Both are made from the same settings when the service is made. After
that an exchange of the checks reaches the gate alone, and nothing that happens
reaches the state of readiness (`Session.status_run`).

So the answer is always that of the settings that the service was started with,
and it tells the checks in force exactly if the same sections take part in both
settings (`ready_tells_iff`). In `ready_tells_stale` another section takes part
after an exchange, and the answer is still the first one.

An answer is taken as a client reads it, as a JSON document with a list of
readiness checks, each with its name and its message.

**Why the start is what counts.** The state of readiness is made once and handed
to the service, while the gate is one that can be exchanged. Nothing connects
the two afterwards. Whoever exchanges the settings and looks whether the gateway
has taken them up is told what was true before.
-/

namespace PolicyGateway

namespace Policy

/-! ## Checks that take part

Which checks take part can be seen at the gate itself, from how its checks were
made. This is the side that an exchange does reach. -/

/-- A resource check takes part if its section does. -/
@[simp] theorem ResourceCheck.isActive_ofSettings
    (settings : ResourceSettings) :
    (ofSettings settings).isActive = settings.isActive := by
  unfold ofSettings isActive
  split <;> simp_all

/-- A ruleset check takes part if its section does. -/
@[simp] theorem RulesetCheck.isActive_ofSettings
    (settings : RulesetSettings) :
    (ofSettings settings).isActive = settings.isActive := by
  unfold ofSettings isActive
  split <;> simp_all

/-- At the gate a section takes part. -/
theorem Gate.isActive_of_ofSettings {settings : Settings} {gate : Gate}
    (h : Gate.ofSettings settings = .ok gate) :
    (settings.resources.isActive || settings.rulesets.isActive) = true := by
  unfold Gate.ofSettings Settings.validate at h
  split at h
  · assumption
  · cases h

end Policy

namespace Gateway

open PolicyGateway.Http PolicyGateway.Policy
open PolicyGateway.Json (Value)

/-! ## Reading the answer

An answer is bytes, and two answers that differ in one word may say the same to
a reader. So it is taken as a client reads it, down to the message of the one
check in it. -/

/-- **The message of a readiness check** of this name, as a client reads it. If
there are several of one name it is the first. -/
def checkTold? (name : String) (body : List UInt8) : Option String :=
  match (Value.ofBytes? body).bind (Value.member? "checks") with
  | some (.array checks) =>
    (checks.find? fun check => check.textMember? "name" = some name).bind
      (Value.textMember? "message")
  | _ => none

/-- How it is told which checks take part. -/
def activityText (resources rulesets : Bool) : String :=
  "coarse=" ++ Status.truthName resources ++ " fine_grain=" ++
    Status.truthName rulesets

/-- **The text tells which checks take part.** Otherwise a wrong answer could
look like a right one. -/
theorem activityText_inj {resources rulesets resources' rulesets' : Bool} :
    activityText resources rulesets = activityText resources' rulesets'
      ↔ resources = resources' ∧ rulesets = rulesets' := by
  revert resources rulesets resources' rulesets'
  decide

/-- **A response tells which of these checks take part.** It is the text that
would be told of them, as the only one that is. -/
def TellsActivity (checks : Checks) (response : Outbound) : Prop :=
  checkTold? "authorization" response.body
    = some (activityText checks.resources.isActive checks.rulesets.isActive)

namespace Status

variable (status : Status)

/-- A readiness check as a JSON value. -/
def checkJson (check : ReadinessCheck) : Value :=
  .object [("name", .text check.name), ("passed", .boolean check.passed),
    ("message", .text check.message)]

theorem fits_readinessJson (room : Nat) :
    status.readinessJson.fits (room + 3) = true := by
  have hchecks : (Value.array (status.checks.map checkJson)).fits (room + 2)
      = true := by
    refine Value.fits_array fun item hitem => ?_
    obtain ⟨check, -, rfl⟩ := List.mem_map.1 hitem
    refine Value.fits_object ?_
    simp
  unfold checkJson at hchecks
  refine Value.fits_object ?_
  simp [hchecks]

/-- A readiness check is read with its name and its message. -/
theorem textMember?_checkJson (check : ReadinessCheck) :
    (checkJson check).inOrder.textMember? "name" = some check.name
      ∧ (checkJson check).inOrder.textMember? "message"
        = some check.message := by
  unfold checkJson Value.textMember?
  rw [Value.member?_inOrder, Value.member?_inOrder]
  exact ⟨rfl, rfl⟩

/-- **The readiness is read as it is.** -/
theorem checkTold?_readinessJson :
    checkTold? "authorization" (Text.Utf8.bytes status.readinessJson.toText)
      = some (activityText status.resources status.rulesets) := by
  have hread := Value.ofBytes?_toText (status.fits_readinessJson 124)
  have hchecks : status.readinessJson.inOrder.member? "checks"
      = some (.array (status.checks.map fun check =>
          (checkJson check).inOrder)) := by
    unfold readinessJson
    rw [Value.member?_inOrder]
    show some (Value.array (Value.itemsInOrder (status.checks.map checkJson)))
      = _
    rw [Value.itemsInOrder_eq_map, List.map_map]
    rfl
  unfold checkTold?
  rw [hread, Option.bind_some, hchecks]
  simp [checks, textMember?_checkJson, activityText]

end Status

/-! ## The state of readiness

No event has a branch that writes to it. Over a run this is an induction in
which every step leaves it as it was. -/

namespace Session

/-- **Nothing that happens reaches the state of readiness.** -/
theorem status_run (session : Session) (events : List Event) :
    (session.run events).1.service.status = session.service.status := by
  induction events generalizing session with
  | nil => rfl
  | cons event rest ih =>
    have hstep : (session.step event).1.service.status
        = session.service.status := by
      cases event <;> rfl
    rw [run_cons, ih, hstep]

/-- While a service runs, it is in the state that its settings say, and
ready. -/
theorem status_of_ofSettings {settings : Settings} {service : Service}
    (h : Service.ofSettings settings = .ok service) (events : List Event) :
    ((start service).run events).1.service.status =
      { ready := true
        resources := settings.authorization.resources.isActive
        rulesets := settings.authorization.rulesets.isActive } := by
  obtain ⟨gate, -, rfl⟩ := Service.ofSettings_eq_ok h
  rw [status_run]
  rfl

end Session

namespace Service

@[simp] theorem status_jsonResponse (status : Nat) (body : Value) :
    (jsonResponse status body).status = status :=
  rfl

@[simp] theorem body_jsonResponse (status : Nat) (body : Value) :
    (jsonResponse status body).body = Text.Utf8.bytes body.toText :=
  rfl

/-- Whoever asks for the readiness gets it. -/
theorem internalResponse_ready (service : Service) (moment : Moment) :
    service.internalResponse moment "/_tollgate/ready"
      = jsonResponse (if service.status.isReady then 200 else 503)
          service.status.readinessJson := by
  unfold internalResponse
  rw [if_neg (by decide), if_pos rfl]

/-- **A service that is ready says so**, with the checks of its state. -/
theorem told_ready {service : Service}
    (hready : service.status.isReady = true) (network : Network)
    (moment : Moment) {inbound : Inbound}
    (hpath : inbound.uri.path = "/_tollgate/ready") :
    (service.handle network moment inbound).response.status = 200 ∧
      checkTold? "authorization"
          (service.handle network moment inbound).response.body
        = some (activityText service.status.resources
            service.status.rulesets) := by
  have hinternal : isInternal inbound.uri.path = true := by
    rw [hpath]
    decide
  have hresponse : (service.handle network moment inbound).response
      = jsonResponse 200 service.status.readinessJson := by
    rw [handle_internal hinternal, hpath, internalResponse_ready, if_pos hready]
  rw [hresponse, status_jsonResponse, body_jsonResponse]
  exact ⟨rfl, service.status.checkTold?_readinessJson⟩

end Service

/-- The checks that take part are those of which the section does. -/
theorem Enforces.isActive_checks {settings : Settings}
    {checks : Policy.Settings} {session : Session}
    (h : Enforces settings checks session) :
    session.service.gate.checks.resources.isActive
        = checks.resources.isActive ∧
      session.service.gate.checks.rulesets.isActive
        = checks.rulesets.isActive := by
  rw [h.gate]
  exact ⟨ResourceCheck.isActive_ofSettings _,
    RulesetCheck.isActive_ofSettings _⟩

/-- **Readiness tells the checks of the start**: whatever settings a service
accepts, in every run of exchanges and requests, the answer tells which sections
take part in the settings that the service was started with. So it tells the
checks in force exactly if the same sections take part in the settings of the
last exchange that was accepted. The iff is over all runs, so it tells those who
exchange settings when they may go by the answer. -/
theorem ready_tells_iff {settings : Settings} {service : Service}
    (h : Service.ofSettings settings = .ok service)
    (earlier later : List Event) (network : Network) (moment : Moment)
    (inbound : Inbound) (hpath : inbound.uri.path = "/_tollgate/ready") :
    ∃ handling,
      ((Session.start service).run
          (earlier ++ .request network moment inbound :: later)).2[
            earlier.length]? = some (.handled handling) ∧
      handling.response.status = 200 ∧
      checkTold? "authorization" handling.response.body
        = some (activityText settings.authorization.resources.isActive
            settings.authorization.rulesets.isActive) ∧
      (TellsActivity
          ((Session.start service).run earlier).1.service.gate.checks
          handling.response
        ↔ (inForce settings.authorization earlier).resources.isActive
            = settings.authorization.resources.isActive ∧
          (inForce settings.authorization earlier).rulesets.isActive
            = settings.authorization.rulesets.isActive) := by
  obtain ⟨hresources, hrulesets⟩ :=
    ((Enforces.start h).run earlier).isActive_checks
  have hstatus := Session.status_of_ofSettings h earlier
  -- a service was only made if a section takes part, and so it is ready
  have hready : ((Session.start service).run earlier).1.service.status.isReady
      = true := by
    obtain ⟨gate, hgate, -⟩ := Service.ofSettings_eq_ok h
    rw [hstatus]
    simpa [Status.isReady, Status.checks] using
      Gate.isActive_of_ofSettings hgate
  obtain ⟨hcode, htold⟩ := Service.told_ready hready network moment hpath
  rw [hstatus] at htold
  refine ⟨_, Session.run_effects_getElem? _ earlier later _, hcode, htold, ?_⟩
  unfold TellsActivity
  rw [htold, hresources, hrulesets, Option.some_inj, activityText_inj]
  exact and_congr eq_comm eq_comm

/-! ### An exchange of sections

The exchange is accepted, and the gate makes the other check from then on. -/

/-- Settings in which the rulesets take part, and no resources. -/
def rulesetsOnly : Policy.Settings :=
  { rulesets := .against "http://policy/decide" }

/-- Whoever asks for the readiness. -/
def readyRequest : Inbound :=
  { method := "GET"
    uri := .origin ⟨"/_tollgate/ready", none⟩
    headers := {}
    body := .ofBytes [] }

/-- After an exchange of the resources for the rulesets it is still told that
the resources take part. -/
theorem ready_tells_stale :
    ∃ service, Service.ofSettings openSettings = .ok service ∧
      ∃ handling,
        ((Session.start service).run
          [.reload rulesetsOnly, .request (fun _ => .closed) ⟨"1", 0, none⟩
            readyRequest]).2[1]? = some (.handled handling) ∧
        checkTold? "authorization" handling.response.body
          = some "coarse=true fine_grain=false" ∧
        ¬ TellsActivity
          ((Session.start service).run
            [.reload rulesetsOnly]).1.service.gate.checks
          handling.response := by
  have hservice : Service.ofSettings openSettings
      = .ok ⟨openSettings, ⟨.ofSettings openSettings.authorization⟩,
          .ofSettings openSettings.server, ⟨false, true, false⟩⟩ := rfl
  obtain ⟨handling, hat, -, htold, hiff⟩ := ready_tells_iff hservice
    [.reload rulesetsOnly] [] (fun _ => .closed) ⟨"1", 0, none⟩ readyRequest
    rfl
  refine ⟨_, hservice, handling, hat, htold, fun htells => ?_⟩
  have hsame : rulesetsOnly.resources.isActive
      = openSettings.authorization.resources.isActive := (hiff.1 htells).1
  exact absurd hsame (by decide)

end Gateway

end PolicyGateway
