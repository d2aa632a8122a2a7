import PolicyGateway.Gateway.Session
import PolicyGateway.Proofs.Evidence

/-!
# What a session enforces

A session changes in two ways: its checks are exchanged, and its counters
grow. Neither changes the settings that the service was started with, and
at every moment the checks are those of one settings value: the last one
that an exchange accepted, or the first (`inForce`). `Enforces` is that
invariant, kept by every event (`Enforces.step`) and so by every run
(`Enforces.run`).

A run of some events and then some more is the first run continued by the
second (`Session.run_append`), so what holds of a request in any session
holds of it at any place of any run.

**Why two settings.** The settings of the service stay, and those of the checks
may be exchanged. So a statement about a request in a run is about two of them:
the ones the service was started with, which tell where the backend service is
and who a caller is, and the ones that were accepted last, by which the request
is judged. `Enforces` has both as parameters.
-/

namespace PolicyGateway.Gateway

open PolicyGateway.Http PolicyGateway.Policy

/-- **The settings of the checks behind an event**: those of an exchange in
which a section takes part, and otherwise the ones before it. -/
def Event.settles (checks : Policy.Settings) : Event → Policy.Settings
  | .reload renewed =>
    if renewed.resources.isActive || renewed.rulesets.isActive then renewed
    else checks
  | .request _ _ _ => checks

/-- **The settings of the checks in force after events.** They can be found
without a run, by going through the exchanges alone. -/
def inForce (checks : Policy.Settings) (events : List Event) :
    Policy.Settings :=
  events.foldl Event.settles checks

namespace Session

theorem run_cons (session : Session) (event : Event) (rest : List Event) :
    session.run (event :: rest)
      = (((session.step event).1.run rest).1,
          (session.step event).2 :: ((session.step event).1.run rest).2) :=
  rfl

/-- **A run is continued by a run.** -/
theorem run_append (session : Session) (earlier later : List Event) :
    session.run (earlier ++ later)
      = (((session.run earlier).1.run later).1,
          (session.run earlier).2 ++ ((session.run earlier).1.run later).2) := by
  induction earlier generalizing session with
  | nil => rfl
  | cons event rest ih =>
    rw [List.cons_append, run_cons, ih, run_cons]
    rfl

/-- Every event has its effect. -/
theorem length_run_effects (session : Session) (events : List Event) :
    (session.run events).2.length = events.length := by
  induction events generalizing session with
  | nil => rfl
  | cons event rest ih => rw [run_cons, List.length_cons, ih, List.length_cons]

/-- What came of an event stands at its place among the effects of a run. So a
statement about one request in any session is one about each request of a run.
-/
theorem run_effects_getElem? (session : Session) (earlier later : List Event)
    (event : Event) :
    (session.run (earlier ++ event :: later)).2[earlier.length]?
      = some ((session.run earlier).1.step event).2 := by
  rw [run_append, List.getElem?_append_right
    (Nat.le_of_eq (length_run_effects session earlier)),
    length_run_effects, Nat.sub_self]
  rfl

/-- One event more after a run. -/
theorem run_concat (session : Session) (earlier : List Event)
    (event : Event) :
    (session.run (earlier ++ [event])).1
      = ((session.run earlier).1.step event).1 := by
  rw [run_append]
  rfl

end Session

/-- **A service that is accepted** has the gate of its settings, and all else
that they say. -/
theorem Service.ofSettings_eq_ok {settings : Settings} {service : Service}
    (h : Service.ofSettings settings = .ok service) :
    ∃ gate, Gate.ofSettings settings.authorization = .ok gate ∧
      service =
        { settings, gate
          forwarder := .ofSettings settings.server
          status :=
            { resources := settings.authorization.resources.isActive
              rulesets := settings.authorization.rulesets.isActive } } := by
  unfold Service.ofSettings at h
  cases hg : Gate.ofSettings settings.authorization with
  | error cause =>
    rw [hg] at h
    cases h
  | ok gate =>
    rw [hg] at h
    cases h
    exact ⟨gate, rfl, rfl⟩

/-- **A session works by these settings**: it was started with them, and its
checks are those that some settings of the checks describe. -/
structure Enforces (settings : Settings) (checks : Policy.Settings)
    (session : Session) : Prop where
  /-- The settings it was started with. -/
  started : session.service.settings = settings
  /-- The checks. -/
  gate : session.service.gate = ⟨.ofSettings checks⟩
  /-- The way to the backend service. -/
  forwarder : session.service.forwarder = .ofSettings settings.server

namespace Enforces

variable {settings : Settings} {checks : Policy.Settings} {session : Session}

/-- A session starts with the checks of its settings. -/
theorem start {service : Service}
    (h : Service.ofSettings settings = .ok service) :
    Enforces settings settings.authorization (.start service) := by
  obtain ⟨gate, hgate, rfl⟩ := Service.ofSettings_eq_ok h
  exact ⟨rfl, Gate.ofSettings_eq_ok hgate, rfl⟩

/-- **Every event keeps the invariant.** -/
theorem step (h : Enforces settings checks session) (event : Event) :
    Enforces settings (event.settles checks) (session.step event).1 := by
  cases event with
  | request network moment inbound =>
    exact ⟨h.started, h.gate, h.forwarder⟩
  | reload renewed =>
    refine ⟨h.started, ?_, h.forwarder⟩
    change (session.service.gate.reload renewed).1 = _
    -- an exchange is refused exactly where no section takes part
    unfold Gate.reload Gate.ofSettings Policy.Settings.validate Event.settles
    by_cases hv : (renewed.resources.isActive ||
        renewed.rulesets.isActive) = true
    · simp only [if_pos hv]
      rfl
    · simp only [if_neg hv]
      exact h.gate

/-- **Every run keeps the invariant.** -/
theorem run (h : Enforces settings checks session) (events : List Event) :
    Enforces settings (inForce checks events) (session.run events).1 := by
  induction events generalizing checks session with
  | nil => exact h
  | cons event rest ih => exact ih (h.step event)

end Enforces

end PolicyGateway.Gateway
