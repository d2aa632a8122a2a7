import PolicyGateway.Policy.Traffic
import PolicyGateway.Proofs.Evidence

/-!
# Exchanges do not reach what is under way

However authorizations and exchanges of the checks are interleaved, each
authorization comes to the end that it would come to alone, at a gate whose
checks are those that were in force when it began. The checks in force are
always those of one settings value: the last one that an exchange accepted, or
the first. And an exchange that is refused leaves no trace
(`Traffic.run_isolated`).

Once it has begun, an authorization no longer looks at the checks in force
(`Progress.move_eq`), and nobody else touches it (`Traffic.progress_step`). So
its progress is a fold over its own steps (`Traffic.progress_run`), and what a
fold of such steps can come to is settled without any traffic
(`Progress.Owes`).

**Why as traffic.** A check waits for a policy server, and while it waits other
requests come in and the settings may be exchanged. What happens in between is a
matter of chance. So a history is any list of events, each the step of one
authorization or an exchange, and what is proved holds for all of them. Nothing
is assumed of the order, and an authorization may never come to its end.

**Why alone.** The measure is what an authorization would come to with nobody
else there. It is known what that is, and whoever reads a refusal in a log can
repeat it: one gate, one request, and the answers that came in.
-/

namespace PolicyGateway.Policy

/-! ## The steps of one authorization

An authorization begins, each check gets its outcome, and the two are put
together. From a history its own steps can be picked out; that these are enough
is what has to be shown. -/

/-- **The step that an event is** for one authorization, if it is one. An
exchange is the step of none. -/
def Event.moveOf? (id : Nat) : Event → Option Move
  | .reload _ => none
  | .move other taken => if other = id then some taken else none

/-- **Whether an event begins an authorization.** A second one for the same
authorization finds it begun, and does nothing. -/
def Event.begins (id : Nat) : Event → Bool
  | .move other (.enter _) => other == id
  | _ => false

theorem Event.eq_of_begins {id : Nat} {event : Event}
    (h : event.begins id = true) :
    ∃ inquiry, event = .move id (.enter inquiry) := by
  cases event with
  | reload settings => cases h
  | move other taken =>
    cases taken with
    | enter inquiry => exact ⟨inquiry, by rw [beq_iff_eq.1 h]⟩
    | _ => cases h

/-- **The steps of one authorization** in a history, in order. What stands
between them is left out, and with it the time at which they were taken. -/
def movesOf (id : Nat) (history : List Event) : List Move :=
  history.filterMap (Event.moveOf? id)

namespace Progress

/-- An authorization that has begun does not look at the checks in force. -/
theorem move_eq {progress : Progress} (h : progress ≠ .idle)
    (checks other : Checks) (move : Move) :
    progress.move checks move = progress.move other move := by
  cases progress with
  | idle => exact absurd rfl h
  | running pending => cases move <;> rfl
  | finished authorization => cases move <;> rfl

theorem move_ne_idle {progress : Progress} (h : progress ≠ .idle)
    (checks : Checks) (move : Move) : progress.move checks move ≠ .idle := by
  cases progress with
  | idle => exact absurd rfl h
  | running pending =>
    cases move with
    | combine =>
      show pending.combine ≠ .idle
      unfold Pending.combine
      split <;> nofun
    | _ => nofun
  | finished authorization => cases move <;> nofun

/-- Only a step that begins an authorization makes it begin. -/
theorem move_idle {checks : Checks} {id : Nat} {move : Move}
    (h : (Event.move id move).begins id = false) :
    Progress.idle.move checks move = .idle := by
  cases move with
  | enter inquiry => simp [Event.begins] at h
  | _ => rfl

end Progress

/-- **What the outcomes of a pending authorization are**: it holds these checks
for this inquiry, and each outcome is that of one of the checks at one of these
steps. Which network answered may differ from step to step, since a server need
not be the same at two times. -/
structure Pending.Owes (checks : Checks) (inquiry : Inquiry)
    (moves : List Move) (pending : Pending) : Prop where
  /-- The checks are these. -/
  held : pending.checks = checks
  /-- The inquiry is this one. -/
  about : pending.inquiry = inquiry
  /-- The resource check was made at one of the steps. -/
  resources : ∀ outcome, pending.resources = some outcome →
    ∃ network, .resources network ∈ moves ∧
      outcome = checks.resources.run network inquiry.request inquiry.principal
  /-- The ruleset check was made at one of the steps. -/
  rulesets : ∀ outcome, pending.rulesets = some outcome →
    ∃ network, .rulesets network ∈ moves ∧
      outcome = checks.rulesets.run network inquiry.request inquiry.principal
        inquiry.body

/-- **What an authorization can come to** with these checks and these steps:
its outcomes are theirs, and so is its end. -/
def Progress.Owes (checks : Checks) (inquiry : Inquiry) (moves : List Move) :
    Progress → Prop
  | .idle => False
  | .running pending => pending.Owes checks inquiry moves
  | .finished authorization =>
    ∃ resources rulesets, .resources resources ∈ moves ∧
      .rulesets rulesets ∈ moves ∧
      authorization = checks.authorizeAmid resources rulesets inquiry

section Owes

variable {checks : Checks} {inquiry : Inquiry} {moves : List Move}

namespace Pending.Owes

variable {pending : Pending}

theorem mono {more : List Move} (h : pending.Owes checks inquiry moves)
    (hsub : moves ⊆ more) : pending.Owes checks inquiry more where
  held := h.held
  about := h.about
  resources := fun outcome houtcome =>
    (h.resources outcome houtcome).imp fun _ hmem => ⟨hsub hmem.1, hmem.2⟩
  rulesets := fun outcome houtcome =>
    (h.rulesets outcome houtcome).imp fun _ hmem => ⟨hsub hmem.1, hmem.2⟩

theorem answerResources {network : Http.Network}
    (h : pending.Owes checks inquiry moves)
    (hmem : .resources network ∈ moves) :
    (pending.answerResources network).Owes checks inquiry moves := by
  refine ⟨h.held, h.about, fun outcome houtcome => ?_, h.rulesets⟩
  unfold Pending.answerResources at houtcome
  cases hfirst : pending.resources with
  | some first =>
    refine h.resources outcome ?_
    rw [hfirst] at houtcome ⊢
    exact houtcome
  | none =>
    rw [hfirst, h.held, h.about] at houtcome
    exact ⟨network, hmem, (Option.some.inj houtcome).symm⟩

theorem answerRulesets {network : Http.Network}
    (h : pending.Owes checks inquiry moves)
    (hmem : .rulesets network ∈ moves) :
    (pending.answerRulesets network).Owes checks inquiry moves := by
  refine ⟨h.held, h.about, h.resources, fun outcome houtcome => ?_⟩
  unfold Pending.answerRulesets at houtcome
  cases hfirst : pending.rulesets with
  | some first =>
    refine h.rulesets outcome ?_
    rw [hfirst] at houtcome ⊢
    exact houtcome
  | none =>
    rw [hfirst, h.held, h.about] at houtcome
    exact ⟨network, hmem, (Option.some.inj houtcome).symm⟩

theorem combine (h : pending.Owes checks inquiry moves) :
    pending.combine.Owes checks inquiry moves := by
  unfold Pending.combine
  split
  · next resources rulesets hresources hrulesets =>
    obtain ⟨first, hfirst, rfl⟩ := h.resources _ hresources
    obtain ⟨second, hsecond, rfl⟩ := h.rulesets _ hrulesets
    exact ⟨first, second, hfirst, hsecond, rfl⟩
  · exact h

end Pending.Owes

namespace Progress

variable {progress : Progress}

/-- **A step adds to what an authorization owes.** The checks in force appear
here only to be of no consequence. -/
theorem Owes.move (h : progress.Owes checks inquiry moves) (inForce : Checks)
    (move : Move) :
    (progress.move inForce move).Owes checks inquiry (moves ++ [move]) := by
  have hsub : moves ⊆ moves ++ [move] := List.subset_append_left ..
  have hmem : move ∈ moves ++ [move] :=
    List.mem_append_right _ (List.mem_singleton_self move)
  cases progress with
  | idle => exact h.elim
  | running pending =>
    have hmore : pending.Owes checks inquiry (moves ++ [move]) :=
      Pending.Owes.mono h hsub
    cases move with
    | enter other => exact hmore
    | resources network => exact hmore.answerResources hmem
    | rulesets network => exact hmore.answerRulesets hmem
    | combine => exact hmore.combine
  | finished authorization =>
    obtain ⟨resources, rulesets, hresources, hrulesets, heq⟩ := h
    have hends : (finished authorization).Owes checks inquiry
        (moves ++ [move]) :=
      ⟨resources, rulesets, hsub hresources, hsub hrulesets, heq⟩
    cases move <;> exact hends

/-- **So do all steps.** -/
theorem Owes.foldl (h : progress.Owes checks inquiry moves)
    (inForce : Checks) (later : List Move) :
    (later.foldl (Progress.move inForce) progress).Owes checks inquiry
      (moves ++ later) := by
  induction later generalizing progress moves with
  | nil => simpa using h
  | cons move rest ih =>
    -- the steps that were taken grow by the one in front
    rw [List.foldl_cons, List.append_cons]
    exact ih (h.move inForce move)

end Progress

end Owes

/-! ## Traffic

Each event touches one authorization at most. So the progress of one is a fold
over its own steps, by induction on the history, from the moment on when it has
begun. At that moment, and at no other, it looks at the checks in force. -/

namespace Traffic

variable {traffic : Traffic} {id : Nat}

theorem run_append (traffic : Traffic) (earlier later : List Event) :
    traffic.run (earlier ++ later) = (traffic.run earlier).run later :=
  List.foldl_append

theorem run_cons (traffic : Traffic) (event : Event) (rest : List Event) :
    traffic.run (event :: rest) = (traffic.step event).run rest :=
  rfl

/-- **An authorization goes its own steps**, and nothing else moves it. -/
theorem progress_step (traffic : Traffic) (id : Nat) (event : Event) :
    (traffic.step event).progress id
      = match event.moveOf? id with
        | none => traffic.progress id
        | some move =>
          (traffic.progress id).move traffic.gate.checks move := by
  cases event with
  | reload settings => rfl
  | move other move =>
    unfold step Event.moveOf?
    -- the event touches the authorization that it names
    by_cases h : other = id
    · subst h
      simp
    · have hne : ¬ id = other := fun heq => h heq.symm
      simp [h, hne]

/-- **Once it has begun**, the checks in force do not matter to an
authorization: its progress is what its own steps make of it. -/
theorem progress_run (h : traffic.progress id ≠ .idle) (checks : Checks)
    (history : List Event) :
    (traffic.run history).progress id
      = (movesOf id history).foldl (Progress.move checks)
          (traffic.progress id) := by
  -- what carries the induction is that a step never makes it idle again
  induction history generalizing traffic with
  | nil => rfl
  | cons event rest ih =>
    have hstep := traffic.progress_step id event
    rw [run_cons, movesOf, List.filterMap_cons]
    cases hmove : event.moveOf? id with
    | none =>
      rw [hmove] at hstep
      rw [ih (hstep ▸ h), hstep]
      rfl
    | some move =>
      rw [hmove] at hstep
      dsimp only at hstep
      rw [Progress.move_eq h _ checks] at hstep
      rw [ih (hstep ▸ Progress.move_ne_idle h checks move), hstep]
      rfl

/-- Before it begins, an authorization is idle. -/
theorem progress_of_not_begun (h : traffic.progress id = .idle)
    {history : List Event}
    (hnone : ∀ event ∈ history, event.begins id = false) :
    (traffic.run history).progress id = .idle := by
  induction history generalizing traffic with
  | nil => exact h
  | cons event rest ih =>
    rw [run_cons]
    refine ih ?_ fun later hlater => hnone later (List.mem_cons_of_mem _ hlater)
    rw [progress_step]
    have hfirst := hnone event List.mem_cons_self
    cases event with
    | reload settings => exact h
    | move other move =>
      unfold Event.moveOf?
      by_cases heq : other = id
      · subst heq
        simp only [if_true, h]
        exact Progress.move_idle hfirst
      · simp only [if_neg heq]
        exact h

/-- An authorization that has begun was begun by an event, and by a first
one. -/
theorem exists_first (hstart : traffic.progress id = .idle)
    {history : List Event} (h : (traffic.run history).progress id ≠ .idle) :
    ∃ earlier inquiry later,
      history = earlier ++ .move id (.enter inquiry) :: later ∧
        ∀ event ∈ earlier, event.begins id = false := by
  cases hfind : history.find? (Event.begins id) with
  | none =>
    refine absurd (progress_of_not_begun hstart fun event hevent => ?_) h
    simpa using List.find?_eq_none.1 hfind event hevent
  | some event =>
    obtain ⟨hbegins, earlier, later, hhistory, hearlier⟩ :=
      List.find?_eq_some_iff_append.1 hfind
    obtain ⟨inquiry, rfl⟩ := Event.eq_of_begins hbegins
    exact ⟨earlier, inquiry, later, hhistory, by simpa using hearlier⟩

/-- **What has become of an authorization** that was begun by an event: its own
steps have moved it, from the checks that were in force there. -/
theorem progress_of_first (hstart : traffic.progress id = .idle)
    {earlier : List Event}
    (hfirst : ∀ event ∈ earlier, event.begins id = false)
    (inquiry : Inquiry) (later : List Event) :
    (traffic.run (earlier ++ .move id (.enter inquiry) :: later)).progress id
      = (movesOf id later).foldl
          (Progress.move (traffic.run earlier).gate.checks)
          (.running { checks := (traffic.run earlier).gate.checks
                      inquiry }) := by
  have hidle := progress_of_not_begun hstart hfirst
  have hbegun : ((traffic.run earlier).step
      (.move id (.enter inquiry))).progress id
        = .running { checks := (traffic.run earlier).gate.checks
                     inquiry } := by
    rw [progress_step]
    simp only [Event.moveOf?, if_true, hidle]
    rfl
  rw [run_append, run_cons, progress_run (by rw [hbegun]; nofun), hbegun]

/-! ## Exchanges

An exchange is accepted or refused as a whole, by the settings it brings. So at
every place of a history there is one settings value in force, and it is found
by going back to the last exchange that was accepted. -/

/-- Where nobody has begun. -/
def fresh (gate : Gate) : Traffic :=
  { gate }

/-- **The settings in force after a history**: those that an exchange accepted
last, or the ones from the beginning. It is said of the history alone; that the
gate is the one for them is `ofSettings_accepted`. -/
def settingsAfter (initial : Settings) (gate : Gate) (history : List Event) :
    Settings :=
  ((fresh gate).accepted history).getLastD initial

/-- **How far an authorization comes alone**, at a gate with these settings:
nobody else is there, and nothing is exchanged. -/
def alone (settings : Settings) (id : Nat) (inquiry : Inquiry)
    (moves : List Move) : Progress :=
  ((fresh ⟨.ofSettings settings⟩).run
    (.move id (.enter inquiry) :: moves.map (.move id))).progress id

/-- An exchange that is refused leaves everything as it is. -/
theorem step_of_refused {settings : Settings} {failure : Failure}
    (h : (traffic.gate.reload settings).2 = .error failure) :
    traffic.step (.reload settings) = traffic := by
  have hgate : (traffic.gate.reload settings).1 = traffic.gate := by
    unfold Gate.reload at h ⊢
    cases hvalid : Gate.ofSettings settings with
    | error cause => rfl
    | ok renewed =>
      rw [hvalid] at h
      cases h
  show { traffic with gate := (traffic.gate.reload settings).1 } = traffic
  rw [hgate]

/-- An exchange that is accepted puts the gate of its settings in force. -/
theorem ofSettings_of_accepted {settings : Settings}
    (h : (traffic.gate.reload settings).2 = .ok ()) :
    Gate.ofSettings settings = .ok (traffic.step (.reload settings)).gate := by
  show Gate.ofSettings settings = .ok (traffic.gate.reload settings).1
  unfold Gate.reload at h ⊢
  cases hvalid : Gate.ofSettings settings with
  | error cause =>
    rw [hvalid] at h
    cases h
  | ok renewed => rfl

/-- **The gate in force** is that of the settings that were accepted last. -/
theorem ofSettings_accepted {settings : Settings}
    (h : Gate.ofSettings settings = .ok traffic.gate)
    (history : List Event) :
    Gate.ofSettings ((traffic.accepted history).getLastD settings)
      = .ok (traffic.run history).gate := by
  induction history generalizing traffic settings with
  | nil => exact h
  | cons event rest ih =>
    rw [run_cons]
    cases event with
    | move id move => exact ih h
    | reload renewed =>
      unfold accepted
      dsimp only
      cases hresult : (traffic.gate.reload renewed).2 with
      | ok done =>
        dsimp only
        rw [List.getLastD_cons]
        exact ih (ofSettings_of_accepted hresult)
      | error failure =>
        -- nothing has changed, and the settings before it stay the last that
        -- were accepted
        rw [step_of_refused hresult]
        exact ih h

theorem movesOf_map (id : Nat) (moves : List Move) :
    movesOf id (moves.map (.move id)) = moves := by
  simp [movesOf, List.filterMap_map, Function.comp_def, Event.moveOf?]

/-- Alone, an authorization goes its steps with the checks of the
settings. -/
theorem alone_eq (settings : Settings) (id : Nat) (inquiry : Inquiry)
    (moves : List Move) :
    alone settings id inquiry moves
      = moves.foldl (Progress.move (.ofSettings settings))
          (.running { checks := .ofSettings settings, inquiry }) := by
  unfold alone
  -- nothing stands in front of the event that begins it
  rw [← List.nil_append (Event.move id _ :: _),
    progress_of_first rfl (by simp), movesOf_map]
  rfl

/-- Alone, an authorization ends once both checks have come to their ends, in
either order. The checks are made at the same time, and either may answer first.
-/
theorem alone_of_complete (settings : Settings) (id : Nat) (inquiry : Inquiry)
    {resources rulesets : Http.Network} {moves : List Move}
    (h : moves = [.resources resources, .rulesets rulesets, .combine] ∨
      moves = [.rulesets rulesets, .resources resources, .combine]) :
    alone settings id inquiry moves
      = .finished ((Checks.ofSettings settings).authorizeAmid resources
          rulesets inquiry) := by
  rw [alone_eq]
  rcases h with rfl | rfl <;> rfl

/-- Alone, an authorization comes to no other end. -/
theorem exists_of_alone {settings : Settings} {inquiry : Inquiry}
    {moves : List Move} {authorization : Authorization}
    (h : alone settings id inquiry moves = .finished authorization) :
    ∃ resources rulesets, .resources resources ∈ moves ∧
      .rulesets rulesets ∈ moves ∧
      authorization = (Checks.ofSettings settings).authorizeAmid resources
        rulesets inquiry := by
  have hbegun : (Progress.running
      { checks := .ofSettings settings, inquiry }).Owes (.ofSettings settings)
      inquiry [] := ⟨rfl, rfl, nofun, nofun⟩
  have hends := hbegun.foldl (.ofSettings settings) moves
  rw [← alone_eq settings id, h] at hends
  exact hends

/-- **Authorizations are isolated** from each other and from the exchanges of a
history. Every one is begun at a place of its own, and what counts is the
settings in force at that place. The parts say what is in force, how far an
authorization comes and how it ends, and that refused exchanges do not count. -/
structure Isolated (settings : Settings) (gate : Gate)
    (history : List Event) : Prop where
  /-- The gate is that of the settings that were accepted last. -/
  current : Gate.ofSettings (settingsAfter settings gate history)
    = .ok ((fresh gate).run history).gate
  /-- An authorization has come as far as it would have come alone. -/
  apart : ∀ id earlier inquiry later,
    history = earlier ++ .move id (.enter inquiry) :: later →
    (∀ event ∈ earlier, event.begins id = false) →
    ((fresh gate).run history).progress id
      = alone (settingsAfter settings gate earlier) id inquiry
          (movesOf id later)
  /-- It ends once both checks have come to theirs, in either order. -/
  ends : ∀ id earlier inquiry later resources rulesets,
    history = earlier ++ .move id (.enter inquiry) :: later →
    (∀ event ∈ earlier, event.begins id = false) →
    movesOf id later = [.resources resources, .rulesets rulesets, .combine] ∨
      movesOf id later = [.rulesets rulesets, .resources resources, .combine] →
    ((fresh gate).run history).progress id
      = .finished ((Checks.ofSettings (settingsAfter settings gate
          earlier)).authorizeAmid resources rulesets inquiry)
  /-- Where the partners answer both checks alike, the end is what the gate for
  the settings says. -/
  authorizes : ∀ id earlier inquiry later network,
    history = earlier ++ .move id (.enter inquiry) :: later →
    (∀ event ∈ earlier, event.begins id = false) →
    movesOf id later = [.resources network, .rulesets network, .combine] ∨
      movesOf id later = [.rulesets network, .resources network, .combine] →
    ((fresh gate).run history).progress id
      = .finished ((⟨.ofSettings (settingsAfter settings gate
          earlier)⟩ : Gate).authorize network inquiry.request
            inquiry.principal inquiry.body)
  /-- Every end is an end of this kind. -/
  owed : ∀ id authorization,
    ((fresh gate).run history).progress id = .finished authorization →
    ∃ earlier inquiry later resources rulesets,
      history = earlier ++ .move id (.enter inquiry) :: later ∧
        (∀ event ∈ earlier, event.begins id = false) ∧
        .resources resources ∈ movesOf id later ∧
        .rulesets rulesets ∈ movesOf id later ∧
        authorization = (Checks.ofSettings (settingsAfter settings gate
          earlier)).authorizeAmid resources rulesets inquiry
  /-- Without an exchange that is refused everything would be the same. -/
  refused : ∀ earlier renewed later failure,
    history = earlier ++ .reload renewed :: later →
    (((fresh gate).run earlier).gate.reload renewed).2 = .error failure →
    (fresh gate).run history = (fresh gate).run (earlier ++ later)

section Isolated

variable {settings : Settings} {gate : Gate}
  (h : Gate.ofSettings settings = .ok gate)
include h

/-- The checks in force are those of the settings in force. -/
theorem checks_run (history : List Event) :
    ((fresh gate).run history).gate.checks
      = .ofSettings (settingsAfter settings gate history) :=
  congrArg Gate.checks
    (Gate.ofSettings_eq_ok (ofSettings_accepted h history))

/-- **Traffic is like solitude**: behind the event that begins it, an
authorization comes as far as alone at a gate for the settings in force.
Whatever stands in front of that event has only settled which settings these
are. -/
theorem progress_eq_alone {earlier : List Event}
    (hfirst : ∀ event ∈ earlier, event.begins id = false)
    (inquiry : Inquiry) (later : List Event) :
    ((fresh gate).run (earlier ++ .move id (.enter inquiry) :: later)).progress
        id
      = alone (settingsAfter settings gate earlier) id inquiry
          (movesOf id later) := by
  rw [alone_eq, progress_of_first rfl hfirst, checks_run h]

end Isolated

/-- **Exchanges do not reach what is under way**: at a gate for valid settings,
every history keeps authorizations isolated. -/
theorem run_isolated {settings : Settings} {gate : Gate}
    (h : Gate.ofSettings settings = .ok gate) (history : List Event) :
    Isolated settings gate history where
  current := ofSettings_accepted h history
  apart := by
    rintro id earlier inquiry later rfl hfirst
    exact progress_eq_alone h hfirst inquiry later
  ends := by
    rintro id earlier inquiry later resources rulesets rfl hfirst hmoves
    rw [progress_eq_alone h hfirst]
    exact alone_of_complete _ id inquiry hmoves
  authorizes := by
    rintro id earlier inquiry later network rfl hfirst hmoves
    rw [progress_eq_alone h hfirst, alone_of_complete _ id inquiry hmoves,
      Checks.authorizeAmid_self]
    rfl
  owed := by
    intro id authorization hend
    obtain ⟨earlier, inquiry, later, rfl, hfirst⟩ :=
      -- an end needs a beginning
      exists_first rfl (by rw [hend]; nofun)
    rw [progress_eq_alone h hfirst] at hend
    obtain ⟨resources, rulesets, hresources, hrulesets, heq⟩ :=
      exists_of_alone hend
    exact ⟨earlier, inquiry, later, resources, rulesets, rfl, hfirst,
      hresources, hrulesets, heq⟩
  refused := by
    rintro earlier renewed later failure rfl hrefused
    rw [run_append, run_cons, step_of_refused hrefused, ← run_append]

/-! ### An exchange between two answers

The first authorization begins under settings that let it pass. Before it ends
one exchange is accepted, after which the same question is denied, and another
one is refused. -/

/-- Settings under which nothing passes. -/
def closedSettings : Settings :=
  { resources := .against "http://policy/check" }

/-- Somebody asks for an order. -/
def ordersInquiry : Inquiry :=
  { request := ordersRequest }

/-- Everybody allows. -/
def willing : Http.Network :=
  fun _ => .answered allowing

/-- Two authorizations cross two exchanges, one of which is refused. -/
def crossing : List Event :=
  [.move 0 (.enter ordersInquiry), .move 0 (.resources willing),
    .reload closedSettings, .move 1 (.enter ordersInquiry),
    .move 1 (.rulesets willing), .reload {}, .move 0 (.rulesets willing),
    .move 1 (.resources willing), .move 0 .combine, .move 1 .combine]

/-- What the gate for these settings says of the order. -/
def ordersUnder (settings : Settings) : Authorization :=
  (⟨.ofSettings settings⟩ : Gate).authorize willing ordersRequest {} .null

/-- The first one is allowed and the second one is denied, each as the settings
say under which it began. -/
theorem run_crossing :
    let traffic := (fresh ⟨.ofSettings ordersSettings⟩).run crossing
    Gate.ofSettings closedSettings = .ok traffic.gate ∧
      traffic.progress 0 = .finished (ordersUnder ordersSettings) ∧
      traffic.progress 1 = .finished (ordersUnder closedSettings) ∧
      Allows (ordersUnder ordersSettings).result ∧
      ¬ Allows (ordersUnder closedSettings).result := by
  have hvalid : Gate.ofSettings ordersSettings
      = .ok ⟨.ofSettings ordersSettings⟩ := rfl
  have hisolated := run_isolated hvalid crossing
  have hallowed : (ordersUnder ordersSettings).result
      = .ok (.allow RulesetCheck.inactive) :=
    eq_ok_of_toOption (by decide +kernel)
  have hdenied : (ordersUnder closedSettings).result
      = .ok (.deny ResourceCheck.unmatchedDenied) :=
    eq_ok_of_toOption (by decide +kernel)
  refine ⟨hisolated.current,
    hisolated.authorizes 0 [] ordersInquiry _ willing rfl (by simp) (.inl rfl),
    hisolated.authorizes 1 (crossing.take 3) ordersInquiry _ willing rfl
      (by decide) (.inr rfl), ?_, ?_⟩
  · rw [hallowed]
    simp
  · rw [hdenied]
    simp

end Traffic

end PolicyGateway.Policy
