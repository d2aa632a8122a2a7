import PolicyGateway.Policy.Gate
import PolicyGateway.Proofs.FirstFailures
import PolicyGateway.Proofs.RuleSelection

/-!
# What it takes to pass the gate

Whoever passes the gate has evidence for it, from each check on its own.
`ResourceEvidence` and `RulesetEvidence` list what counts: a section that
takes no part, a request that no rule is about, or an answer of the policy
server to the question about the one best rule. Nothing else does, and
whatever counts is enough (`Gate.authorize_allows_iff`).

The HTTP client enters only through what it finally gives: a response, or
none. Everything between a response and a verdict is in `Answers`, which
says when a response carries a document at all.

**Why evidence.** The gate is made of lookups, questions and answers, and at
each of them something may go wrong. To read off the program that a request
passes, one follows it through all of that. A list of what counts as evidence
says it from the other side. Whoever thinks that a request should not have
passed can ask which entry of the list it passed on, and finds there the rule,
the question and the answer.
-/

namespace PolicyGateway

/-- A body is read up to a limit as all of its bytes, or not at all. -/
theorem Http.Body.readPieces_nil (limit : Nat) (body : Http.Body) :
    readPieces limit [] body.pieces
      = if limit < body.bytes.length then none else some body.bytes := by
  rw [readPieces_eq limit body.pieces [] (Nat.zero_le _)]
  rfl

namespace Policy

open PolicyGateway.Json (Value)

/-- **A result that allows**: a verdict, and one that allows. A failure is no
verdict and allows nothing. It is the one place where a missing case could open
the gate, so everything below is stated with it. -/
def Allows (result : Except Failure Verdict) : Prop :=
  ∃ verdict, result = .ok verdict ∧ verdict.allowed = true

@[simp] theorem allows_ok {verdict : Verdict} :
    Allows (.ok verdict) ↔ verdict.allowed = true :=
  ⟨fun ⟨_, h, hv⟩ => by cases h; exact hv, fun h => ⟨verdict, rfl, h⟩⟩

@[simp] theorem not_allows_error {failure : Failure} :
    ¬ Allows (.error failure) :=
  fun ⟨_, h, _⟩ => nomatch h

@[simp] theorem Verdict.allowed_allow (reason : String) :
    (allow reason).allowed = true :=
  rfl

@[simp] theorem Verdict.allowed_deny (reason : String) :
    (deny reason).allowed = false :=
  rfl

@[simp] theorem Outcome.result_silent {α : Type}
    (result : Except Failure α) : (silent result).result = result :=
  rfl

@[simp] theorem ValidationAnswer.allowed_verdict (answer : ValidationAnswer) :
    answer.verdict.allowed = answer.allow :=
  rfl

/-! ## Answers that count

A response has to be one of success, short enough and complete before it is
looked into, and the question has to be sent with credentials that are
understood. Each condition is one that the program tests at its own place;
together they are what `ask` comes to. -/

/-- **A response that carries a document**: its status says success, neither the
length it declares nor the bytes that arrive go beyond the limit, and all of it
arrived. What the bytes mean is not said here. -/
structure Carries (response : Http.Response) (bs : List UInt8) : Prop where
  /-- The status is one of success. -/
  success : 200 ≤ response.status ∧ response.status ≤ 299
  /-- The declared length is within the limit. -/
  declared : ∀ n, response.declaredLength = some n →
    n ≤ Server.greatestAnswer
  /-- The body came to its end. -/
  whole : response.body.whole = true
  /-- These are its bytes. -/
  bytes : response.body.bytes = bs
  /-- They are within the limit. -/
  short : bs.length ≤ Server.greatestAnswer

/-- **Credentials that name a supported way to authenticate**: none, or by id
and secret. With any other name nothing is ever sent, so a section with such
credentials allows nothing. -/
def Credentials.IsSupported (credentials : Credentials) : Prop :=
  credentials.clientAuthMethod = "" ∨
    credentials.clientAuthMethod = "client_secret_basic"

/-- The way to authenticate that supported credentials name. -/
def Credentials.auth (credentials : Credentials) : ClientAuth :=
  if credentials.clientAuthMethod = "" then .anonymous else .basic

namespace Server

/-- **What the HTTP client makes of a question.** It is the client that decides
which response is the final one, with what the network answers on the way there.
-/
def exchange (server : Server) (network : Http.Network) (question : Value) :
    Http.Exchange :=
  Http.Client.send network "POST" server.url
    (server.headers server.credentials.auth)
    (Text.Utf8.bytes question.toText)

/-- **The server answers a question with a document.** No word of this is about
the verdict, so it serves both dialects. -/
structure Answers (server : Server) (network : Http.Network)
    (question : Value) (bs : List UInt8) : Prop where
  /-- The question can be sent. -/
  supported : server.credentials.IsSupported
  /-- The final response carries the document. -/
  response : ∃ response,
    (server.exchange network question).response = some response ∧
      Carries response bs

/-- A body is read exactly if it is whole and within the limit. -/
theorem readBody_eq_ok_iff {body : Http.Body} {bs : List UInt8} :
    readBody body = .ok bs ↔
      body.whole = true ∧ body.bytes = bs ∧ bs.length ≤ greatestAnswer := by
  unfold readBody
  rw [Http.Body.readPieces_nil]
  by_cases hlong : greatestAnswer < body.bytes.length
  · rw [if_pos hlong]
    constructor
    · intro h
      cases h
    · rintro ⟨-, rfl, hshort⟩
      exact absurd hlong (Nat.not_lt.2 hshort)
  · rw [if_neg hlong]
    cases hw : body.whole with
    | false => simp
    | true =>
      simp only [if_true, Except.ok.injEq, true_and]
      refine ⟨?_, fun h => h.1⟩
      rintro rfl
      exact ⟨rfl, Nat.not_lt.1 hlong⟩

/-- **An answer is read exactly from a response that carries a document**
which spells it. -/
theorem readAnswer_eq_ok_iff {α : Type} {endpoint : Endpoint}
    {read : List UInt8 → Option α} {response : Http.Response} {answer : α} :
    readAnswer endpoint read response = .ok answer ↔
      ∃ bs, Carries response bs ∧ read bs = some answer := by
  unfold readAnswer
  constructor
  · intro h
    -- what comes to an answer has passed each of the tests
    split at h
    · cases h
    · next hs =>
      split at h
      · cases h
      · next hd =>
        split at h
        · cases h
        · next bs hb =>
          split at h
          · next found hr =>
            cases h
            obtain ⟨hwhole, hbytes, hshort⟩ := readBody_eq_ok_iff.1 hb
            refine ⟨bs, ⟨?_, ?_, hwhole, hbytes, hshort⟩, hr⟩
            · simp only [Http.Response.isSuccess, Bool.not_eq_true,
                Bool.not_eq_false', Bool.and_eq_true,
                decide_eq_true_eq] at hs
              omega
            · intro n hn
              rw [hn] at hd
              simpa using hd
          · cases h
  · rintro ⟨bs, hc, hr⟩
    have hs : response.isSuccess = true := by
      obtain ⟨hlow, hhigh⟩ := hc.success
      simp only [Http.Response.isSuccess, Bool.and_eq_true,
        decide_eq_true_eq]
      omega
    have hd : response.declaredLength.any (greatestAnswer < ·) = false := by
      cases hn : response.declaredLength with
      | none => rfl
      | some n => simpa using hc.declared n hn
    have hb : readBody response.body = .ok bs :=
      readBody_eq_ok_iff.2 ⟨hc.whole, hc.bytes, hc.short⟩
    simp [hs, hd, hb, hr]

end Server

/-- The name of a way to authenticate is understood exactly if it is
supported. -/
theorem Credentials.ofName_eq_ok_iff {credentials : Credentials}
    {auth : ClientAuth} :
    ClientAuth.ofName credentials.clientAuthMethod = .ok auth ↔
      credentials.IsSupported ∧ auth = credentials.auth := by
  unfold ClientAuth.ofName Credentials.IsSupported Credentials.auth
  split
  · next h =>
    constructor
    · intro he
      cases he
      exact ⟨.inl h, rfl⟩
    · rintro ⟨-, rfl⟩
      rfl
  · next h =>
    split
    · next hb =>
      constructor
      · intro he
        cases he
        exact ⟨.inr hb, rfl⟩
      · rintro ⟨-, rfl⟩
        rfl
    · next hb =>
      constructor
      · intro he
        cases he
      · rintro ⟨hs, -⟩
        exact absurd hs (not_or.2 ⟨h, hb⟩)

namespace Server

variable {server : Server} {network : Http.Network} {question : Value}

/-- **A question is answered exactly if the server answers it with a document**
that spells the answer. From left to right it says that nothing is made up: an
answer comes from a document that a server sent. -/
theorem ask_eq_ok_iff {α : Type} {endpoint : Endpoint}
    {read : List UInt8 → Option α} {answer : α} :
    (server.ask network endpoint question read).result = .ok answer ↔
      ∃ bs, server.Answers network question bs ∧ read bs = some answer := by
  unfold ask
  cases hauth : ClientAuth.ofName server.credentials.clientAuthMethod with
  | error failure =>
    constructor
    · intro h
      cases h
    · rintro ⟨bs, hans, -⟩
      -- a question that is answered was sent, so its credentials are supported
      have hok := Credentials.ofName_eq_ok_iff.2 ⟨hans.supported, rfl⟩
      rw [hauth] at hok
      cases hok
  | ok auth =>
    obtain ⟨hsup, rfl⟩ := Credentials.ofName_eq_ok_iff.1 hauth
    cases hresp : (server.exchange network question).response with
    | none =>
      unfold exchange at hresp
      simp only [hresp]
      constructor
      · intro h
        cases h
      · rintro ⟨bs, ⟨-, response, hr, -⟩, -⟩
        unfold exchange at hr
        rw [hresp] at hr
        cases hr
    | some response =>
      unfold exchange at hresp
      simp only [hresp]
      rw [readAnswer_eq_ok_iff]
      constructor
      · rintro ⟨bs, hc, hr⟩
        exact ⟨bs, ⟨hsup, response, hresp, hc⟩, hr⟩
      · rintro ⟨bs, ⟨-, other, ho, hc⟩, hr⟩
        unfold exchange at ho
        rw [hresp] at ho
        cases ho
        exact ⟨bs, hc, hr⟩

/-- **A question is allowed exactly if the server answers it with a
document** whose verdict allows. -/
theorem ask_allows_iff {α : Type} {endpoint : Endpoint}
    {read : List UInt8 → Option α} {verdictOf : α → Verdict} :
    Allows ((server.ask network endpoint question read).result.map verdictOf)
      ↔ ∃ bs answer, server.Answers network question bs ∧
          read bs = some answer ∧ (verdictOf answer).allowed = true := by
  cases hask : (server.ask network endpoint question read).result with
  | error failure =>
    constructor
    · rintro ⟨verdict, hv, -⟩
      cases hv
    · rintro ⟨bs, answer, hans, hr, -⟩
      have hok : (server.ask network endpoint question read).result
          = .ok answer := ask_eq_ok_iff.2 ⟨bs, hans, hr⟩
      rw [hask] at hok
      cases hok
  | ok answer =>
    constructor
    · rintro ⟨verdict, hv, hallowed⟩
      cases hv
      obtain ⟨bs, hans, hr⟩ := ask_eq_ok_iff.1 hask
      exact ⟨bs, answer, hans, hr, hallowed⟩
    · rintro ⟨bs, other, hans, hr, hallow⟩
      have hok : (server.ask network endpoint question read).result
          = .ok other := ask_eq_ok_iff.2 ⟨bs, hans, hr⟩
      rw [hask] at hok
      cases hok
      exact ⟨verdictOf answer, rfl, hallow⟩

end Server

/-! ## The verdict of an answer

In the decision dialect an answer may speak in three ways, and they may
contradict each other. A permit is heeded first and a denial second; the flag is
what is left. -/

/-- **An answer of the decision dialect that allows**: it permits, or it
neither permits nor denies and its flag says so. -/
def DecisionAnswer.Permits (answer : DecisionAnswer) : Prop :=
  answer.permit ≠ "" ∨
    answer.permit = "" ∧ answer.deny = "" ∧ answer.allow = true

theorem DecisionAnswer.verdict_allowed_iff {answer : DecisionAnswer} :
    answer.verdict.allowed = true ↔ answer.Permits := by
  unfold DecisionAnswer.verdict DecisionAnswer.Permits
  by_cases hp : answer.permit = ""
  · by_cases hd : answer.deny = ""
    · simp [hp, hd]
    · have hdeny : answer.deny.isEmpty = false := by simpa using hd
      simp [hp, hd, hdeny, Verdict.deny]
  · have hpermit : answer.permit.isEmpty = false := by simpa using hp
    simp [hp, hpermit, Verdict.allow]

/-! ## The resource check

The check goes by path alone. Evidence follows the cases of the lookup: no
section, no rule, or one best rule. There is no entry for two best rules, and
none for a failure on the way, because these never let a request pass. -/

namespace ResourceSettings

/-- The policy server of the section. -/
def server (settings : ResourceSettings) : Server :=
  { url := settings.validationUrl
    credentials := settings.credentials
    timeout := settings.timeout }

/-- The rules of the section. -/
def table (settings : ResourceSettings) : Route.Table String :=
  .ofList settings.resourceMap.entries

end ResourceSettings

/-- **Evidence for the resource check**: what lets a request pass it. Being
anonymous is a matter of the settings here, and not of who asks. -/
inductive ResourceEvidence (settings : ResourceSettings)
    (network : Http.Network) (request : AccessRequest)
    (principal : Principal) : Prop where
  /-- The section takes no part. -/
  | inactive (off : settings.isActive = false)
  /-- No pattern fits the path, and then anybody may pass. -/
  | unmatched (on : settings.isActive = true)
      (free : ∀ rule ∈ settings.table.entries,
        Route.pathScore? rule.1.path request.path = none)
      (anonymous : settings.anonymousAccess = true)
  /-- There is one best rule, and asked about its resource the server
  allows. -/
  | answered {rule : Route.Pattern × String} {bs : List UInt8}
      {answer : ValidationAnswer} (on : settings.isActive = true)
      (best : settings.table.IsBest none request.path rule)
      (answers : settings.server.Answers network
        (ResourceCheck.question principal request rule.2
          settings.anonymousAccess) bs)
      (spelled : ValidationAnswer.ofBytes? bs = some answer)
      (allows : answer.allow = true)

/-- A rule looked up without a method is looked up by its path alone. -/
theorem unmatched_none_iff {α : Type} {table : Route.Table α}
    {path : String} :
    table.Unmatched none path ↔
      ∀ rule ∈ table.entries, Route.pathScore? rule.1.path path = none := by
  refine forall₂_congr fun rule _ => ?_
  cases hm : rule.1.method <;>
    simp [Route.Pattern.score?, Route.Pattern.admits]

namespace ResourceCheck

variable {settings : ResourceSettings} {network : Http.Network}
  {request : AccessRequest} {principal : Principal}

theorem run_of_inactive (hact : settings.isActive = false) :
    (ofSettings settings).run network request principal
      = .silent (.ok (.allow inactive)) := by
  unfold ofSettings run
  rw [if_neg (by rw [hact]; simp)]

/-- A check that takes part has the server and the table of its settings. -/
theorem rules_of_active (hact : settings.isActive = true) :
    (ofSettings settings).rules
      = some ⟨settings.server, settings.table, settings.anonymousAccess⟩ := by
  unfold ofSettings
  rw [if_pos hact]
  rfl

theorem run_of_ambiguous (hact : settings.isActive = true)
    {ambiguity : Route.Ambiguity}
    (hbest : settings.table.best? none request.path = .error ambiguity) :
    (ofSettings settings).run network request principal
      = .silent (.error (.ambiguous ambiguity)) := by
  unfold run
  simp only [rules_of_active hact, hbest]

theorem run_of_unmatched (hact : settings.isActive = true)
    (hbest : settings.table.best? none request.path = .ok none) :
    (ofSettings settings).run network request principal
      = .silent (.ok
          (if settings.anonymousAccess then .allow unmatchedAllowed
          else .deny unmatchedDenied)) := by
  unfold run
  simp only [rules_of_active hact, hbest]

theorem run_of_best (hact : settings.isActive = true)
    {rule : Route.Pattern × String}
    (hbest : settings.table.best? none request.path = .ok (some rule)) :
    (ofSettings settings).run network request principal
      = settings.server.askValidation network
          (question principal request rule.2 settings.anonymousAccess) := by
  unfold run
  simp only [rules_of_active hact, hbest]

/-- The evidence where the section takes part, by what its table answers. -/
theorem evidence_of_active (hact : settings.isActive = true) :
    ResourceEvidence settings network request principal ↔
      (settings.table.best? none request.path = .ok none ∧
        settings.anonymousAccess = true) ∨
      ∃ rule, settings.table.best? none request.path = .ok (some rule) ∧
        ∃ bs answer,
          settings.server.Answers network (question principal request rule.2
            settings.anonymousAccess) bs ∧
          ValidationAnswer.ofBytes? bs = some answer ∧
          answer.allow = true := by
  constructor
  · intro he
    cases he with
    | inactive off => rw [hact] at off; cases off
    | unmatched on free anonymous =>
      exact .inl ⟨Route.Table.best?_eq_none_iff.2
        (unmatched_none_iff.2 free), anonymous⟩
    | answered on best answers spelled allows =>
      exact .inr ⟨_, Route.Table.best?_eq_some_iff.2 best, _, _, answers,
        spelled, allows⟩
  · rintro (⟨hbest, anonymous⟩ |
      ⟨rule, hbest, bs, answer, answers, spelled, allows⟩)
    · exact .unmatched hact (unmatched_none_iff.1
        (Route.Table.best?_eq_none_iff.1 hbest)) anonymous
    · exact .answered hact (Route.Table.best?_eq_some_iff.1 hbest) answers
        spelled allows

/-- **The resource check allows exactly on its evidence.** -/
theorem run_allows_iff :
    Allows ((ofSettings settings).run network request principal).result ↔
      ResourceEvidence settings network request principal := by
  cases hact : settings.isActive with
  | false =>
    rw [run_of_inactive hact]
    exact iff_of_true (allows_ok.2 rfl) (.inactive hact)
  | true =>
    rw [evidence_of_active hact]
    -- by what the table answers, which is what the evidence goes by as well
    cases hbest : settings.table.best? none request.path with
    | error ambiguity =>
      rw [run_of_ambiguous hact hbest]
      simp
    | ok found =>
      cases found with
      | none =>
        rw [run_of_unmatched hact hbest]
        cases settings.anonymousAccess <;> simp
      | some rule =>
        rw [run_of_best hact hbest]
        refine Server.ask_allows_iff.trans ?_
        simp

end ResourceCheck

/-! ## The ruleset check

This check goes by method and path, and asks with a decision request in one
dialect and with the plain request in the other one. Where no rule is about a
request the check has nothing against it, whoever asks. -/

namespace RulesetSettings

/-- The policy server of the section. -/
def server (settings : RulesetSettings) : Server :=
  { url := settings.validationUrl
    credentials := settings.credentials
    timeout := settings.timeout }

/-- The rules of the section. -/
def table (settings : RulesetSettings) : Route.Table Ruleset :=
  .ofList settings.resourceMap.entries

end RulesetSettings

/-- **Evidence for the ruleset check**: what lets a request pass it. In the
decision dialect a field that is missing from the body is enough to have none,
since the decision request cannot be built. -/
inductive RulesetEvidence (settings : RulesetSettings)
    (network : Http.Network) (request : AccessRequest)
    (principal : Principal) (body : Value) : Prop where
  /-- The section takes no part. -/
  | inactive (off : settings.isActive = false)
  /-- No rule fits method and path. -/
  | unmatched (on : settings.isActive = true)
      (free : settings.table.Unmatched (some request.method) request.path)
  /-- There is one best rule, its decision request can be built, and asked
  in the decision dialect the server permits. -/
  | decided {rule : Route.Pattern × Ruleset} {decision : DecisionRequest}
      {bs : List UInt8} {answer : DecisionAnswer}
      (on : settings.isActive = true) (dialect : settings.dialect = .decision)
      (best : settings.table.IsBest (some request.method) request.path rule)
      (built : DecisionRequest.build request rule.2 body = .ok decision)
      (answers : settings.server.Answers network decision.toJson bs)
      (spelled : DecisionAnswer.ofBytes? bs = some answer)
      (permits : answer.Permits)
  /-- There is one best rule, and asked in the generic dialect the server
  allows. -/
  | validated {rule : Route.Pattern × Ruleset} {bs : List UInt8}
      {answer : ValidationAnswer} (on : settings.isActive = true)
      (dialect : settings.dialect = .generic)
      (best : settings.table.IsBest (some request.method) request.path rule)
      (answers : settings.server.Answers network
        (RulesetCheck.question principal request rule.2) bs)
      (spelled : ValidationAnswer.ofBytes? bs = some answer)
      (allows : answer.allow = true)

namespace RulesetCheck

/-- **A ruleset allows a request** in a dialect: its decision request can be
built and the server permits, or asked as it is the server allows. What the two
dialects have in common is that everything after the lookup is in here. -/
def IsAllowedBy (dialect : Dialect) (server : Server)
    (network : Http.Network) (request : AccessRequest)
    (principal : Principal) (body : Value) (ruleset : Ruleset) : Prop :=
  (dialect = .decision ∧ ∃ decision bs answer,
    DecisionRequest.build request ruleset body = .ok decision ∧
    server.Answers network decision.toJson bs ∧
    DecisionAnswer.ofBytes? bs = some answer ∧ answer.Permits) ∨
  (dialect = .generic ∧ ∃ bs answer,
    server.Answers network (question principal request ruleset) bs ∧
    ValidationAnswer.ofBytes? bs = some answer ∧ answer.allow = true)

section Run

variable {check : RulesetCheck} {network : Http.Network}
  {request : AccessRequest} {principal : Principal} {body : Value}

theorem run_of_failed {failure : Failure}
    (h : check.select request = .error failure) :
    check.run network request principal body = .silent (.error failure) := by
  unfold run runDecision runGeneric
  simp only [h]
  cases check.dialect <;> rfl

theorem run_of_skipped {reason : String}
    (h : check.select request = .ok (.skipped reason)) :
    check.run network request principal body
      = .silent (.ok (.allow reason)) := by
  unfold run runDecision runGeneric
  simp only [h]
  cases check.dialect <;> rfl

/-- In the decision dialect a ruleset allows exactly if it permits. -/
theorem runDecision_allows_iff {server : Server} {ruleset : Ruleset}
    (h : check.select request = .ok (.found server ruleset)) :
    Allows (check.runDecision network request body).result ↔
      ∃ decision bs answer,
        DecisionRequest.build request ruleset body = .ok decision ∧
        server.Answers network decision.toJson bs ∧
        DecisionAnswer.ofBytes? bs = some answer ∧ answer.Permits := by
  unfold runDecision
  simp only [h]
  cases hbuild : DecisionRequest.build request ruleset body with
  | error failure =>
    refine iff_of_false not_allows_error ?_
    rintro ⟨decision, bs, answer, built, -⟩
    cases built
  | ok decision =>
    refine Server.ask_allows_iff.trans ?_
    simp only [DecisionAnswer.verdict_allowed_iff]
    constructor
    · rintro ⟨bs, answer, answers, spelled, permits⟩
      exact ⟨decision, bs, answer, rfl, answers, spelled, permits⟩
    · rintro ⟨other, bs, answer, hother, answers, spelled, permits⟩
      cases hother
      exact ⟨bs, answer, answers, spelled, permits⟩

/-- **A ruleset that was found decides**, in the dialect of the check. -/
theorem allows_of_found {server : Server} {ruleset : Ruleset}
    (h : check.select request = .ok (.found server ruleset)) :
    Allows (check.run network request principal body).result ↔
      IsAllowedBy check.dialect server network request principal body
        ruleset := by
  unfold run IsAllowedBy
  cases check.dialect with
  | decision =>
    refine (runDecision_allows_iff h).trans ?_
    simp
  | generic =>
    show Allows (check.runGeneric network request principal).result ↔ _
    unfold runGeneric
    simp only [h]
    refine Server.ask_allows_iff.trans ?_
    simp

end Run

variable {settings : RulesetSettings} {network : Http.Network}
  {request : AccessRequest} {principal : Principal} {body : Value}

theorem dialect_ofSettings :
    (ofSettings settings).dialect = settings.dialect := by
  unfold ofSettings
  split <;> rfl

theorem select_of_inactive (hact : settings.isActive = false) :
    (ofSettings settings).select request = .ok (.skipped inactive) := by
  unfold ofSettings select
  rw [if_neg (by rw [hact]; simp)]

/-- A check that takes part has the server and the table of its settings. -/
theorem rules_of_active (hact : settings.isActive = true) :
    (ofSettings settings).rules
      = some ⟨settings.server, settings.table⟩ := by
  unfold ofSettings
  rw [if_pos hact]
  rfl

/-- The evidence where the section takes part, by what its table answers. -/
theorem evidence_of_active (hact : settings.isActive = true) :
    RulesetEvidence settings network request principal body ↔
      settings.table.best? (some request.method) request.path = .ok none ∨
      ∃ rule,
        settings.table.best? (some request.method) request.path
          = .ok (some rule) ∧
        IsAllowedBy settings.dialect settings.server network request principal
          body rule.2 := by
  constructor
  · intro he
    cases he with
    | inactive off => rw [hact] at off; cases off
    | unmatched on free => exact .inl (Route.Table.best?_eq_none_iff.2 free)
    | decided on dialect best built answers spelled permits =>
      exact .inr ⟨_, Route.Table.best?_eq_some_iff.2 best,
        .inl ⟨dialect, _, _, _, built, answers, spelled, permits⟩⟩
    | validated on dialect best answers spelled allows =>
      exact .inr ⟨_, Route.Table.best?_eq_some_iff.2 best,
        .inr ⟨dialect, _, _, answers, spelled, allows⟩⟩
  · rintro (hbest | ⟨rule, hbest,
      ⟨dialect, decision, bs, answer, built, answers, spelled, permits⟩ |
      ⟨dialect, bs, answer, answers, spelled, allows⟩⟩)
    · exact .unmatched hact (Route.Table.best?_eq_none_iff.1 hbest)
    · exact .decided hact dialect (Route.Table.best?_eq_some_iff.1 hbest)
        built answers spelled permits
    · exact .validated hact dialect (Route.Table.best?_eq_some_iff.1 hbest)
        answers spelled allows

/-- **The ruleset check allows exactly on its evidence.** -/
theorem run_allows_iff :
    Allows ((ofSettings settings).run network request principal body).result
      ↔ RulesetEvidence settings network request principal body := by
  cases hact : settings.isActive with
  | false =>
    rw [run_of_skipped (select_of_inactive hact)]
    exact iff_of_true (allows_ok.2 rfl) (.inactive hact)
  | true =>
    rw [evidence_of_active hact]
    have hrules := rules_of_active hact
    cases hbest : settings.table.best? (some request.method) request.path with
    | error ambiguity =>
      have hselect : (ofSettings settings).select request
          = .error (.ambiguous ambiguity) := by
        unfold select
        simp only [hrules, hbest]
      rw [run_of_failed hselect]
      simp
    | ok found =>
      cases found with
      | none =>
        have hselect : (ofSettings settings).select request
            = .ok (.skipped unmatched) := by
          unfold select
          simp only [hrules, hbest]
        rw [run_of_skipped hselect]
        exact iff_of_true (allows_ok.2 rfl) (.inl rfl)
      | some rule =>
        have hselect : (ofSettings settings).select request
            = .ok (.found settings.server rule.2) := by
          unfold select
          simp only [hrules, hbest]
        rw [allows_of_found hselect, dialect_ofSettings]
        simp

end RulesetCheck

/-! ## Both checks

The two checks are made apart, and neither knows of the other one. So their
results can be put together without a look at where they came from: both have to
allow, and the first failure is the failure. -/

namespace Checks

/-- No reason is empty once the usual one stands in for it. -/
theorem reasonOr_ne_empty {reason usual : String} (h : usual ≠ "") :
    reasonOr reason usual ≠ "" := by
  unfold reasonOr
  split
  · exact h
  · next hne => simpa using hne

variable {resources rulesets : Except Failure Verdict}

/-- **Two results allow together exactly if each allows.** -/
theorem allows_combine_iff :
    Allows (combine resources rulesets) ↔
      Allows resources ∧ Allows rulesets := by
  cases resources with
  | error failure => simp [combine]
  | ok resource =>
    cases rulesets with
    | error failure => simp [combine]
    | ok ruleset =>
      cases hr : resource.allowed <;> cases hs : ruleset.allowed <;>
        simp [combine, hr, hs, Verdict.allow, Verdict.deny]

/-- **A failure of either check is the failure of both**, that of the
resource check first. -/
theorem combine_eq_error_iff {failure : Failure} :
    combine resources rulesets = .error failure ↔
      resources = .error failure ∨
        (∃ verdict, resources = .ok verdict) ∧ rulesets = .error failure := by
  cases resources with
  | error cause => simp [combine]
  | ok resource =>
    cases rulesets with
    | error cause => simp [combine]
    | ok ruleset =>
      cases hr : resource.allowed <;> cases hs : ruleset.allowed <;>
        simp [combine, hr, hs]

/-- **A verdict of both checks that does not allow gives a reason.** A client is
never told of a denial with nothing to go by. -/
theorem combine_denies {verdict : Verdict}
    (h : combine resources rulesets = .ok verdict)
    (hd : verdict.allowed = false) :
    ∃ reason, reason ≠ "" ∧ verdict = .deny reason := by
  cases resources with
  | error cause => cases h
  | ok resource =>
    cases rulesets with
    | error cause => cases h
    | ok ruleset =>
      unfold combine at h
      dsimp only at h
      split at h
      · cases h
        exact ⟨_, reasonOr_ne_empty (by decide), rfl⟩
      · split at h
        · cases h
          exact ⟨_, reasonOr_ne_empty (by decide), rfl⟩
        · cases h
          cases hd

end Checks

/-- The gate for valid settings makes the checks they describe. -/
theorem Gate.ofSettings_eq_ok {settings : Settings} {gate : Gate}
    (h : Gate.ofSettings settings = .ok gate) :
    gate = ⟨.ofSettings settings⟩ := by
  unfold Gate.ofSettings at h
  cases hv : settings.validate with
  | error failure =>
    rw [hv] at h
    cases h
  | ok _ =>
    rw [hv] at h
    cases h
    rfl

/-- **Evidence for every pass.** Under valid settings a request passes the gate
exactly if there is evidence for both checks. Every other request is refused: a
failure of either check is the outcome, the resource check's first, and what is
left is denied with a reason.

The statement is about settings that pass the test, and about any network. What
a server would have to answer is part of the evidence, so nothing has to be
assumed of it. -/
theorem Gate.authorize_allows_iff {settings : Settings} {gate : Gate}
    (h : Gate.ofSettings settings = .ok gate) (network : Http.Network)
    (request : AccessRequest) (principal : Principal) (body : Value) :
    let result := (gate.authorize network request principal body).result
    let resources := (gate.checks.resources.run network request
      principal).result
    let rulesets := (gate.checks.rulesets.run network request principal
      body).result
    (Allows result ↔
      ResourceEvidence settings.resources network request principal ∧
        RulesetEvidence settings.rulesets network request principal body) ∧
    (∀ failure, result = .error failure ↔
      resources = .error failure ∨
        (∃ verdict, resources = .ok verdict) ∧ rulesets = .error failure) ∧
    (∀ verdict, result = .ok verdict → ¬ Allows result →
      ∃ reason, reason ≠ "" ∧ verdict = .deny reason) := by
  obtain rfl := Gate.ofSettings_eq_ok h
  refine ⟨?_, fun failure => Checks.combine_eq_error_iff,
    fun verdict hv hnot => ?_⟩
  · rw [← ResourceCheck.run_allows_iff, ← RulesetCheck.run_allows_iff]
    exact Checks.allows_combine_iff
  · refine Checks.combine_denies hv ?_
    cases hallowed : verdict.allowed with
    | false => rfl
    | true => exact absurd ⟨verdict, hv, hallowed⟩ hnot

/-! ### A request that passes

Two rules fit the path, and the one for a single order is the more specific one.
It is the resource of that rule which the server is asked about. -/

/-- Settings under which orders are a resource, and nothing else is. -/
def ordersSettings : Settings :=
  { resources :=
      { enabled := true
        validationUrl := "http://policy/check"
        credentials := .basic "gateway" "secret"
        resourceMap := .ofList
          [("[/orders/**]", "orders"), ("[/orders/*]", "order")] } }

/-- Somebody asks for an order. -/
def ordersRequest : AccessRequest :=
  { method := "GET", path := "/orders/7", fullUrl := "/orders/7" }

/-- The policy server allows. -/
def allowing : Http.Response :=
  { status := 200
    declaredLength := some 14
    body := .ofBytes (Text.Utf8.bytes "\x7b\"allow\":true\x7d") }

/-- The rule for one order is better than the one for all, and the server
allows it. -/
theorem Gate.orders_pass :
    Gate.ofSettings ordersSettings = .ok ⟨.ofSettings ordersSettings⟩ ∧
      Allows ((⟨.ofSettings ordersSettings⟩ : Gate).authorize
        (fun _ => .answered allowing) ordersRequest {}
        (.object [])).result := by
  have hvalid : Gate.ofSettings ordersSettings
      = .ok ⟨.ofSettings ordersSettings⟩ := rfl
  have hbest : ordersSettings.resources.table.best? none ordersRequest.path
      = .ok (some (.parse "[/orders/*]", "order")) :=
    eq_ok_of_toOption (by decide +kernel)
  have hanswers : ordersSettings.resources.server.Answers
      (fun _ => .answered allowing)
      (ResourceCheck.question {} ordersRequest "order" false)
      allowing.body.bytes :=
    ⟨.inr rfl, allowing, by decide +kernel,
      ⟨by decide, by decide, rfl, rfl, by decide +kernel⟩⟩
  have hspelled : ValidationAnswer.ofBytes? allowing.body.bytes
      = some { allow := true } := by decide +kernel
  exact ⟨hvalid, (Gate.authorize_allows_iff hvalid _ _ _ _).1.2
    ⟨.answered rfl (Route.Table.best?_eq_some_iff.1 hbest) hanswers hspelled
      rfl, .inactive rfl⟩⟩

end Policy

end PolicyGateway
