import PolicyGateway.Proofs.FirstFailures

/-!
# Decision requests as a whole

A decision request is built if the URL of the request is one and every field of the
ruleset can be selected, and only then. What is built shows method and path of the
request, the headers that are looked up for it, and the fields of the ruleset, all of
them and in their order (`IsBuiltOf`). If it cannot be built the URL is told, and
otherwise the first field that cannot be selected (`BuildFails`).

A header is looked up under its very name first, and then under the first name that
differs from it in letter case only (`LooksUp`). So a header is found whatever its
letter case, and where it is found it is one of the request.

The main statement is `DecisionRequest.build_whole`.

**Why as a whole.** A decision is about what the server was shown. If a field
could be missing from it without a failure, the server would decide about less
than the ruleset says, and would not know. And if the order of the fields or
their names could change, it could take one for another.
-/

namespace PolicyGateway.Policy

open PolicyGateway.Json (Value)

/-! ## Looking up a header

The headers of a request come in the letter case in which they were given. A
name that fits exactly is preferred, so that a request with the same name in two
cases has a header that is found, and always the same one. -/

namespace AccessRequest

/-- **What looking up a header finds.** -/
inductive LooksUp (request : AccessRequest) (name : String) : Option String → Prop
  /-- There is a header of this very name. -/
  | exact {value : String} (mem : (name, value) ∈ request.headers.entries) :
      LooksUp request name (some value)
  /-- There is none, and this is the first whose name differs in letter case only. -/
  | folded {before after : List (String × String)} {other value : String}
      (inexact : ∀ entry ∈ request.headers.entries, entry.1 ≠ name)
      (split : request.headers.entries = before ++ (other, value) :: after)
      (first : ∀ entry ∈ before, Text.sameIgnoringCase entry.1 name = false)
      (same : Text.sameIgnoringCase other name = true) :
      LooksUp request name (some value)
  /-- There is no header of this name, whatever its letter case. -/
  | absent (none_same : ∀ entry ∈ request.headers.entries,
        Text.sameIgnoringCase entry.1 name = false) :
      LooksUp request name none

variable {request : AccessRequest} {name : String}

/-- What is found is what looking up finds. -/
theorem looksUp_header? (request : AccessRequest) (name : String) :
    LooksUp request name (request.header? name) := by
  unfold header?
  cases hexact : request.headers.find? name with
  | some value =>
    rw [Option.some_or]
    exact .exact (Record.OrderedMap.find?_eq_some_iff.1 hexact)
  | none =>
    rw [Option.none_or]
    cases hfolded : request.headers.entries.find? fun entry =>
        Text.sameIgnoringCase entry.1 name with
    | some entry =>
      obtain ⟨hsame, before, after, hsplit, hfirst⟩ :=
        List.find?_eq_some_iff_append.1 hfolded
      refine .folded (Record.OrderedMap.find?_eq_none_iff.1 hexact) hsplit
        (fun other hother => ?_) hsame
      simpa using hfirst other hother
    | none =>
      refine .absent fun entry hentry => ?_
      simpa using List.find?_eq_none.1 hfolded entry hentry

/-- Looking up finds one thing. -/
theorem LooksUp.header?_eq {found : Option String} (h : LooksUp request name found) :
    request.header? name = found := by
  unfold header?
  cases h with
  | exact mem =>
    rw [Record.OrderedMap.find?_eq_some_iff.2 mem]
    rfl
  | folded inexact split first same =>
    have hfolded : request.headers.entries.find? (fun entry =>
        Text.sameIgnoringCase entry.1 name) = some (_, _) :=
      List.find?_eq_some_iff_append.2
        ⟨same, _, _, split, fun entry hentry => by rw [first entry hentry]; rfl⟩
    rw [Record.OrderedMap.find?_eq_none_iff.2 inexact, Option.none_or, hfolded]
    rfl
  | absent none_same =>
    -- the very name would differ in nothing
    have hexact : request.headers.find? name = none := by
      refine Record.OrderedMap.find?_eq_none_iff.2 fun entry hentry hname => ?_
      have hother := none_same entry hentry
      rw [hname, show Text.sameIgnoringCase name name = true from beq_self_eq_true _]
        at hother
      cases hother
    have hfolded : request.headers.entries.find? (fun entry =>
        Text.sameIgnoringCase entry.1 name) = none :=
      List.find?_eq_none.2 fun entry hentry => by
        rw [none_same entry hentry]
        exact Bool.false_ne_true
    rw [hexact, Option.none_or, hfolded]
    rfl

/-- **A header is looked up** under its name, and then in another letter case. -/
theorem header?_eq_iff {found : Option String} :
    request.header? name = found ↔ LooksUp request name found :=
  ⟨fun h => h ▸ looksUp_header? request name, LooksUp.header?_eq⟩

end AccessRequest

namespace DecisionRequest

open PolicyGateway.Json (select)

variable {request : AccessRequest} {ruleset : Ruleset} {body : Value}

/-! ## What is built

The parts are built one after the other, and the first that fails is told. The
URL comes before the fields. -/

/-- **What a decision request is built of**: the request, and the fields that
the ruleset selects from the body. Of the path only the place is said here;
which segments follow it is a matter of its own. -/
structure IsBuiltOf (request : AccessRequest) (ruleset : Ruleset) (body : Value)
    (decision : DecisionRequest) : Prop where
  /-- The method is the request's. -/
  method : decision.method = request.method
  /-- The path comes first, before its segments. -/
  path : decision.uri.path.head? = some request.path
  /-- The id of the request is shown, empty if there is none, and behind it the
  authorization, if there is one. -/
  headers : ∃ id token, request.LooksUp requestIdHeader id ∧
    request.LooksUp authorizationHeader token ∧
    decision.headers = (requestIdHeader, id.getD "") ::
      (token.map (authorizationHeader, ·)).toList
  /-- The fields have the names of the ruleset's, in their order. -/
  names : decision.body.map Prod.fst = ruleset.body.names
  /-- And each is what its path selects. -/
  fields : List.Forall₂ (IsFieldOf body) ruleset.body.entries decision.body

/-- **Why a decision request is not built.** A fault of the URL hides whatever
is wrong with the fields. -/
inductive BuildFails (request : AccessRequest) (ruleset : Ruleset) (body : Value) :
    Failure → Prop
  /-- The URL of the request is none. -/
  | url {fault : UriFault} (unread : Uri.parse request.fullUrl = .error fault) :
      BuildFails request ruleset body
        (.invalidRequest ("invalid URL " ++ Text.quoted request.fullUrl ++ ": " ++
          fault.message))
  /-- It is one, and this is the first field that cannot be selected. -/
  | field {uri : Uri} {before after : List (String × String)} {name path : String}
      {cause : Json.SelectError} (read : Uri.parse request.fullUrl = .ok uri)
      (split : ruleset.body.entries = before ++ (name, path) :: after)
      (first : ∀ entry ∈ before, ∃ part, select body entry.2 = .ok part)
      (fails : select body path = .error cause) :
      BuildFails request ruleset body (.extraction name path cause)

/-- The headers that are shown are looked up. -/
theorem exists_shownHeaders (request : AccessRequest) :
    ∃ id token, request.LooksUp requestIdHeader id ∧
      request.LooksUp authorizationHeader token ∧
      shownHeaders request = (requestIdHeader, id.getD "") ::
        (token.map (authorizationHeader, ·)).toList := by
  refine ⟨_, _, AccessRequest.header?_eq_iff.1 rfl, AccessRequest.header?_eq_iff.1 rfl,
    ?_⟩
  unfold shownHeaders
  cases request.header? authorizationHeader <;> rfl

/-- Fields that are selected have the names of the ruleset's. -/
theorem names_of_fields {entries : List (String × String)}
    {fields : List (String × Value)} (h : List.Forall₂ (IsFieldOf body) entries fields) :
    fields.map Prod.fst = entries.map Prod.fst := by
  induction h with
  | nil => rfl
  | cons hfield _ ih => rw [List.map_cons, List.map_cons, hfield.name, ih]

theorem isBuiltOf_of_build {decision : DecisionRequest}
    (h : build request ruleset body = .ok decision) :
    IsBuiltOf request ruleset body decision := by
  obtain ⟨uri, fields, -, hfields, rfl⟩ := exists_of_build h
  have hselected := selectFields_eq_ok_iff.1 hfields
  exact ⟨rfl, rfl, exists_shownHeaders request, names_of_fields hselected, hselected⟩

/-- Where the URL is one, a decision request fails as its fields do. -/
theorem build_eq_error_iff_of_parse {uri : Uri}
    (h : Uri.parse request.fullUrl = .ok uri) {failure : Failure} :
    build request ruleset body = .error failure ↔
      selectFields body ruleset.body.entries = .error failure := by
  unfold build
  rw [h]
  exact ⟨eq_error_of_map, fun hfields => by rw [hfields]; rfl⟩

theorem buildFails_iff {failure : Failure} :
    build request ruleset body = .error failure ↔
      BuildFails request ruleset body failure := by
  cases hparse : Uri.parse request.fullUrl with
  | error fault =>
    have hbuild : build request ruleset body
        = .error (.invalidRequest ("invalid URL " ++ Text.quoted request.fullUrl ++
            ": " ++ fault.message)) := by
      unfold build
      rw [hparse]
    rw [hbuild]
    constructor
    · rintro ⟨⟩
      exact .url hparse
    · rintro (unread | ⟨read, -, -, -⟩)
      · cases hparse.symm.trans unread
        rfl
      · cases hparse.symm.trans read
  | ok uri =>
    rw [build_eq_error_iff_of_parse hparse, selectFields_eq_error_iff]
    constructor
    · rintro ⟨before, name, path, after, cause, hsplit, hfirst, hfails, rfl⟩
      exact .field hparse hsplit hfirst hfails
    · rintro (unread | ⟨read, hsplit, hfirst, hfails⟩)
      · cases hparse.symm.trans unread
      · exact ⟨_, _, _, _, _, hsplit, hfirst, hfails, rfl⟩

/-- **A decision request is built as a whole or not at all.** It is built exactly if
the URL of the request is one and all fields of the ruleset can be selected. What is
built shows all of them, and where nothing is built the URL is told, or the first
field that cannot be selected. -/
theorem build_whole (request : AccessRequest) (ruleset : Ruleset) (body : Value) :
    ((∃ decision, build request ruleset body = .ok decision) ↔
      (∃ uri, Uri.parse request.fullUrl = .ok uri) ∧
        ∀ entry ∈ ruleset.body.entries, ∃ part, select body entry.2 = .ok part) ∧
    (∀ decision, build request ruleset body = .ok decision →
      IsBuiltOf request ruleset body decision) ∧
    ∀ failure, build request ruleset body = .error failure ↔
      BuildFails request ruleset body failure := by
  refine ⟨⟨?_, ?_⟩, fun decision => isBuiltOf_of_build, fun failure => buildFails_iff⟩
  · rintro ⟨decision, h⟩
    obtain ⟨uri, fields, hparse, hfields, -⟩ := exists_of_build h
    exact ⟨⟨uri, hparse⟩, exists_selectFields_iff.1 ⟨fields, hfields⟩⟩
  · rintro ⟨⟨uri, hparse⟩, hselect⟩
    obtain ⟨fields, hfields⟩ := exists_selectFields_iff.2 hselect
    unfold build
    rw [hparse, hfields]
    exact ⟨_, rfl⟩

/-! ### A checkout

The order has neither a payer nor a note. The ruleset wants both, the payer
first. -/

/-- What is asked of a checkout: its items, who pays, and a note. -/
def checkoutRuleset : Ruleset where
  body := .ofList [("ids", "$.items[*].id"), ("payer", "$.payer"), ("note", "$.note")]

/-- A checkout without an id. The authorization is written in small letters. -/
def checkoutRequest : AccessRequest where
  method := "POST"
  path := "/checkout"
  fullUrl := "/checkout"
  headers := .ofList [("authorization", "Bearer t")]

/-- Two fields cannot be selected from an empty order, and the first of them is told.
Whatever is built for this request shows an empty id, and the authorization under its
fixed name. -/
theorem checkout_fails :
    build checkoutRequest checkoutRuleset (.object [("items", .array [])])
        = .error (.extraction "payer" "$.payer" (.missing "$.payer" "payer")) ∧
      ∀ body decision, build checkoutRequest checkoutRuleset body = .ok decision →
        decision.headers = [("x-request-id", ""), ("Authorization", "Bearer t")] := by
  have hparse : Uri.parse checkoutRequest.fullUrl = .ok (.origin ⟨"/checkout", none⟩) :=
    eq_ok_of_toOption (by decide +kernel)
  refine ⟨((build_whole _ _ _).2.2 _).2 (.field hparse
    (show _ = [("ids", "$.items[*].id")] ++ ("payer", "$.payer") :: [("note", "$.note")]
      by decide) ?_ rfl), fun body decision h => ?_⟩
  · exact List.forall_mem_singleton.2 ⟨.array [], rfl⟩
  · obtain ⟨id, token, hid, htoken, hheaders⟩ :=
      ((build_whole _ _ _).2.1 _ h).headers
    rw [hheaders, ← AccessRequest.header?_eq_iff.2 hid,
      ← AccessRequest.header?_eq_iff.2 htoken]
    decide

end DecisionRequest

end PolicyGateway.Policy
