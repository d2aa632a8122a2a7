import PolicyGateway.Policy.Failure

/-!
# Counters

The gateway counts the requests it has answered, by method and status, and
what its checks came to. A duration is recorded for every counted request,
of which only the number is kept here.

A tally says of each thing how often it was seen; seeing one thing more
changes the count of that thing alone (`count_add`). That is all that later proofs
know of a tally, so it might as well be a map of another kind.
-/

namespace PolicyGateway.Gateway

/-- **How often each thing was seen.** What was never seen has no entry, and its
count is zero. -/
structure Tally (α : Type) where
  /-- The things that were seen, with their counts. -/
  entries : List (α × Nat) := []
  deriving Repr, DecidableEq

namespace Tally

variable {α : Type} [DecidableEq α]

/-- How often a thing was seen. -/
def count (tally : Tally α) (a : α) : Nat :=
  (tally.entries.lookup a).getD 0

/-- Count a thing among counted things. -/
def increment (a : α) : List (α × Nat) → List (α × Nat)
  | [] => [(a, 1)]
  | (b, n) :: rest =>
    if a = b then (b, n + 1) :: rest else (b, n) :: increment a rest

/-- **See a thing once more.** -/
def add (tally : Tally α) (a : α) : Tally α :=
  ⟨increment a tally.entries⟩

theorem lookup_increment (a b : α) (l : List (α × Nat)) :
    ((increment a l).lookup b).getD 0 =
      (l.lookup b).getD 0 + if b = a then 1 else 0 := by
  induction l with
  | nil =>
    by_cases h : b = a
    · simp [increment, h]
    · have hne : (b == a) = false := by simpa using h
      simp [increment, List.lookup_cons, h, hne]
  | cons p rest ih =>
    obtain ⟨c, n⟩ := p
    unfold increment
    by_cases hac : a = c
    · subst hac
      by_cases h : b = a
      · simp [h]
      · have hne : (b == a) = false := by simpa using h
        simp [List.lookup_cons, h, hne]
    · by_cases h : b = c
      · subst h
        simp [hac, Ne.symm hac]
      · have hne : (b == c) = false := by simpa using h
        simpa [List.lookup_cons, hac, hne] using ih

/-- Seeing a thing adds one to its count and nothing to any other. -/
@[simp] theorem count_add (tally : Tally α) (a b : α) :
    (tally.add a).count b = tally.count b + if b = a then 1 else 0 :=
  lookup_increment a b tally.entries

end Tally

/-- **What the checks came to**, as it is counted. A request that did not get as
far as the checks has none. -/
inductive Decision where
  /-- They allow. -/
  | allow
  /-- They deny. -/
  | deny
  /-- One of them failed. -/
  | failed (kind : Policy.FailureKind)
  deriving Repr, DecidableEq

/-- The label of a decision. -/
def Decision.label : Decision → String
  | allow => "allow"
  | deny => "deny"
  | failed kind => kind.label

/-- **The counters of the gateway.** A request outside the gateway's own paths
is counted by what the client got, and what the checks came to is counted where
they are made; the two are not compared by anybody. -/
structure Counters where
  /-- The requests, by method and status. -/
  requests : Tally (String × Nat) := {}
  /-- The recorded durations, by method. -/
  durations : Tally String := {}
  /-- What the checks came to. -/
  decisions : Tally Decision := {}
  deriving Repr, DecidableEq

namespace Counters

/-- Count a request that has been answered. -/
def addRequest (counters : Counters) (method : String) (status : Nat) :
    Counters :=
  { counters with
    requests := counters.requests.add (method, status)
    durations := counters.durations.add method }

/-- Count what the checks came to. -/
def addDecision (counters : Counters) (decision : Decision) : Counters :=
  { counters with decisions := counters.decisions.add decision }

/-- One line of the exposition. -/
def line (name : String) (labels : List (String × String)) (n : Nat) :
    String :=
  let written := labels.map fun (label, value) =>
    label ++ "=\"" ++ value ++ "\""
  name ++ "\x7b" ++ ",".intercalate written ++ "\x7d " ++ toString n

/-- **The lines that show the counters**, in the order of their texts. -/
def lines (counters : Counters) : List String :=
  let requests := counters.requests.entries.map
    fun ((method, status), n) =>
      line "tollgate_requests_total"
        [("method", method), ("status", toString status)] n
  let durations := counters.durations.entries.map fun (method, n) =>
    line "tollgate_request_duration_seconds_count" [("method", method)] n
  let decisions := counters.decisions.entries.map fun (decision, n) =>
    line "tollgate_authz_decisions_total" [("outcome", decision.label)] n
  (requests ++ durations ++ decisions).mergeSort fun a b => decide (a ≤ b)

end Counters

end PolicyGateway.Gateway
