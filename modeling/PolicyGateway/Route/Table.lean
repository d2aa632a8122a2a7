import PolicyGateway.Route.Pattern

/-!
# Rule tables

A table files values under rule keys and answers a request with the value
whose key fits best. The order of the rules never decides: if two keys
share the highest score, the table is ambiguous for that request and says
so, naming every key that shares it.

The search is one pass that carries the leader so far and those that have
drawn level with it. A tie counts only at the top: rules that share a lower score
do not make a table ambiguous, since none of them would have been the answer.
-/

namespace PolicyGateway.Route

/-- **No single best rule**: these keys, in table order, share the highest
score for the path. -/
structure Ambiguity where
  /-- The path that was looked up. -/
  path : String
  /-- The keys that share the highest score, as they were written. -/
  patterns : List String
  deriving Repr, DecidableEq

/-- **A rule table**: values under rule keys, in the order they were written.
Their order has no say in which one is found. -/
structure Table (α : Type) where
  /-- The rules. -/
  entries : List (Pattern × α)
  deriving Repr

/-- **The leader of a search**: a rule with the highest score so far, and
the later rules that share its score. These are kept, and not only counted, since
an ambiguity names them all. -/
structure Leader (α : Type) where
  /-- The highest score so far. -/
  score : Score
  /-- The first rule that reached it. -/
  first : Pattern × α
  /-- The rules that reached it afterwards, latest in front. -/
  level : List (Pattern × α)

namespace Leader

variable {α : Type}

/-- A rule with a score joins the search. -/
def consider (leader : Option (Leader α)) (score : Score)
    (rule : Pattern × α) : Option (Leader α) :=
  match leader with
  | none => some ⟨score, rule, []⟩
  | some top =>
    if score < top.score then some top
    else if score = top.score then
      some { top with level := rule :: top.level }
    else some ⟨score, rule, []⟩

end Leader

namespace Table

variable {α : Type}

/-- The table of these values under these keys. -/
def ofList (rules : List (String × α)) : Table α :=
  ⟨rules.map fun (key, value) => (Pattern.parse key, value)⟩

/-- How many rules the table has. -/
def size (table : Table α) : Nat :=
  table.entries.length

/-- Whether the table has no rule. -/
def isEmpty (table : Table α) : Bool :=
  table.entries.isEmpty

/-- The leader among all rules that fit the request. -/
def leader? (table : Table α) (method : Option String) (path : String) :
    Option (Leader α) :=
  table.entries.foldl (fun leader rule =>
    match rule.1.score? method path with
    | none => leader
    | some score => Leader.consider leader score rule) none

/-- **The best rule for a request**: none where no rule fits, and an
ambiguity where several share the highest score. -/
def best? (table : Table α) (method : Option String) (path : String) :
    Except Ambiguity (Option (Pattern × α)) :=
  match table.leader? method path with
  | none => .ok none
  | some ⟨_, first, []⟩ => .ok (some first)
  | some ⟨_, first, level⟩ =>
    .error { path, patterns := (first :: level.reverse).map (·.1.raw) }

end Table

end PolicyGateway.Route
