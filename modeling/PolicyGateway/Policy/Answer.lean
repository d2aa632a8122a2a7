import PolicyGateway.Json.Printer
import PolicyGateway.Record.Fields

/-!
# Answers of the policy server

A policy server answers with a small document. In the decision dialect it
may give a token that permits and one that denies besides the plain flag:
a permit that is not empty allows, otherwise a denial that is not empty
denies, otherwise the flag decides. In the other dialect there is only the
flag.

In an answer, a field that is null reads like one that is missing: a server that
writes null for what it does not say gives the same answer as one that leaves it
out. Settings are read more strictly.
-/

namespace PolicyGateway.Policy

open PolicyGateway.Json PolicyGateway.Record

/-- **The outcome of a check.** It has a reason either way, for the log or for
the client. -/
structure Verdict where
  /-- Whether the request may proceed. -/
  allowed : Bool
  /-- The reason, perhaps empty. -/
  reason : String
  deriving Repr, DecidableEq

namespace Verdict

/-- A verdict that allows. -/
def allow (reason : String) : Verdict := ⟨true, reason⟩

/-- A verdict that denies. -/
def deny (reason : String) : Verdict := ⟨false, reason⟩

end Verdict

/-- Read a field of an answer, where null counts as missing. A value of another
type is still an error: it cannot be known what the server meant by it. -/
def answerField? {α : Type} (fields : Fields) (name : String)
    (read : Node → Option α) (absent : α) : Option α :=
  fields.get? name
    (fun node => (Node.asOptional? read node).map (·.getD absent)) absent

/-- **An answer in the decision dialect.** It may say the same thing in three
ways, and they need not agree. -/
structure DecisionAnswer where
  /-- The plain flag. -/
  allow : Bool := false
  /-- The reason that goes with the flag. -/
  reason : String := ""
  /-- The token that permits. -/
  permit : String := ""
  /-- The token that denies. -/
  deny : String := ""
  deriving Repr, DecidableEq

namespace DecisionAnswer

/-- **The verdict of an answer**: a permit comes first, then a denial, then
the flag. What decides is the reason. A server that gives both tokens contradicts
itself, and the order is what settles it. -/
def verdict (answer : DecisionAnswer) : Verdict :=
  if !answer.permit.isEmpty then .allow answer.permit
  else if !answer.deny.isEmpty then .deny answer.deny
  else ⟨answer.allow, answer.reason⟩

/-- Read an answer from a document. -/
def ofNode? (node : Node) : Option DecisionAnswer := do
  let fields ← Fields.ofNode? .json ["allow", "reason", "permit", "deny"]
    node
  let allow ← answerField? fields "allow" Node.asBoolean? false
  let reason ← answerField? fields "reason" Node.asText? ""
  let permit ← answerField? fields "permit" Node.asText? ""
  let deny ← answerField? fields "deny" Node.asText? ""
  return { allow, reason, permit, deny }

/-- Read an answer from the bytes of a message. -/
def ofBytes? (bs : List UInt8) : Option DecisionAnswer :=
  (Json.readBytes? bs).bind ofNode?

/-- The answer as a JSON value. -/
def toJson (answer : DecisionAnswer) : Value :=
  .object [("allow", .boolean answer.allow), ("reason", .text answer.reason),
    ("permit", .text answer.permit), ("deny", .text answer.deny)]

end DecisionAnswer

/-- **An answer of allow and reason.** A server that says nothing has not
allowed. -/
structure ValidationAnswer where
  /-- Whether access is allowed. -/
  allow : Bool := false
  /-- The reason. -/
  reason : String := ""
  deriving Repr, DecidableEq

namespace ValidationAnswer

/-- The verdict of an answer. -/
def verdict (answer : ValidationAnswer) : Verdict :=
  ⟨answer.allow, answer.reason⟩

/-- Read an answer from a document. -/
def ofNode? (node : Node) : Option ValidationAnswer := do
  let fields ← Fields.ofNode? .json ["allow", "reason"] node
  let allow ← answerField? fields "allow" Node.asBoolean? false
  let reason ← answerField? fields "reason" Node.asText? ""
  return { allow, reason }

/-- Read an answer from the bytes of a message. -/
def ofBytes? (bs : List UInt8) : Option ValidationAnswer :=
  (Json.readBytes? bs).bind ofNode?

/-- The answer as a JSON value. -/
def toJson (answer : ValidationAnswer) : Value :=
  .object [("allow", .boolean answer.allow), ("reason", .text answer.reason)]

end ValidationAnswer

end PolicyGateway.Policy
