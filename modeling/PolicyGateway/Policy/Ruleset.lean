import PolicyGateway.Json.Printer
import PolicyGateway.Record.Fields

/-!
# Rulesets

What the policy server is to apply to a request is named by a ruleset. It
also says which parts of the request body the server needs to see, each
under the name of a field and addressed by a path. So a server sees of a body
what its rules are about, and no more.
-/

namespace PolicyGateway.Policy

open PolicyGateway.Json PolicyGateway.Record

/-- **A ruleset** and the fields it is judged by. The policy server knows it by
its name and its id. The gateway only looks at which fields it wants of a body.
-/
structure Ruleset where
  /-- The roles that the rule expects; the gateway only passes them on. -/
  roles : List String := []
  /-- The name of the ruleset. -/
  name : String := ""
  /-- The id of the ruleset. -/
  id : String := ""
  /-- The path of each field of the decision request. -/
  body : OrderedMap String := .empty
  deriving Repr, DecidableEq, Inhabited

namespace Ruleset

/-- Read a ruleset from a document. -/
def ofNode? (format : Format) (node : Node) : Option Ruleset := do
  let fields ← Fields.ofNode? format
    ["roles", "ruleset_name", "ruleset_id", "body"] node
  let roles ← fields.get? "roles" (Node.asList? Node.asText?) []
  let name ← fields.get? "ruleset_name" Node.asText? ""
  let id ← fields.get? "ruleset_id" Node.asText? ""
  let body ← fields.get? "body" (Node.asMap? Node.asText?) .empty
  return { roles, name, id, body }

/-- The ruleset as a JSON value. -/
def toJson (ruleset : Ruleset) : Value :=
  .object [("roles", Value.texts ruleset.roles),
    ("ruleset_name", .text ruleset.name),
    ("ruleset_id", .text ruleset.id),
    ("body", .object (ruleset.body.entries.map fun (name, path) =>
      (name, .text path)))]

end Ruleset

end PolicyGateway.Policy
