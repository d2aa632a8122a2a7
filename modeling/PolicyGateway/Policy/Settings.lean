import PolicyGateway.Duration
import PolicyGateway.Policy.Credentials
import PolicyGateway.Policy.Ruleset
import PolicyGateway.Record.Document

/-!
# Settings of the two checks

Authorization has two sections. The **resource check** maps paths to named
resources; the **ruleset check** maps methods and paths to rulesets. Each
names its policy server, the credentials and the time for one question.

A section takes part if it is enabled and names a server. A section that does
not take part allows everything, so settings in which neither does would let every
request pass; they are invalid, and a gateway without rules is not started.

Settings are written as JSON with every field, in the declared order.
-/

namespace PolicyGateway.Policy

open PolicyGateway.Json PolicyGateway.Record

/-- The time for one question unless the settings say otherwise. -/
def defaultTimeout : Duration := .ofSeconds 5

/-- **The documents spoken with the server of the ruleset check.** They differ
in what is asked and in what may be answered. -/
inductive Dialect where
  /-- Structured decision requests, answered by permit, deny or allow. -/
  | decision
  /-- The caller, the request and the rule, answered by allow. -/
  | generic
  deriving Repr, DecidableEq, Inhabited

namespace Dialect

/-- The name of a dialect. -/
def name : Dialect → String
  | decision => "decision"
  | generic => "generic"

/-- The dialect of this name. -/
def ofName? (s : String) : Option Dialect :=
  if s = "decision" then some decision
  else if s = "generic" then some generic
  else none

/-- Whether a node stands for no content in its format. -/
def isUnit : Format → Node → Bool
  | .json, .null => true
  | .toml, .mapping [] => true
  | .toml, .sequence [] => true
  | _, _ => false

/-- Read a dialect: its name, or its name over no content. -/
def ofNode? (format : Format) : Node → Option Dialect
  | .text s => ofName? s
  | .mapping [(s, content)] => if isUnit format content then ofName? s else none
  | _ => none

end Dialect

/-- Read a duration from a document. -/
def durationOfNode? (node : Node) : Option Duration :=
  node.asText?.bind Duration.parse?

/-- Whether a server is named: the address is not blank. -/
def isNamed (url : String) : Bool :=
  !(Text.trim url.toList).isEmpty

/-- **The section of the resource check.** It takes part if it is enabled and
names a server. -/
structure ResourceSettings where
  /-- Whether the check is made. -/
  enabled : Bool := false
  /-- Whether a path without a resource may pass. -/
  anonymousAccess : Bool := false
  /-- The address of the policy server. -/
  validationUrl : String := ""
  /-- How the gateway authenticates to it. -/
  credentials : Credentials := {}
  /-- The time for one question. -/
  timeout : Duration := defaultTimeout
  /-- The resource of each path pattern. -/
  resourceMap : OrderedMap String := .empty
  deriving Repr, DecidableEq, Inhabited

namespace ResourceSettings

/-- A section that takes part, with this policy server. -/
def against (validationUrl : String) : ResourceSettings :=
  { enabled := true, validationUrl }

/-- **Whether the section takes part.** -/
def isActive (settings : ResourceSettings) : Bool :=
  settings.enabled && isNamed settings.validationUrl

/-- Read the section from a document. -/
def ofNode? (node : Node) : Option ResourceSettings := do
  let fields ← Fields.ofSection? (["enabled", "anonymous_access",
    "validation_url", "timeout", "resource_map"] ++ Credentials.fieldNames)
    node
  let enabled ← fields.get? "enabled" Node.asBoolean? false
  let anonymousAccess ← fields.get? "anonymous_access" Node.asBoolean? false
  let validationUrl ← fields.get? "validation_url" Node.asText? ""
  let credentials ← Credentials.ofFields? fields
  let timeout ← fields.get? "timeout" durationOfNode? defaultTimeout
  let resourceMap ← fields.get? "resource_map" (Node.asMap? Node.asText?)
    .empty
  return { enabled, anonymousAccess, validationUrl, credentials, timeout,
           resourceMap }

/-- The section as a JSON value. -/
def toJson (settings : ResourceSettings) : Value :=
  .object ([("enabled", .boolean settings.enabled),
    ("anonymous_access", .boolean settings.anonymousAccess),
    ("validation_url", .text settings.validationUrl)] ++
    settings.credentials.members ++
    [("timeout", .text settings.timeout.text),
    ("resource_map", .object (settings.resourceMap.entries.map
      fun (pattern, resource) => (pattern, .text resource)))])

end ResourceSettings

/-- **The section of the ruleset check.** It takes part if it is enabled and
names a server. Where no rule is about a request there is nothing to ask. -/
structure RulesetSettings where
  /-- Whether the check is made. -/
  enabled : Bool := false
  /-- The address of the policy server. -/
  validationUrl : String := ""
  /-- How the gateway authenticates to it. -/
  credentials : Credentials := {}
  /-- The time for one question. -/
  timeout : Duration := defaultTimeout
  /-- The documents spoken with the server. -/
  dialect : Dialect := .decision
  /-- The ruleset of each rule key. -/
  resourceMap : OrderedMap Ruleset := .empty
  deriving Repr, DecidableEq, Inhabited

namespace RulesetSettings

/-- A section that takes part, with this policy server. -/
def against (validationUrl : String) : RulesetSettings :=
  { enabled := true, validationUrl }

/-- **Whether the section takes part.** -/
def isActive (settings : RulesetSettings) : Bool :=
  settings.enabled && isNamed settings.validationUrl

/-- Read the section from a document. -/
def ofNode? (format : Format) (node : Node) : Option RulesetSettings := do
  let fields ← Fields.ofSection? (["enabled", "validation_url", "timeout",
    "dialect", "resource_map"] ++ Credentials.fieldNames) node
  let enabled ← fields.get? "enabled" Node.asBoolean? false
  let validationUrl ← fields.get? "validation_url" Node.asText? ""
  let credentials ← Credentials.ofFields? fields
  let timeout ← fields.get? "timeout" durationOfNode? defaultTimeout
  let dialect ← fields.get? "dialect" (Dialect.ofNode? format) .decision
  let resourceMap ← fields.get? "resource_map"
    (Node.asMap? (Ruleset.ofNode? format)) .empty
  return { enabled, validationUrl, credentials, timeout, dialect,
           resourceMap }

/-- The section as a JSON value. -/
def toJson (settings : RulesetSettings) : Value :=
  .object ([("enabled", .boolean settings.enabled),
    ("validation_url", .text settings.validationUrl)] ++
    settings.credentials.members ++
    [("timeout", .text settings.timeout.text),
    ("dialect", .text settings.dialect.name),
    ("resource_map", .object (settings.resourceMap.entries.map
      fun (key, ruleset) => (key, ruleset.toJson)))])

end RulesetSettings

/-- **The settings of both checks.** One section that takes part is enough, and
none is not: a gate without checks would let everything pass. -/
structure Settings where
  /-- The section of the resource check. -/
  resources : ResourceSettings := {}
  /-- The section of the ruleset check. -/
  rulesets : RulesetSettings := {}
  deriving Repr, DecidableEq, Inhabited

namespace Settings

/-- Read the settings from a document. -/
def ofNode? (format : Format) (node : Node) : Option Settings := do
  let fields ← Fields.ofNode? format ["coarse", "fine_grain"] node
  let resources ← fields.get? "coarse" ResourceSettings.ofNode? {}
  let rulesets ← fields.get? "fine_grain" (RulesetSettings.ofNode? format) {}
  return { resources, rulesets }

/-- The settings as a JSON value. -/
def toJson (settings : Settings) : Value :=
  .object [("coarse", settings.resources.toJson),
    ("fine_grain", settings.rulesets.toJson)]

/-- **Settings in which a section takes part.** -/
def validate (settings : Settings) : Except Failure Unit :=
  if settings.resources.isActive || settings.rulesets.isActive then .ok ()
  else .error (.invalidSettings
    "at least one enabled section with validation_url is required")

/-- The settings that a JSON text spells. -/
def ofJson? (s : String) : Option Settings :=
  (Json.readText? s).bind (ofNode? .json)

/-- **Load the settings in a file.** They have to be valid. -/
def load (path : String) (content : FileContent) :
    Except Failure Settings :=
  match readFile ofNode? path content with
  | .error fault => .error (.unreadableSettings path fault.message)
  | .ok settings => settings.validate.map fun _ => settings

end Settings

end PolicyGateway.Policy
