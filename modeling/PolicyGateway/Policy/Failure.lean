import PolicyGateway.Json.Selector
import PolicyGateway.Route.Table

/-!
# Why a check cannot be made

A check that does not come to a verdict fails with a cause. Causes fall
into four kinds, which label logs and counters: the settings are at fault,
the request does not hold what the rule asks for, the policy server cannot
be reached, or it gave no usable answer.

Only one cause may be told to the client of the gateway: that the policy
server answered with another status than success. `reason?` is its text. All the
others would tell a client something of the rules or of the machines behind the
gateway, and go to the log alone.

Some causes are found by a library, which has words of its own for them: what is
wrong with a document, why a connection failed. They follow behind a colon in the
log. The messages here end in front of it.
-/

namespace PolicyGateway.Policy

/-- The two endpoints of a policy server. They are told apart in what a client
is told of a refusal. -/
inductive Endpoint where
  /-- It answers structured decision requests. -/
  | decision
  /-- It answers plain validation requests. -/
  | validation
  deriving Repr, DecidableEq

/-- What is said of an endpoint that did not answer with success. -/
def Endpoint.refusal : Endpoint → String
  | decision => "non-2xx from PDP"
  | validation => "non-2xx from validation service"

/-- **The kinds of failures.** Each is a label in the counters and a category
for the client. -/
inductive FailureKind where
  /-- The settings cannot form a correct question. -/
  | configuration
  /-- The request does not hold what a rule asks for. -/
  | extraction
  /-- The policy server could not be reached. -/
  | transport
  /-- The policy server gave no usable answer. -/
  | protocol
  deriving Repr, DecidableEq

/-- The label of a kind. -/
def FailureKind.label : FailureKind → String
  | configuration => "configuration"
  | extraction => "extraction"
  | transport => "transport"
  | protocol => "protocol"

/-- **Why there is no verdict.** -/
inductive Failure where
  /-- The settings are invalid. -/
  | invalidSettings (message : String)
  /-- The settings file could not be read. -/
  | unreadableSettings (path message : String)
  /-- The way to authenticate to the policy server is not supported. -/
  | unsupportedClientAuth (method : String)
  /-- Several rules fit equally well. -/
  | ambiguous (rules : Route.Ambiguity)
  /-- The request cannot be taken apart. -/
  | invalidRequest (message : String)
  /-- A field of the decision request could not be selected. -/
  | extraction (field path : String) (cause : Json.SelectError)
  /-- The policy server could not be reached. -/
  | unreachable
  /-- The policy server answered with another status than success. -/
  | unexpectedStatus (status : Nat) (endpoint : Endpoint)
  /-- The answer is not the document that was expected. -/
  | undecodable
  /-- The answer is longer than what is accepted. -/
  | tooLarge (limit : Nat)
  deriving Repr, DecidableEq

namespace Failure

/-- **The kind of a failure.** -/
def kind : Failure → FailureKind
  | invalidSettings _ => .configuration
  | unreadableSettings _ _ => .configuration
  | unsupportedClientAuth _ => .configuration
  | ambiguous _ => .configuration
  | invalidRequest _ => .extraction
  | extraction _ _ _ => .extraction
  | unreachable => .transport
  | unexpectedStatus _ _ => .protocol
  | undecodable => .protocol
  | tooLarge _ => .protocol

/-- **What a client may be told**: the refusal of an endpoint. -/
def reason? : Failure → Option String
  | unexpectedStatus _ endpoint => some endpoint.refusal
  | _ => none

/-- The wording of a failure, without what a library adds to it. -/
def message : Failure → String
  | invalidSettings text => "configuration error: " ++ text
  | unreadableSettings path text =>
    "failed to read configuration from " ++ path ++ ": " ++ text
  | unsupportedClientAuth method =>
    "unsupported client auth method: " ++ method
  | ambiguous rules =>
    "ambiguous rules for " ++ rules.path ++ ": " ++
      ", ".intercalate rules.patterns ++ " share the highest specificity"
  | invalidRequest text => "invalid request: " ++ text
  | extraction field path cause =>
    "failed to extract field " ++ Text.quoted field ++ " from path " ++
      Text.quoted path ++ ": " ++ cause.message
  | unreachable => "PDP request failed"
  | unexpectedStatus status endpoint =>
    endpoint.refusal ++ ": status " ++ toString status
  | undecodable => "failed to decode PDP response"
  | tooLarge limit => "PDP response exceeds " ++ toString limit ++ " bytes"

end Failure

end PolicyGateway.Policy
