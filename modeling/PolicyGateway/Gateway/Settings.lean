import PolicyGateway.Gateway.Failure
import PolicyGateway.Policy.Settings

/-!
# Settings of the gateway

Settings come from a file, then from the environment, and are then checked.
What the environment gives replaces what the file says; a number or a
duration that cannot be read there changes nothing. The check comes last, so it
is about what the gateway will run with, wherever that came from.

The settings hold the server, the two authorization checks, how callers are
identified, and what is logged and counted. They are written as JSON with
every field, in the declared order.
-/

namespace PolicyGateway.Gateway

open PolicyGateway.Json PolicyGateway.Record

/-- **The server and the backend service.** Every field has a default. The
settings test the address of the backend service; whether the server can listen
is found out when it starts. -/
structure ServerSettings where
  /-- The port to listen on. -/
  listenPort : UInt16 := 8080
  /-- The address to listen on. -/
  listenAddr : String := "0.0.0.0"
  /-- The address of the backend service. -/
  backendUrl : String := "http://localhost:3000"
  /-- The time for an answer of the backend service. -/
  backendTimeout : Duration := .ofSeconds 30
  /-- The greatest length of a request body, in bytes. -/
  maxRequestBodySize : UInt64 := 10485760
  deriving Repr, DecidableEq, Inhabited

/-- **How callers are identified.** A header is all the gateway goes by. Who may
set it is for the network in front of the gateway to see to. -/
structure IdentitySettings where
  /-- The header that carries the caller. -/
  principalHeader : String := "x-caller-identity"
  /-- Whether requests without it are refused. -/
  requirePrincipal : Bool := false
  deriving Repr, DecidableEq, Inhabited

/-- **What is logged and counted.** None of it has a say in what becomes of a
request. -/
structure TelemetrySettings where
  /-- The filter of log lines. -/
  logLevel : String := "info"
  /-- Whether log lines are JSON. -/
  jsonLogs : Bool := true
  /-- Whether requests are counted. -/
  metricsEnabled : Bool := true
  /-- An extra port for the counters. -/
  metricsPort : Option UInt16 := none
  /-- The name of the service. -/
  serviceName : String := "tollgate-sidecar"
  deriving Repr, DecidableEq, Inhabited

/-- **All settings of the gateway.** They are read once at the start. Later on
only the section of the checks may be replaced. -/
structure Settings where
  /-- The server. -/
  server : ServerSettings := {}
  /-- The two checks. -/
  authorization : Policy.Settings := {}
  /-- The callers. -/
  identity : IdentitySettings := {}
  /-- Logs and counters. -/
  telemetry : TelemetrySettings := {}
  deriving Repr, DecidableEq, Inhabited

/-! ## Reading -/

/-- Read a port from a document. -/
def portOfNode? (node : Node) : Option UInt16 :=
  (node.asNatural? 65535).map UInt16.ofNat

/-- Read a port from a text. -/
def portOfText? (s : String) : Option UInt16 :=
  (Text.boundedNatural? 65535 s.toList).map UInt16.ofNat

namespace ServerSettings

/-- Read the server's settings from a document. -/
def ofNode? (format : Format) (node : Node) : Option ServerSettings := do
  let fields ← Fields.ofNode? format ["listen_port", "listen_addr",
    "upstream_url", "upstream_timeout", "max_request_body_size"] node
  let absent : ServerSettings := {}
  let listenPort ← fields.get? "listen_port" portOfNode? absent.listenPort
  let listenAddr ← fields.get? "listen_addr" Node.asText? absent.listenAddr
  let backendUrl ← fields.get? "upstream_url" Node.asText?
    absent.backendUrl
  let backendTimeout ← fields.get? "upstream_timeout"
    Policy.durationOfNode? absent.backendTimeout
  let maxRequestBodySize ← fields.get? "max_request_body_size"
    (fun node => (node.asNatural? (UInt64.size - 1)).map UInt64.ofNat)
    absent.maxRequestBodySize
  return { listenPort, listenAddr, backendUrl, backendTimeout,
           maxRequestBodySize }

/-- The server's settings as a JSON value. -/
def toJson (settings : ServerSettings) : Value :=
  .object [("listen_port", .natural settings.listenPort.toNat),
    ("listen_addr", .text settings.listenAddr),
    ("upstream_url", .text settings.backendUrl),
    ("upstream_timeout", .text settings.backendTimeout.text),
    ("max_request_body_size", .natural settings.maxRequestBodySize.toNat)]

end ServerSettings

namespace IdentitySettings

/-- Read the settings of callers from a document. -/
def ofNode? (format : Format) (node : Node) : Option IdentitySettings := do
  let fields ← Fields.ofNode? format
    ["principal_header", "require_principal"] node
  let absent : IdentitySettings := {}
  let principalHeader ← fields.get? "principal_header" Node.asText?
    absent.principalHeader
  let requirePrincipal ← fields.get? "require_principal" Node.asBoolean?
    absent.requirePrincipal
  return { principalHeader, requirePrincipal }

/-- The settings of callers as a JSON value. -/
def toJson (settings : IdentitySettings) : Value :=
  .object [("principal_header", .text settings.principalHeader),
    ("require_principal", .boolean settings.requirePrincipal)]

end IdentitySettings

namespace TelemetrySettings

/-- Read the settings of logs and counters from a document. -/
def ofNode? (format : Format) (node : Node) : Option TelemetrySettings := do
  let fields ← Fields.ofNode? format ["log_level", "json_logs",
    "metrics_enabled", "metrics_port", "service_name"] node
  let absent : TelemetrySettings := {}
  let logLevel ← fields.get? "log_level" Node.asText? absent.logLevel
  let jsonLogs ← fields.get? "json_logs" Node.asBoolean? absent.jsonLogs
  let metricsEnabled ← fields.get? "metrics_enabled" Node.asBoolean?
    absent.metricsEnabled
  let metricsPort ← fields.get? "metrics_port"
    (Node.asOptional? portOfNode?) absent.metricsPort
  let serviceName ← fields.get? "service_name" Node.asText?
    absent.serviceName
  return { logLevel, jsonLogs, metricsEnabled, metricsPort, serviceName }

/-- The settings of logs and counters as a JSON value. -/
def toJson (settings : TelemetrySettings) : Value :=
  .object [("log_level", .text settings.logLevel),
    ("json_logs", .boolean settings.jsonLogs),
    ("metrics_enabled", .boolean settings.metricsEnabled),
    ("metrics_port",
      match settings.metricsPort with
      | some port => .natural port.toNat
      | none => .null),
    ("service_name", .text settings.serviceName)]

end TelemetrySettings

namespace Settings

/-- Read all settings from a document. -/
def ofNode? (format : Format) (node : Node) : Option Settings := do
  let fields ← Fields.ofNode? format
    ["sidecar", "authorization", "identity", "telemetry"] node
  let server ← fields.get? "sidecar" (ServerSettings.ofNode? format) {}
  let authorization ← fields.get? "authorization"
    (Policy.Settings.ofNode? format) {}
  let identity ← fields.get? "identity" (IdentitySettings.ofNode? format) {}
  let telemetry ← fields.get? "telemetry" (TelemetrySettings.ofNode? format)
    {}
  return { server, authorization, identity, telemetry }

/-- All settings as a JSON value. -/
def toJson (settings : Settings) : Value :=
  .object [("sidecar", settings.server.toJson),
    ("authorization", settings.authorization.toJson),
    ("identity", settings.identity.toJson),
    ("telemetry", settings.telemetry.toJson)]

/-- The settings that a JSON text spells. -/
def ofJson? (s : String) : Option Settings :=
  (Json.readText? s).bind (ofNode? .json)

/-- **Load the settings in a file.** They are not checked yet. -/
def load (path : String) (content : FileContent) :
    Except Failure Settings :=
  match readFile ofNode? path content with
  | .ok settings => .ok settings
  | .error (.unreadable reason) =>
    .error (.settings ("failed to read config file: " ++ reason))
  | .error fault => .error (.settings fault.message)

/-! ## The environment -/

/-- **What the environment gives replaces what the file says.** -/
def override (settings : Settings) (lookup : String → Option String) :
    Settings :=
  let server := settings.server
  { server :=
      { server with
        listenPort := ((lookup "TOLLGATE_LISTEN_PORT").bind
          portOfText?).getD server.listenPort
        backendUrl := (lookup "TOLLGATE_UPSTREAM_URL").getD
          server.backendUrl
        backendTimeout := ((lookup "TOLLGATE_UPSTREAM_TIMEOUT").bind
          Duration.parse?).getD server.backendTimeout }
    authorization := settings.authorization
    identity :=
      { settings.identity with
        principalHeader := (lookup "TOLLGATE_PRINCIPAL_HEADER").getD
          settings.identity.principalHeader }
    telemetry :=
      { settings.telemetry with
        metricsPort := ((lookup "TOLLGATE_METRICS_PORT").bind
          portOfText?).or settings.telemetry.metricsPort
        logLevel := (lookup "TOLLGATE_LOG_LEVEL").getD
          settings.telemetry.logLevel } }

/-! ## Checking -/

/-- Whether an address starts like one of the web. -/
def isWebAddress (url : String) : Bool :=
  "http://".toList.isPrefixOf url.toList ||
    "https://".toList.isPrefixOf url.toList

/-- **Check the settings.** The first fault counts: the backend address,
the header that carries the caller, then the two checks. -/
def validate (settings : Settings) : Except Failure Unit :=
  if settings.server.backendUrl.isEmpty then
    .error (.settings "upstream_url is required")
  else if !isWebAddress settings.server.backendUrl then
    .error (.settings "upstream_url must start with http:// or https://")
  else if (Text.trim settings.identity.principalHeader.toList).isEmpty then
    .error (.settings "identity.principal_header must not be empty")
  else
    match settings.authorization.validate with
    | .ok () => .ok ()
    | .error cause => .error (.settings cause.message)

end Settings

end PolicyGateway.Gateway
