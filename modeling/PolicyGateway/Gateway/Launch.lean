import PolicyGateway.Gateway.ListenAddress
import PolicyGateway.Gateway.LogFilter
import PolicyGateway.Gateway.Service

/-!
# Launching the gateway

The command line asks for help, for the version, or for the service, perhaps
with a settings file; the arguments are looked at in their order, and the
first one that settles the matter does. Before the service runs, its
settings are loaded and checked, the log filter is set, and the address to
listen on is read. What goes wrong on the way ends the program with a text
or with a log entry: a text on the error output as long as there is no log, and an
entry afterwards.
-/

namespace PolicyGateway.Gateway

open PolicyGateway.Json (Value)
open PolicyGateway.Record (FileContent)

/-- **What the command line asks for.** Whatever is not understood is a failure
and never serves. -/
inductive Command where
  /-- The help text. -/
  | help
  /-- The version. -/
  | version
  /-- Nothing that is known: this argument is not. -/
  | unknown (argument : String)
  /-- The service, perhaps with a settings file. -/
  | serve (settingsPath : Option String)
  deriving Repr, DecidableEq

namespace Command

/-- The command of the arguments that are left, behind the settings file
found so far. -/
def ofRest (settingsPath : Option String) : List String → Command
  | [] => serve settingsPath
  | [argument] =>
    if argument = "--config" ∨ argument = "-c" then serve none
    else if argument = "--help" ∨ argument = "-h" then help
    else if argument = "--version" ∨ argument = "-v" then version
    else unknown argument
  | argument :: next :: rest =>
    if argument = "--config" ∨ argument = "-c" then ofRest (some next) rest
    else if argument = "--help" ∨ argument = "-h" then help
    else if argument = "--version" ∨ argument = "-v" then version
    else unknown argument

/-- **The command of these arguments.** -/
def ofArguments (arguments : List String) : Command :=
  ofRest none arguments

end Command

/-- **An entry of the log.** It is kept as data until a filter has decided
whether it is written. -/
structure LogEntry where
  /-- The level. -/
  level : LogLevel
  /-- The message. -/
  message : String
  /-- The other fields. -/
  fields : List (String × Value)

namespace LogEntry

/-- The part of the program that writes entries. -/
def target : String := "tollgate_sidecar"

/-- All fields of an entry, the message among them. -/
def allFields (entry : LogEntry) : List (String × Value) :=
  ("message", .text entry.message) :: entry.fields

/-- What a filter looks at. -/
def point (entry : LogEntry) : LogPoint :=
  { level := entry.level, target
    fields := entry.allFields.map Prod.fst }

/-- The entry as a JSON value. -/
def toJson (entry : LogEntry) : Value :=
  .object [("level", .text entry.level.name),
    ("fields", .object entry.allFields), ("target", .text target)]

/-- The entry as a line that is easy to read. -/
def plainLine (entry : LogEntry) : String :=
  "  " ++ entry.level.name ++ " " ++ target ++ ": " ++ entry.message ++
    String.join (entry.fields.map fun (name, value) =>
      ", " ++ name ++ ": " ++ value.toText)

end LogEntry

/-- **What the program leaves behind** when it ends. Everything that can be seen
of a program from outside once it is gone. -/
structure Ending where
  /-- The exit code. -/
  exitCode : Nat
  /-- What was written to standard output, log lines of JSON apart. -/
  output : String := ""
  /-- What was written to standard error. -/
  errors : String := ""
  /-- The log entries that were written as lines of JSON. -/
  logs : List LogEntry := []

/-- **How a launch goes on.** It ends at once or it serves, and what it would
serve with is then settled. -/
inductive Launch where
  /-- The program ends. -/
  | ends (ending : Ending)
  /-- The service is to run at an address, with a log filter. -/
  | runs (service : Service) (address : ListenAddress) (filter : LogFilter)

namespace Launch

/-- The name of the program. -/
def programName : String := "tollgate-sidecar"

/-- The options, as the help text lists them. -/
def optionLines : List String :=
  ["-c, --config <PATH>    Path to configuration file (TOML or JSON)",
    "-h, --help             Print help information",
    "-v, --version          Print version information"]

/-- The variables, as the help text lists them. -/
def variableLines : List String :=
  ["TOLLGATE_LISTEN_PORT        Listen port (default: 8080)",
    "TOLLGATE_UPSTREAM_URL       Upstream service URL " ++
      "(default: http://localhost:3000)",
    "TOLLGATE_UPSTREAM_TIMEOUT   Upstream timeout, e.g. 30s or 1500ms " ++
      "(default: 30s)",
    "TOLLGATE_PRINCIPAL_HEADER   Header carrying the caller identity " ++
      "(default: x-caller-identity)",
    "TOLLGATE_METRICS_PORT       Dedicated Prometheus port " ++
      "(default: served on /_tollgate/metrics)",
    "TOLLGATE_LOG_LEVEL          Log filter when RUST_LOG is unset " ++
      "(default: info)"]

/-- The signals, as the help text lists them. -/
def signalLines : List String :=
  ["SIGHUP    Reload authorization rules from the configuration file"]

/-- A section of the help text, with an empty line behind it. -/
def helpSection (title : String) (lines : List String) : String :=
  title ++ ":\n" ++ String.join (lines.map fun line => "    " ++ line ++ "\n")
    ++ "\n"

/-- The help text. -/
def helpText : String :=
  "Tollgate sidecar - authorizing reverse proxy\n\n" ++
    helpSection "USAGE" [programName ++ " [OPTIONS]"] ++
    helpSection "OPTIONS" optionLines ++
    helpSection "ENVIRONMENT VARIABLES" variableLines ++
    helpSection "SIGNALS" signalLines

/-- The variable whose log filter comes before the one of the settings. -/
def filterVariable : String := "RUST_LOG"

/-- **The variables of the environment** that a launch looks at. -/
def variableNames : List String :=
  ["TOLLGATE_LISTEN_PORT", "TOLLGATE_UPSTREAM_URL",
    "TOLLGATE_UPSTREAM_TIMEOUT", "TOLLGATE_PRINCIPAL_HEADER",
    "TOLLGATE_METRICS_PORT", "TOLLGATE_LOG_LEVEL", filterVariable]

/-- **Load the settings**, override them from the environment and check
them. -/
def loadSettings (file : Option (String × FileContent))
    (environment : String → Option String) : Except Failure Settings := do
  let settings ←
    match file with
    | some (path, content) => Settings.load path content
    | none => .ok {}
  let settings := settings.override environment
  settings.validate
  return settings

/-- **The log filter**: the one of the environment if it can be read, else
the one of the settings. -/
def filterOf (settings : TelemetrySettings)
    (environment : String → Option String) : Except Failure LogFilter :=
  match (environment filterVariable).bind LogFilter.parse? with
  | some filter => .ok filter
  | none =>
    match LogFilter.parse? settings.logLevel with
    | some filter => .ok filter
    | none => .error (.settings "invalid log level")

/-- **The address to listen on.** -/
def addressOf (settings : ServerSettings) : Except Failure ListenAddress :=
  match ListenAddress.parse? settings.listenAddr with
  | some address => .ok address
  | none => .error (.settings ListenAddress.complaint)

/-- The first entry of the log: what is being started. -/
def startEntry (settings : Settings) : LogEntry :=
  { level := .info
    message := "starting Tollgate sidecar"
    fields :=
      [("version", .text version),
        ("listen", .text (settings.server.listenAddr ++ ":" ++
          toString settings.server.listenPort.toNat)),
        ("upstream", .text settings.server.backendUrl),
        ("coarse", .boolean settings.authorization.resources.isActive),
        ("fine_grain", .boolean settings.authorization.rulesets.isActive)] }

/-- The last entry of the log of a program that failed. -/
def failureEntry (message : String) (failure : Failure) : LogEntry :=
  { level := .error, message, fields := [("error", .text failure.message)] }

/-- **What the program leaves behind when it fails** after it has begun to
write its log. -/
def failed (settings : Settings) (filter : LogFilter) (message : String)
    (failure : Failure) : Ending :=
  let shown := [startEntry settings, failureEntry message failure].filter
    fun entry => filter.shows entry.point
  if settings.telemetry.jsonLogs then { exitCode := 1, logs := shown }
  else
    { exitCode := 1
      output := String.join (shown.map fun entry => entry.plainLine ++ "\n") }

/-- **Launch with these settings.** -/
def withSettings (settings : Settings) (filter : LogFilter) : Launch :=
  match Service.ofSettings settings with
  | .error failure =>
    .ends (failed settings filter "failed to create server" failure)
  | .ok service =>
    match addressOf settings.server with
    | .error failure => .ends (failed settings filter "server error" failure)
    | .ok address => .runs service address filter

/-- What the program leaves behind when the system refuses the address. -/
def unbound (service : Service) (filter : LogFilter) (reason : String) :
    Ending :=
  failed service.settings filter "server error"
    (.server ("failed to bind: " ++ reason))

/-- **Launch the service.** -/
def serve (file : Option (String × FileContent))
    (environment : String → Option String) : Launch :=
  match loadSettings file environment with
  | .error failure =>
    .ends { exitCode := 1
            errors := "Invalid configuration: " ++ failure.message ++ "\n" }
  | .ok settings =>
    match filterOf settings.telemetry environment with
    | .error failure =>
      .ends { exitCode := 1, errors := failure.message ++ "\n" }
    | .ok filter => withSettings settings filter

/-- **Carry out a command**, where the settings file has been read. -/
def ofCommand (command : Command) (content : String → FileContent)
    (environment : String → Option String) : Launch :=
  match command with
  | .help => .ends { exitCode := 0, output := helpText }
  | .version =>
    .ends { exitCode := 0, output := programName ++ " " ++ version ++ "\n" }
  | .unknown argument =>
    .ends { exitCode := 1
            errors := "Unknown argument: " ++ argument ++
              "\nUse --help for usage information\n" }
  | .serve path =>
    serve (path.map fun path => (path, content path)) environment

end Launch

end PolicyGateway.Gateway
