import PolicyGateway.Gateway.Launch

/-!
# The command line

The outer layer: it reads the settings file that the command names and the
environment, and writes what the launch leaves behind. Connections are not
opened here, so a launch that gets as far as its address ends there.
-/

namespace PolicyGateway.CommandLine

open PolicyGateway.Gateway
open PolicyGateway.Record (FileContent)

/-- The reason for which the system refuses a file. -/
def reasonOf : IO.Error → String
  | .noFileOrDirectory _ _ _ => "No such file or directory (os error 2)"
  | .permissionDenied _ _ _ => "Permission denied (os error 13)"
  | .inappropriateType _ _ _ => "Is a directory (os error 21)"
  | failure => toString failure

/-- What the system gives for a file. -/
def contentOf (path : String) : IO FileContent := do
  try
    let bytes ← IO.FS.readBinFile path
    return .bytes bytes.toList
  catch failure => return .refused (reasonOf failure)

/-- The variables of the environment that are set. -/
def environment : IO (List (String × String)) := do
  let mut found := []
  for name in Launch.variableNames do
    if let some value ← IO.getEnv name then
      found := (name, value) :: found
  return found

/-- Write what the program leaves behind. -/
def finish (ending : Ending) : IO UInt32 := do
  IO.print ending.output
  for entry in ending.logs do
    IO.println entry.toJson.toText
  IO.eprint ending.errors
  return .ofNat ending.exitCode

end PolicyGateway.CommandLine

open PolicyGateway.CommandLine PolicyGateway.Gateway in
/-- Run the gateway's program. -/
def main (arguments : List String) : IO UInt32 := do
  let command := Command.ofArguments arguments
  let content ←
    match command with
    | .serve (some path) => contentOf path
    | _ => pure (.bytes [])
  let found ← environment
  let lookup (name : String) : Option String := found.lookup name
  match Launch.ofCommand command (fun _ => content) lookup with
  | .ends ending => finish ending
  | .runs service _ filter =>
    finish (Launch.unbound service filter "connections are not supported")
