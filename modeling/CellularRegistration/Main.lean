import CellularRegistration.Json.Printer
import CellularRegistration.Replay.Arguments
import CellularRegistration.Replay.Session

namespace CellularRegistration.Replay

/-- How the command is used. -/
def usage : String :=
  "Usage: cellular-registration-replay [OPTIONS] <TRACE>\n\n" ++
    "Arguments:\n" ++
    "  <TRACE>  JSON trace: an array of steps\n\n" ++
    "Options:\n" ++
    "      --carrier-config <CARRIER_CONFIG>  Carrier config TOML. Platform default RAT " ++
    "families when omitted\n" ++
    "      --sub-id <SUB_ID>                  Subscription id the carrier config is stored " ++
    "under [default: 1]\n" ++
    "  -h, --help                             Print help\n"

/-- The text of a file, or why it cannot be read. -/
def readText (path : String) : IO File := do
  try
    return ⟨path, .ok (← IO.FS.readFile path)⟩
  catch error =>
    let reason :=
      match error with
      | .noFileOrDirectory _ _ _ => "No such file or directory (os error 2)"
      | .permissionDenied _ _ _ => "Permission denied (os error 13)"
      | .inappropriateType _ _ _ => "Is a directory (os error 21)"
      | .userError _ => "stream did not contain valid UTF-8"
      | error => toString error
    return ⟨path, .error reason⟩

/-- Replays a trace and prints what it publishes. -/
def replay (arguments : Arguments) : IO UInt32 := do
  let config ← arguments.config.mapM readText
  let trace ← readText arguments.trace
  let report := Request.perform ⟨arguments.subId, config, trace⟩
  for published in report.published do
    IO.println published.toJson.sorted.render
  match report.failure with
  | none => return 0
  | some failure =>
    IO.eprintln ("Error: " ++ failure.message)
    if let some cause := failure.cause then
      IO.eprintln ("\nCaused by:\n    " ++ cause)
    return 1

end CellularRegistration.Replay

open CellularRegistration.Replay in
/-- Replays the trace that the arguments name. The exit status is 0 if the whole trace was replayed,
1 if the replay failed, and 2 if the arguments make no sense. -/
def main (arguments : List String) : IO UInt32 :=
  match Invocation.ofArguments arguments with
  | .help => do
    IO.print usage
    return 0
  | .misuse reason => do
    IO.eprint ("error: " ++ reason ++ "\n\n" ++ usage)
    return 2
  | .replay arguments => replay arguments
