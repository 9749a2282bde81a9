import CellularRegistration.Carrier.LiveTable
import CellularRegistration.Json.Selection
import CellularRegistration.Replay.Run

namespace CellularRegistration.Replay

/-- A file that a replay asks for: its text, or why there is none. -/
structure File where
  path : String
  text : Except String String

/-- Why a replay fails. -/
inductive Failure where
  | unreadable (path reason : String)
  | config (error : RegistrationError)
  /-- The trace is no array of steps. -/
  | traceInvalid
  | traceEmpty (path : String)
  | rejected (rejection : Rejection)
deriving DecidableEq, Repr

namespace Failure

/-- The word for the payload of a domain. -/
def payloadName : Domain → String
  | .cs => "voice"
  | .ps => "data"

/-- The wording of a failure. -/
def message : Failure → String
  | unreadable path _ => "reading " ++ path
  | config error => error.message
  | traceInvalid => "parsing trace"
  | traceEmpty path => "trace " ++ path ++ " has no steps"
  | rejected rejection => "step " ++ toString rejection.step ++ ": " ++ payloadName rejection.domain

/-- The wording of what lies behind a failure, if it has a wording of its own. -/
def cause : Failure → Option String
  | unreadable _ reason => some reason
  | rejected rejection => some rejection.error.message
  | config _ | traceInvalid | traceEmpty _ => none

end Failure

/-- What a replay is asked to do. -/
structure Request where
  subId : Int32
  config : Option File
  trace : File

/-- What came of a replay: the states that it published, and why it failed, if it did. -/
structure Report where
  published : List Published
  failure : Option Failure

/-- Nothing came of a replay. -/
def Report.failed (failure : Failure) : Report :=
  ⟨[], some failure⟩

/-- The text of a file. -/
def File.read (file : File) : Except Failure String :=
  match file.text with
  | .ok text => .ok text
  | .error reason => .error (.unreadable file.path reason)

/-- The configuration of a replay; the platform's own if none is named. -/
def Request.readConfig (request : Request) : Except Failure CarrierConfig :=
  match request.config with
  | none => .ok .default
  | some file => do
    let text ← file.read
    match CarrierConfig.ofToml text with
    | .ok config => .ok config
    | .error error => .error (.config error)

/-- The families of a replay, loaded from the configuration as it is stored for the
subscription. -/
def Request.loadFamilies (request : Request) (config : CarrierConfig) :
    Except Failure FamilyTable :=
  let store := ConfigStore.empty.insert request.subId config
  match LiveTable.initial.reload store request.subId with
  | (live, .ok _) => .ok live.table
  | (_, .error error) => .error (.config error)

/-- The steps of a replay's trace. There has to be one. -/
def Request.readTrace (request : Request) : Except Failure (List TraceStep) := do
  let text ← request.trace.read
  match TraceStep.traceShape.decodeText text with
  | none => .error .traceInvalid
  | some [] => .error (.traceEmpty request.trace.path)
  | some steps => .ok steps

/-- Carries out a replay. The configuration comes first, so its errors win over those of the trace,
and all of the trace is read before any of it is replayed. -/
def Request.perform (request : Request) : Report :=
  let prepared : Except Failure (FamilyTable × List TraceStep) := do
    let config ← request.readConfig
    let table ← request.loadFamilies config
    let steps ← request.readTrace
    return (table, steps)
  match prepared with
  | .error failure => .failed failure
  | .ok (table, steps) =>
    let result := run table steps
    ⟨result.published, result.rejection.map .rejected⟩

end CellularRegistration.Replay
