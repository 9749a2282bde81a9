import CellularRegistration.Ratchet
import CellularRegistration.Record.Normalize
import CellularRegistration.Replay.Trace

namespace CellularRegistration.Replay

/-- A published state, the number of its step, and what the ratchet did to it. -/
structure Published where
  step : Nat
  state : ServiceState
  outcome : Option RatchetOutcome
deriving DecidableEq, Repr

/-- A payload that ended a replay. -/
structure Rejection where
  step : Nat
  domain : Domain
  error : RegistrationError
deriving DecidableEq, Repr

/-- What a replay has come to before a step. -/
structure Progress where
  step : Nat
  latches : Latches
  published : Option ServiceState
deriving DecidableEq, Repr

/-- Before the first step. -/
def Progress.initial : Progress :=
  ⟨0, .armed, none⟩

/-- What a replay publishes, and why it ended before the trace did, if so. -/
structure Result where
  published : List Published
  rejection : Option Rejection
deriving DecidableEq, Repr

/-- The record of a step's payload for a domain. -/
def recordOf (step : Nat) (payload : Payload) (domain : Domain) :
    Except Rejection RegistrationRecord :=
  match payload.normalize domain with
  | .ok record => .ok record
  | .error error => .error ⟨step, domain, error⟩

/-- The state that a step reports. Its voice payload is looked at first. -/
def reportedState (step : Nat) (trace : TraceStep) : Except Rejection ServiceState :=
  match recordOf step trace.voice .cs with
  | .error rejection => .error rejection
  | .ok voice =>
    match recordOf step trace.data .ps with
    | .error rejection => .error rejection
    | .ok data => .ok ⟨voice, data, trace.cellBandwidths⟩

/-- Publishes a reported state, ratcheted against the one that was published before. The first one
has nothing to be ratcheted against. -/
def publish (table : FamilyTable) (before : Progress) (reported : ServiceState)
    (locationChanged : Bool) : Published × Progress :=
  match before.published with
  | none => (⟨before.step, reported, none⟩, ⟨before.step + 1, before.latches, some reported⟩)
  | some old =>
    let ratcheted := Ratchet.step table before.latches old reported locationChanged
    (⟨before.step, ratcheted.state, some ratcheted.outcome⟩,
      ⟨before.step + 1, ratcheted.latches, some ratcheted.state⟩)

/-- Replays the rest of a trace. A payload that does not answer for its domain ends the replay at
its step; what was published before stays published. -/
def runFrom (table : FamilyTable) (before : Progress) : List TraceStep → Result
  | [] => ⟨[], none⟩
  | trace :: rest =>
    match reportedState before.step trace with
    | .error rejection => ⟨[], some rejection⟩
    | .ok reported =>
      let (published, after) := publish table before reported trace.locationChanged
      let result := runFrom table after rest
      ⟨published :: result.published, result.rejection⟩

/-- Replays a trace. -/
def run (table : FamilyTable) (trace : List TraceStep) : Result :=
  runFrom table .initial trace

/-- The line that shows a published state. -/
def Published.toJson (p : Published) : Json :=
  let outcome (f : RatchetOutcome → Bool) : Json :=
    (p.outcome.map fun o => Json.bool (f o)).getD .null
  .obj
    [("step", .int p.step),
      ("voice_rat", .str p.state.voice.technology.keyword),
      ("data_rat", .str p.state.data.technology.keyword),
      ("carrier_aggregation", .bool p.state.carrierAggregation),
      ("cell_bandwidths", .arr (p.state.cellBandwidths.map fun khz => .int khz.toNat)),
      ("same_family", outcome RatchetOutcome.sameFamily),
      ("voice_held", outcome RatchetOutcome.voiceHeld),
      ("data_held", outcome RatchetOutcome.dataHeld),
      ("bandwidths_updated", outcome RatchetOutcome.bandwidthsUpdated),
      ("state", ServiceState.shape.write p.state)]

end CellularRegistration.Replay
