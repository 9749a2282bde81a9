import CellularRegistration.Payload.Shape

namespace CellularRegistration

/-- A step of a trace: what a radio reported for both domains, the bandwidths of the serving cells,
and whether the device had moved. -/
structure TraceStep where
  voice : Payload
  data : Payload
  cellBandwidths : List UInt32
  locationChanged : Bool
deriving DecidableEq, Repr

namespace TraceStep

/-- The fields of a step. Without bandwidths there are none, and without a word on the location it
is the same. -/
def fields : Fields TraceStep :=
  .assembled
    (.required "voice" Payload.shape <| .required "data" Payload.shape <|
      .defaulted "cell_bandwidths" (.list (.int .uint32)) [] <|
      .defaulted "location_changed" .flag false .empty)
    { build := fun (voice, data, bandwidths, moved, ()) => ⟨voice, data, bandwidths, moved⟩
      view := fun s => (s.voice, s.data, s.cellBandwidths, s.locationChanged, ()) }

/-- Traces in JSON: an array of steps. -/
def traceShape : Shape (List TraceStep) :=
  .list (.struct fields)

end TraceStep

end CellularRegistration
