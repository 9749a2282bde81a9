import CellularRegistration.Record.Shape

namespace CellularRegistration

/-- The registration of a slot at one moment. -/
structure ServiceState where
  voice : RegistrationRecord
  data : RegistrationRecord
  /-- The channel bandwidth of each serving cell in kHz. -/
  cellBandwidths : List UInt32
deriving DecidableEq, Repr

namespace ServiceState

/-- The record of a domain. -/
def record (s : ServiceState) : Domain → RegistrationRecord
  | .cs => s.voice
  | .ps => s.data

/-- Whether LTE bundles several carriers, which the data registration tells. -/
def carrierAggregation (s : ServiceState) : Bool :=
  s.data.carrierAggregation

/-- The sum of some bandwidths. -/
def totalBandwidth (bandwidths : List UInt32) : Nat :=
  bandwidths.foldr (fun khz total => khz.toNat + total) 0

/-- The bandwidth of all serving cells together, in kHz. -/
def aggregateBandwidth (s : ServiceState) : Nat :=
  totalBandwidth s.cellBandwidths

/-- The fields of a service state. No bandwidths need be given. -/
def fields : Fields ServiceState :=
  .assembled
    (.required "voice" RegistrationRecord.shape <| .required "data" RegistrationRecord.shape <|
      .defaulted "cell_bandwidths" (.list (.int .uint32)) [] .empty)
    { build := fun (voice, data, bandwidths, ()) => ⟨voice, data, bandwidths⟩
      view := fun s => (s.voice, s.data, s.cellBandwidths, ()) }

/-- Service states in JSON. -/
def shape : Shape ServiceState :=
  .struct fields

end ServiceState

end CellularRegistration
