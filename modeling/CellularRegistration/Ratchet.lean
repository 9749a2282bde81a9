import CellularRegistration.Family.Table
import CellularRegistration.Record.ServiceState

namespace CellularRegistration

/-- For each domain, whether its technology is kept from going down. -/
structure Latches where
  voice : Bool
  data : Bool
deriving DecidableEq, Repr

namespace Latches

/-- Both latches on, as at the start. -/
def armed : Latches :=
  ⟨true, true⟩

/-- Both latches off. -/
def disarmed : Latches :=
  ⟨false, false⟩

/-- The latch of a domain. -/
def ofDomain (latches : Latches) : Domain → Bool
  | .cs => latches.voice
  | .ps => latches.data

end Latches

/-- What the ratchet did to a reported state. -/
structure RatchetOutcome where
  /-- The data technologies belong together. -/
  sameFamily : Bool
  bandwidthsUpdated : Bool
  voiceHeld : Bool
  dataHeld : Bool
deriving DecidableEq, Repr

/-- The report was left as it is. -/
def RatchetOutcome.untouched : RatchetOutcome :=
  ⟨false, false, false, false⟩

namespace ServiceState

/-- The data technology, where LTE with carrier aggregation counts as a technology of its own. -/
def effectiveDataTechnology (s : ServiceState) : RadioTechnology :=
  if s.data.technology = .lte ∧ s.carrierAggregation then .lteCa else s.data.technology

/-- Takes over bandwidths whose sum is larger than that of the state's own. -/
def widen (s : ServiceState) (bandwidths : List UInt32) : ServiceState :=
  if s.aggregateBandwidth < totalBandwidth bandwidths then { s with cellBandwidths := bandwidths }
  else s

end ServiceState

namespace FamilyTable

/-- Whether two technologies are equal or of one family. -/
def related (table : FamilyTable) (a b : RadioTechnology) : Bool :=
  a == b || table.sameFamily a b

/-- Whether the first rank is above the second; no rank is below all others. -/
def outranks : Option Nat → Option Nat → Bool
  | some a, some b => b < a
  | some _, none => true
  | none, _ => false

/-- The old technology if it ranks above the new one in their common family, and otherwise the
new one. -/
def higher (table : FamilyTable) (old new : RadioTechnology) : RadioTechnology :=
  match table.familyOf old with
  | none => new
  | some family =>
    if table.sameFamily old new && outranks (family.rank old) (family.rank new) then old else new

end FamilyTable

namespace Ratchet

/-- A record that went through the ratchet. -/
structure Ratcheted where
  armed : Bool
  record : RegistrationRecord
  /-- The old technology was put in the place of the reported one. -/
  held : Bool
deriving DecidableEq, Repr

/-- Ratchets the record of one domain. Without its latch a record stays as it is, and a change of
technology turns the latch on. With it, carrier aggregation is kept, and so is the old technology
if it ranks higher. -/
def ratchetRecord (table : FamilyTable) (armed : Bool) (old new : RegistrationRecord) :
    Ratcheted :=
  if armed then
    let technology := table.higher old.technology new.technology
    { armed := true
      record :=
        { new with
          technology
          carrierAggregation := old.carrierAggregation || new.carrierAggregation }
      held := technology != new.technology }
  else
    { armed := old.technology != new.technology
      record := new
      held := false }

/-- A state that went through the ratchet. -/
structure Step where
  latches : Latches
  state : ServiceState
  outcome : RatchetOutcome
deriving DecidableEq, Repr

/-- Ratchets a reported state against the one published before. A change of location turns both
latches off and leaves the report as it is, and so does, but for the latches, a change of the data
technology to one that is unrelated. -/
def step (table : FamilyTable) (latches : Latches) (old new : ServiceState)
    (locationChanged : Bool) : Step :=
  if locationChanged then ⟨.disarmed, new, .untouched⟩
  else if table.related old.effectiveDataTechnology new.effectiveDataTechnology then
    let voice := ratchetRecord table latches.voice old.voice new.voice
    let data := ratchetRecord table latches.data old.data new.data
    { latches := ⟨voice.armed, data.armed⟩
      state :=
        { voice := voice.record
          data := data.record
          cellBandwidths := (new.widen old.cellBandwidths).cellBandwidths }
      outcome :=
        { sameFamily := true
          bandwidthsUpdated :=
            decide (new.aggregateBandwidth < ServiceState.totalBandwidth old.cellBandwidths)
          voiceHeld := voice.held
          dataHeld := data.held } }
  else ⟨latches, new, .untouched⟩

end Ratchet

end CellularRegistration
