import CellularRegistration.Main
import CellularRegistration.Ratchet
import CellularRegistration.Slot.Device
import CellularRegistration.Proofs.Family.Consistency
import CellularRegistration.Proofs.Ratchet.Effective
import CellularRegistration.Proofs.Ratchet.Highest
import CellularRegistration.Proofs.Ratchet.Latch
import CellularRegistration.Proofs.Replay.Repetition
import CellularRegistration.Proofs.Slot.Closing
import CellularRegistration.Proofs.Slot.Inert
import CellularRegistration.Proofs.Replay.Sources
import CellularRegistration.Proofs.Replay.Relocation
import CellularRegistration.Proofs.Ratchet.Widest
import CellularRegistration.Proofs.Record.Revisions
import CellularRegistration.Proofs.Json.KnownFields
import CellularRegistration.Proofs.Json.Order
import CellularRegistration.Proofs.Record.WellFormed
import CellularRegistration.Proofs.Json.RoundTrip
import CellularRegistration.Proofs.Json.Places
import CellularRegistration.Proofs.Json.Faithful
import CellularRegistration.Proofs.Slot.LiveFamilies
import CellularRegistration.Proofs.Ratchet.Influence
import CellularRegistration.Proofs.Slot.Isolation
import CellularRegistration.Proofs.Replay.Causality
import CellularRegistration.Proofs.Family.Acceptance
import CellularRegistration.Proofs.Record.ServingCell
import CellularRegistration.Proofs.Slot.Observers
import CellularRegistration.Proofs.Family.Classification
import CellularRegistration.Proofs.Family.Spacing
