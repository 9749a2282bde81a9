import CellularRegistration.Cell.Reported
import CellularRegistration.Payload.Revision

namespace CellularRegistration

/-- A report on the voice registration, up to revision 1.2. -/
structure VoiceReport (Cell : Type) where
  regState : Int32
  rat : Int32
  cssSupported : Bool
  roamingIndicator : Int32
  systemIsInPrl : Int32
  defaultRoamingIndicator : Int32
  reasonForDenial : Int32
  cellIdentity : Option Cell
deriving DecidableEq, Repr

/-- A report on the data registration, up to revision 1.2. -/
structure DataReport (Cell : Type) where
  regState : Int32
  rat : Int32
  reasonDataDenied : Int32
  maxDataCalls : Int32
  cellIdentity : Option Cell
deriving DecidableEq, Repr

/-- What an LTE network says of calls over packet switching. -/
structure VopsFlags where
  isVopsSupported : Bool
  isEmcBearerSupported : Bool
deriving DecidableEq, Repr

/-- Neither is said to be supported. -/
def VopsFlags.unset : VopsFlags :=
  ⟨false, false⟩

/-- What a network says of 5G service. -/
structure NrIndicators where
  isEndcAvailable : Bool
  isDcNrRestricted : Bool
  isNrAvailable : Bool
deriving DecidableEq, Repr

/-- Nothing is said to hold. -/
def NrIndicators.unset : NrIndicators :=
  ⟨false, false, false⟩

/-- A report on the data registration of revision 1.4. -/
structure ExtendedDataReport where
  base : DataReport DetailedCell
  /-- What the network says of calls over packet switching, if anything. -/
  vops : Option VopsFlags
  nrIndicators : NrIndicators
deriving DecidableEq, Repr

/-- What a unified report says of a CDMA network. -/
structure CdmaInfo where
  cssSupported : Bool
  roamingIndicator : Int32
  systemIsInPrl : Int32
  defaultRoamingIndicator : Int32
deriving DecidableEq, Repr

/-- Nothing is said. -/
def CdmaInfo.unset : CdmaInfo :=
  ⟨false, 0, 0, 0⟩

/-- What a unified report says of an LTE network. -/
structure EutranInfo where
  vops : VopsFlags
  nrIndicators : NrIndicators
deriving DecidableEq, Repr

/-- What a unified report says of the network that is particular to its kind. -/
inductive NetworkInfo where
  | absent
  | cdma (info : CdmaInfo)
  | eutran (info : EutranInfo)
deriving DecidableEq, Repr

/-- A report of revision 1.5, on either registration. -/
structure UnifiedReport where
  regState : Int32
  rat : Int32
  reasonForDenial : Int32
  cellIdentity : Option DetailedCell
  /-- The network registered with; empty if the modem leaves it to the cell. -/
  registeredPlmn : String
  networkInfo : NetworkInfo
deriving DecidableEq, Repr

/-- A registration report of any revision: what a radio answers to a request for one domain. Numbers
keep the modem's encoding. -/
inductive Payload where
  | unified (report : UnifiedReport)
  | voiceV10 (report : VoiceReport ReportedCell)
  | voiceV12 (report : VoiceReport DetailedCell)
  | dataV10 (report : DataReport ReportedCell)
  | dataV12 (report : DataReport DetailedCell)
  | dataV14 (report : ExtendedDataReport)
deriving DecidableEq, Repr

/-- The revision of a report. -/
def Payload.revision : Payload → Payload.Revision
  | unified _ => .unified
  | voiceV10 _ => .voiceV10
  | voiceV12 _ => .voiceV12
  | dataV10 _ => .dataV10
  | dataV12 _ => .dataV12
  | dataV14 _ => .dataV14

end CellularRegistration
