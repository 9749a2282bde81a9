import CellularRegistration.Cell.Site

namespace CellularRegistration

/-- A cell in a report up to revision 1.0. Where its network has a country code and a network code,
they are as the modem wrote them. -/
inductive ReportedCell where
  | gsm (mcc mnc : String) (site : GsmSite)
  | wcdma (mcc mnc : String) (site : WcdmaSite)
  | tdscdma (mcc mnc : String) (site : TdscdmaSite)
  | lte (mcc mnc : String) (site : LteSite)
  | nr (mcc mnc : String) (site : NrSite)
  | cdma (site : CdmaSite)
deriving DecidableEq, Repr

/-- The names of an operator in a report; empty where the modem knows none. -/
structure ReportedNames where
  alphaLong : String
  alphaShort : String
deriving DecidableEq, Repr

/-- No names. -/
def ReportedNames.none : ReportedNames :=
  ⟨"", ""⟩

/-- A cell in a report from revision 1.2 on, which adds operator names and a bandwidth. -/
structure DetailedCell where
  cell : ReportedCell
  operatorNames : ReportedNames
  /-- The channel bandwidth of an LTE cell in kHz; zero if unknown. -/
  bandwidthKhz : Int32
deriving DecidableEq, Repr

/-- A cell of which nothing more is known. -/
def DetailedCell.plain (cell : ReportedCell) : DetailedCell :=
  ⟨cell, .none, 0⟩

end CellularRegistration
