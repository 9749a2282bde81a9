import CellularRegistration.Cell.Reported

namespace CellularRegistration

/-- The names of an operator, as far as they are known. -/
structure OperatorNames where
  alphaLong : Option String
  alphaShort : Option String
deriving DecidableEq, Repr

namespace OperatorNames

/-- No names. -/
def unknown : OperatorNames :=
  ⟨none, none⟩

/-- A name, unless it is empty. -/
def nonEmpty (name : String) : Option String :=
  if name = "" then none else some name

/-- The names in a report that are not empty. -/
def ofReported (names : ReportedNames) : OperatorNames :=
  ⟨nonEmpty names.alphaLong, nonEmpty names.alphaShort⟩

end OperatorNames

/-- What a registration keeps of its serving cell. -/
inductive CellIdentity where
  | gsm (mcc mnc : Option String) (site : GsmSite) (operator : OperatorNames)
  | wcdma (mcc mnc : Option String) (site : WcdmaSite) (operator : OperatorNames)
  | tdscdma (mcc mnc : Option String) (site : TdscdmaSite) (operator : OperatorNames)
  | lte (mcc mnc : Option String) (site : LteSite) (bandwidthKhz : Option UInt32)
      (operator : OperatorNames)
  | nr (mcc mnc : Option String) (site : NrSite) (operator : OperatorNames)
  | cdma (site : CdmaSite) (operator : OperatorNames)
deriving DecidableEq, Repr

namespace CellIdentity

/-- The mobile country code. -/
def mcc : CellIdentity → Option String
  | gsm mcc _ _ _ | wcdma mcc _ _ _ | tdscdma mcc _ _ _ | lte mcc _ _ _ _ | nr mcc _ _ _ => mcc
  | cdma _ _ => none

/-- The mobile network code. -/
def mnc : CellIdentity → Option String
  | gsm _ mnc _ _ | wcdma _ mnc _ _ | tdscdma _ mnc _ _ | lte _ mnc _ _ _ | nr _ mnc _ _ => mnc
  | cdma _ _ => none

/-- The names of the cell's operator. -/
def operator : CellIdentity → OperatorNames
  | gsm _ _ _ names | wcdma _ _ _ names | tdscdma _ _ _ names | lte _ _ _ _ names
  | nr _ _ _ names | cdma _ names => names

/-- Whether the cell belongs to a CDMA network, which has no country and network codes. -/
def isCdma : CellIdentity → Bool
  | cdma _ _ => true
  | _ => false

/-- The public land mobile network (PLMN) of a cell: its country code and network code together, if
both are known. -/
def plmn (cell : CellIdentity) : Option String :=
  match cell.mcc, cell.mnc with
  | some mcc, some mnc => if mcc = "" ∨ mnc = "" then none else some (mcc ++ mnc)
  | _, _ => none

/-- The network of a cell, or an empty text where there is no cell or no network known. -/
def plmnOrEmpty (cell : Option CellIdentity) : String :=
  (cell.bind plmn).getD ""

/-- A text of ASCII digits, as many as `fits` allows. -/
def wellFormedCode (fits : Nat → Bool) (code : String) : Option String :=
  if fits code.toList.length && code.toList.all Char.isDigit then some code else none

/-- A country code has three digits. -/
def countryCode (code : String) : Option String :=
  wellFormedCode (· == 3) code

/-- A network code has two or three digits. -/
def networkCode (code : String) : Option String :=
  wellFormedCode (fun n => n == 2 || n == 3) code

/-- The identity of a reported cell, with these operator names and this bandwidth. Only an LTE cell
keeps the bandwidth. -/
def identify (cell : ReportedCell) (names : OperatorNames) (bandwidthKhz : Option UInt32) :
    CellIdentity :=
  match cell with
  | .gsm mcc mnc site => gsm (countryCode mcc) (networkCode mnc) site names
  | .wcdma mcc mnc site => wcdma (countryCode mcc) (networkCode mnc) site names
  | .tdscdma mcc mnc site => tdscdma (countryCode mcc) (networkCode mnc) site names
  | .lte mcc mnc site => lte (countryCode mcc) (networkCode mnc) site bandwidthKhz names
  | .nr mcc mnc site => nr (countryCode mcc) (networkCode mnc) site names
  | .cdma site => cdma site names

/-- The identity of a cell of which only codes and site are reported. -/
def ofReported (cell : ReportedCell) : CellIdentity :=
  identify cell .unknown none

/-- A bandwidth, if it is positive. -/
def positiveBandwidth (khz : Int32) : Option UInt32 :=
  if 0 < khz.toInt then some (UInt32.ofNat khz.toInt.toNat) else none

/-- The identity of a cell that is reported with operator names and bandwidth. -/
def ofDetailed (cell : DetailedCell) : CellIdentity :=
  identify cell.cell (.ofReported cell.operatorNames) (positiveBandwidth cell.bandwidthKhz)

end CellIdentity

end CellularRegistration
