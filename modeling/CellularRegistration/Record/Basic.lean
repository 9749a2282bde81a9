import CellularRegistration.Cell.Identity
import CellularRegistration.RegistrationState
import CellularRegistration.Technology
import CellularRegistration.VopsSupport

namespace CellularRegistration

/-- What a record of the circuit-switched domain adds: the state of a CDMA network. -/
structure VoiceInfo where
  cssSupported : Bool
  roamingIndicator : Int32
  systemIsInPrl : Int32
  defaultRoamingIndicator : Int32
deriving DecidableEq, Repr

/-- What a record of the packet-switched domain adds. -/
structure DataInfo where
  maxDataCalls : Int32
  isDcNrRestricted : Bool
  isNrAvailable : Bool
  isEndcAvailable : Bool
  vopsSupport : VopsSupport
deriving DecidableEq, Repr

/-- What a record adds for its domain. -/
inductive DomainInfo where
  | cs (info : VoiceInfo)
  | ps (info : DataInfo)
deriving DecidableEq, Repr

/-- The domain that an extension is for. -/
def DomainInfo.domain : DomainInfo → Domain
  | cs _ => .cs
  | ps _ => .ps

/-- A registration of one domain, whatever the revision of the report that it comes from. -/
structure RegistrationRecord where
  transport : Transport
  state : RegistrationState
  technology : RadioTechnology
  rejectCause : Int32
  emergencyOnly : Bool
  availableServices : List ServiceKind
  cellIdentity : Option CellIdentity
  /-- The network registered with; empty if it is not known. -/
  registeredPlmn : String
  /-- Whether LTE bundles several carriers. -/
  carrierAggregation : Bool
  extension : DomainInfo
deriving DecidableEq, Repr

namespace RegistrationRecord

/-- The domain of a record, which is that of its extension. -/
def domain (r : RegistrationRecord) : Domain :=
  r.extension.domain

/-- What a record adds for the circuit-switched domain. -/
def voiceInfo (r : RegistrationRecord) : Option VoiceInfo :=
  match r.extension with
  | .cs info => some info
  | .ps _ => none

/-- What a record adds for the packet-switched domain. -/
def dataInfo (r : RegistrationRecord) : Option DataInfo :=
  match r.extension with
  | .cs _ => none
  | .ps info => some info

end RegistrationRecord

end CellularRegistration
