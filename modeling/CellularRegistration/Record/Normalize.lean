import CellularRegistration.Error
import CellularRegistration.Payload.Report
import CellularRegistration.Record.Basic

namespace CellularRegistration

/-- The record of a domain from what all revisions report. Its network is that of the cell. -/
def RegistrationRecord.ofReported (domain : Domain) (regState rat rejectCause : Int32)
    (cell : Option CellIdentity) (extension : DomainInfo) : RegistrationRecord :=
  let state := RegistrationState.ofReported regState
  let emergencyOnly := RegistrationState.isEmergencyOnly regState
  { transport := .wwan
    state
    technology := .ofReported rat
    rejectCause
    emergencyOnly
    availableServices := CellularRegistration.availableServices state domain emergencyOnly
    cellIdentity := cell
    registeredPlmn := CellIdentity.plmnOrEmpty cell
    carrierAggregation := false
    extension }

/-- What is known of calls over packet switching: what the network said, if it is an LTE network. -/
def VopsSupport.ofReported (rat : Int32) (flags : Option VopsFlags) : VopsSupport :=
  match flags with
  | some flags =>
    if (RadioTechnology.ofReported rat).accessNetwork = .eutran then
      .ofFlags flags.isVopsSupported flags.isEmcBearerSupported
    else .notAvailable
  | none => .notAvailable

/-- The extension of a record from what the network says of 5G service and of calls. -/
def DataInfo.ofReported (maxDataCalls : Int32) (indicators : NrIndicators) (vops : VopsSupport) :
    DataInfo where
  maxDataCalls
  isDcNrRestricted := indicators.isDcNrRestricted
  isNrAvailable := indicators.isNrAvailable
  isEndcAvailable := indicators.isEndcAvailable
  vopsSupport := vops

/-- The record of a voice report. -/
def VoiceReport.normalize {Cell : Type} (identify : Cell → CellIdentity)
    (report : VoiceReport Cell) : RegistrationRecord :=
  .ofReported .cs report.regState report.rat report.reasonForDenial
    (report.cellIdentity.map identify)
    (.cs
      { cssSupported := report.cssSupported
        roamingIndicator := report.roamingIndicator
        systemIsInPrl := report.systemIsInPrl
        defaultRoamingIndicator := report.defaultRoamingIndicator })

/-- The record of a data report, to which later revisions add what the network says of 5G service
and of calls. -/
def DataReport.normalize {Cell : Type} (identify : Cell → CellIdentity) (report : DataReport Cell)
    (indicators : NrIndicators) (vops : Option VopsFlags) : RegistrationRecord :=
  .ofReported .ps report.regState report.rat report.reasonDataDenied
    (report.cellIdentity.map identify)
    (.ps (.ofReported report.maxDataCalls indicators (.ofReported report.rat vops)))

namespace UnifiedReport

/-- The number of data calls that a unified report leaves unsaid: the most that a device may
hold. -/
def maxDataCalls : Int32 := 16

/-- The extension of a unified report's record. What the report says of another kind of network
does not count. -/
def extension (report : UnifiedReport) : Domain → DomainInfo
  | .cs =>
    let info :=
      match report.networkInfo with
      | .cdma info => info
      | _ => .unset
    .cs
      { cssSupported := info.cssSupported
        roamingIndicator := info.roamingIndicator
        systemIsInPrl := info.systemIsInPrl
        defaultRoamingIndicator := info.defaultRoamingIndicator }
  | .ps =>
    match report.networkInfo with
    | .eutran info =>
      .ps (.ofReported maxDataCalls info.nrIndicators (.ofReported report.rat (some info.vops)))
    | _ => .ps (.ofReported maxDataCalls .unset .notAvailable)

/-- The record of a unified report. A network that the report names wins over that of the cell, and
the technology LTE with carrier aggregation is recorded as LTE with the flag set. -/
def normalize (report : UnifiedReport) (domain : Domain) : RegistrationRecord :=
  let record : RegistrationRecord :=
    .ofReported domain report.regState report.rat report.reasonForDenial
      (report.cellIdentity.map .ofDetailed) (report.extension domain)
  { record with
    registeredPlmn := if report.registeredPlmn = "" then record.registeredPlmn
      else report.registeredPlmn
    technology := if record.technology = .lteCa then .lte else record.technology
    carrierAggregation := decide (record.technology = .lteCa) }

end UnifiedReport

namespace Payload

/-- The record that a report gives for a domain, if it answers for that domain: a unified report
answers for either, an older one only for its own. -/
def normalize (payload : Payload) (domain : Domain) :
    Except RegistrationError RegistrationRecord :=
  match payload, domain with
  | unified report, domain => .ok (report.normalize domain)
  | voiceV10 report, .cs => .ok (report.normalize .ofReported)
  | voiceV12 report, .cs => .ok (report.normalize .ofDetailed)
  | dataV10 report, .ps => .ok (report.normalize .ofReported .unset none)
  | dataV12 report, .ps => .ok (report.normalize .ofDetailed .unset none)
  | dataV14 report, .ps => .ok (report.base.normalize .ofDetailed report.nrIndicators report.vops)
  | payload, domain => .error (.unrecognizedPayload payload.revision domain)

end Payload

end CellularRegistration
