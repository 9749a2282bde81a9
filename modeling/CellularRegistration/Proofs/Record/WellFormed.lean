import CellularRegistration.Proofs.Record.Revisions

namespace CellularRegistration

/-- What a domain offers to a slot in service. -/
def Domain.services : Domain → List ServiceKind
  | .ps => [.data]
  | .cs => [.voice, .sms, .video]

theorem RegistrationState.isInService_iff (state : RegistrationState) :
    state.isInService = true ↔ state = .home ∨ state = .roaming := by
  cases state <;> decide

theorem RegistrationState.isEmergencyOnly_iff (code : Int32) :
    isEmergencyOnly code = true ↔ code ∈ [10, 12, 13, 14] := by
  have hmem : code ∈ [10, 12, 13, 14] ↔
      code.toInt = 10 ∨ code.toInt = 12 ∨ code.toInt = 13 ∨ code.toInt = 14 := by
    simp only [List.mem_cons, List.not_mem_nil, or_false, ← Int32.toInt_inj]
    rfl
  rw [hmem, isEmergencyOnly]
  split <;> grind

/-- A number that allows emergency calls only means a state out of service. -/
theorem RegistrationState.isInService_of_isEmergencyOnly {code : Int32}
    (h : isEmergencyOnly code = true) : (ofReported code).isInService = false := by
  have hcode := (isEmergencyOnly_iff code).1 h
  simp only [List.mem_cons, List.not_mem_nil, or_false] at hcode
  obtain rfl | rfl | rfl | rfl := hcode <;> rfl

theorem availableServices_eq_emergency_iff (state : RegistrationState) (domain : Domain)
    (emergencyOnly : Bool) :
    availableServices state domain emergencyOnly = [.emergency] ↔ emergencyOnly = true := by
  unfold availableServices
  grind

theorem availableServices_eq_nil_iff (state : RegistrationState) (domain : Domain) :
    availableServices state domain false = [] ↔ state.isInService = false := by
  unfold availableServices
  grind

theorem availableServices_of_inService {state : RegistrationState} (hservice : state.isInService = true)
    (domain : Domain) :
    availableServices state domain false = domain.services := by
  simp only [availableServices, hservice]
  rfl

theorem RadioTechnology.accessNetwork_eq_eutran_iff (t : RadioTechnology) :
    t.accessNetwork = .eutran ↔ t = .lte ∨ t = .lteCa := by
  cases t <;> decide

theorem LteStatus.ofFlag_ne_notAvailable (supported : Bool) : ofFlag supported ≠ .notAvailable := by
  cases supported <;> decide

/-- Of a network that is not LTE, or of which nothing is said, no capability is known. Otherwise
both are. -/
theorem VopsSupport.ofReported_cases (rat : Int32) (flags : Option VopsFlags) :
    ((RadioTechnology.ofReported rat).accessNetwork = .eutran ∧
      ∃ said, flags = some said ∧
        ofReported rat flags = .ofFlags said.isVopsSupported said.isEmcBearerSupported) ∨
    ¬ ((RadioTechnology.ofReported rat).accessNetwork = .eutran ∧ flags.isSome = true) ∧
      ofReported rat flags = .notAvailable := by
  cases flags with
  | none => exact .inr ⟨by simp, rfl⟩
  | some said =>
    by_cases hlte : (RadioTechnology.ofReported rat).accessNetwork = .eutran
    · exact .inl ⟨hlte, said, rfl, if_pos hlte⟩
    · exact .inr ⟨fun h => hlte h.1, if_neg hlte⟩

/-- A voice report, up to revision 1.2. -/
def Payload.Revision.isVoice : Payload.Revision → Bool
  | voiceV10 | voiceV12 => true
  | _ => false

/-- A data report, up to revision 1.4. -/
def Payload.Revision.isData : Payload.Revision → Bool
  | dataV10 | dataV12 | dataV14 => true
  | _ => false

namespace Payload

/-- The number that a report gives for the state of the registration. -/
def regState : Payload → Int32
  | unified report => report.regState
  | voiceV10 report => report.regState
  | voiceV12 report => report.regState
  | dataV10 report => report.regState
  | dataV12 report => report.regState
  | dataV14 report => report.base.regState

/-- The code that a report gives for the technology. -/
def rat : Payload → Int32
  | unified report => report.rat
  | voiceV10 report => report.rat
  | voiceV12 report => report.rat
  | dataV10 report => report.rat
  | dataV12 report => report.rat
  | dataV14 report => report.base.rat

/-- What a report says of calls over LTE. Only one of revision 1.4 with such a part, and a unified
one with a part on its LTE network, say anything. -/
def vopsFlags? : Payload → Option VopsFlags
  | dataV14 report => report.vops
  | unified report =>
    match report.networkInfo with
    | .eutran info => some info.vops
    | _ => none
  | _ => none

variable {payload : Payload} {domain : Domain} {record : RegistrationRecord}

/-- The extension of a record is for the domain that was asked for, and takes the capabilities of
LTE from the report. -/
structure Extends (payload : Payload) (domain : Domain) (extension : DomainInfo) : Prop where
  domain_eq : extension.domain = domain
  vops_eq : ∀ info, extension = .ps info →
    info.vopsSupport = .ofReported payload.rat payload.vopsFlags?

theorem extends_unified (report : UnifiedReport) (domain : Domain) :
    Extends (unified report) domain (report.extension domain) := by
  cases domain with
  | cs => exact ⟨rfl, fun info hinfo => by cases hinfo⟩
  | ps =>
    cases hnetwork : report.networkInfo with
    | eutran info =>
      refine ⟨?_, ?_⟩ <;> simp only [UnifiedReport.extension, hnetwork, vopsFlags?]
      · rfl
      · rintro _ ⟨⟩
        rfl
    | absent | cdma info =>
      refine ⟨?_, ?_⟩ <;> simp only [UnifiedReport.extension, hnetwork, vopsFlags?]
      · rfl
      · rintro _ ⟨⟩
        rfl

/-- Whatever the revision, a record is the common one but for its network, its technology and
carrier aggregation. -/
theorem exists_common (h : payload.normalize domain = .ok record) :
    ∃ rejectCause cell extension, Extends payload domain extension ∧
      record = { RegistrationRecord.ofReported domain payload.regState payload.rat rejectCause cell
          extension with
        registeredPlmn := record.registeredPlmn
        technology := record.technology
        carrierAggregation := record.carrierAggregation } := by
  cases payload with
  | unified report =>
    obtain rfl := Except.ok.inj h
    exact ⟨_, _, _, extends_unified report domain, rfl⟩
  | voiceV10 report | voiceV12 report =>
    cases domain with
    | cs =>
      obtain rfl := Except.ok.inj h
      exact ⟨_, _, _, ⟨rfl, fun info hinfo => by cases hinfo⟩, rfl⟩
    | ps => cases h
  | dataV10 report | dataV12 report | dataV14 report =>
    cases domain with
    | cs => cases h
    | ps =>
      obtain rfl := Except.ok.inj h
      refine ⟨_, _, _, ⟨rfl, ?_⟩, rfl⟩
      rintro _ ⟨⟩
      rfl

/-- The older revisions show LTE with carrier aggregation as a technology, a unified report shows it
by the flag. -/
theorem technology_normalize (h : payload.normalize domain = .ok record) :
    record.technology =
        (if payload.revision = .unified ∧ payload.rat = 19 then .lte else .ofReported payload.rat) ∧
      record.carrierAggregation = decide (payload.revision = .unified ∧ payload.rat = 19) := by
  cases payload with
  | unified report =>
    obtain rfl := Except.ok.inj h
    have hlteCa := report.technology_draft_eq_lteCa_iff domain
    rw [UnifiedReport.normalize_eq_draft]
    simp only [hlteCa, revision, rat, true_and]
    exact ⟨rfl, trivial⟩
  | voiceV10 report | voiceV12 report =>
    cases domain with
    | cs =>
      obtain rfl := Except.ok.inj h
      exact ⟨rfl, rfl⟩
    | ps => cases h
  | dataV10 report | dataV12 report | dataV14 report =>
    cases domain with
    | cs => cases h
    | ps =>
      obtain rfl := Except.ok.inj h
      exact ⟨rfl, rfl⟩

/-- Only LTE is ever reported with carrier aggregation. -/
theorem technology_of_carrierAggregation (h : payload.normalize domain = .ok record)
    (hflag : record.carrierAggregation = true) : record.technology = .lte := by
  obtain ⟨htechnology, hcarrier⟩ := technology_normalize h
  rw [hcarrier, decide_eq_true_eq] at hflag
  rw [htechnology, if_pos hflag]

/-- A record shows LTE, with carrier aggregation or without, exactly if the code of its report means
a technology of LTE networks. -/
theorem technology_lte_iff (h : payload.normalize domain = .ok record) :
    record.technology = .lte ∨ record.technology = .lteCa ↔
      (RadioTechnology.ofReported payload.rat).accessNetwork = .eutran := by
  rw [RadioTechnology.accessNetwork_eq_eutran_iff, (technology_normalize h).1]
  split
  next haggregation =>
    have hlteCa := (RadioTechnology.ofReported_eq_lteCa_iff payload.rat).2 haggregation.2
    simp only [hlteCa, true_or, or_true]
  next => rfl

/-- The record that a report gives for a domain fits together. -/
structure WellFormed (payload : Payload) (domain : Domain) (record : RegistrationRecord) :
    Prop where
  domain_eq : record.domain = domain
  emergencyOnly_iff : record.emergencyOnly = true ↔ payload.regState ∈ [10, 12, 13, 14]
  not_inService : record.emergencyOnly = true → record.state ≠ .home ∧ record.state ≠ .roaming
  services_eq_emergency_iff : record.availableServices = [.emergency] ↔
    record.emergencyOnly = true
  services_eq_nil_iff : record.emergencyOnly = false →
    (record.availableServices = [] ↔ ¬ (record.state = .home ∨ record.state = .roaming))
  services_eq : record.emergencyOnly = false → record.state = .home ∨ record.state = .roaming →
    record.availableServices = domain.services
  aggregation_iff : record.carrierAggregation = true ↔
    payload.revision = .unified ∧ payload.rat = 19
  technology_of_aggregation : record.carrierAggregation = true → record.technology = .lte
  revision_of_lteCa : record.technology = .lteCa → payload.revision ≠ .unified
  /-- Of the two capabilities both are known or neither is. -/
  vops_notAvailable_iff : ∀ info, record.dataInfo = some info →
    (info.vopsSupport.vops = .notAvailable ↔ info.vopsSupport.emergencyBearer = .notAvailable)
  vops_available_iff : (∃ info, record.dataInfo = some info ∧
      info.vopsSupport.vops ≠ .notAvailable ∧ info.vopsSupport.emergencyBearer ≠ .notAvailable) ↔
    domain = .ps ∧ (record.technology = .lte ∨ record.technology = .lteCa) ∧
      payload.vopsFlags?.isSome = true
  /-- Where they are known, they are what the report says. -/
  vops_eq : ∀ info flags, record.dataInfo = some info → info.vopsSupport.vops ≠ .notAvailable →
    payload.vopsFlags? = some flags →
    info.vopsSupport = .ofFlags flags.isVopsSupported flags.isEmcBearerSupported

theorem extends_normalize (h : payload.normalize domain = .ok record) :
    Extends payload domain record.extension := by
  obtain ⟨_, _, extension, hextends, hrecord⟩ := exists_common h
  rw [hrecord]
  exact hextends

theorem emergencyOnly_normalize (h : payload.normalize domain = .ok record) :
    record.emergencyOnly = RegistrationState.isEmergencyOnly payload.regState := by
  obtain ⟨_, _, _, -, hrecord⟩ := exists_common h
  rw [hrecord]
  rfl

theorem state_normalize (h : payload.normalize domain = .ok record) :
    record.state = .ofReported payload.regState := by
  obtain ⟨_, _, _, -, hrecord⟩ := exists_common h
  rw [hrecord]
  rfl

theorem availableServices_normalize (h : payload.normalize domain = .ok record) :
    record.availableServices =
      availableServices record.state domain record.emergencyOnly := by
  obtain ⟨_, _, _, -, hrecord⟩ := exists_common h
  rw [hrecord]
  rfl

/-- A record has capabilities of LTE for calls exactly if it is for the packet-switched domain. -/
theorem exists_dataInfo_iff (h : payload.normalize domain = .ok record) :
    (∃ info, record.dataInfo = some info) ↔ domain = .ps := by
  have hdomain := (extends_normalize h).domain_eq
  simp only [RegistrationRecord.dataInfo]
  cases hextension : record.extension with
  | cs info =>
    obtain rfl : Domain.cs = domain := by rw [← hdomain, hextension]; rfl
    simp
  | ps info =>
    obtain rfl : Domain.ps = domain := by rw [← hdomain, hextension]; rfl
    simp

theorem vopsSupport_normalize (h : payload.normalize domain = .ok record) {info : DataInfo}
    (hinfo : record.dataInfo = some info) :
    info.vopsSupport = .ofReported payload.rat payload.vopsFlags? := by
  apply (extends_normalize h).vops_eq
  unfold RegistrationRecord.dataInfo at hinfo
  split at hinfo
  · cases hinfo
  · obtain rfl := Option.some.inj hinfo
    assumption

theorem not_inService_of_emergencyOnly (h : payload.normalize domain = .ok record)
    (hemergency : record.emergencyOnly = true) : record.state.isInService = false := by
  rw [emergencyOnly_normalize h] at hemergency
  rw [state_normalize h]
  exact RegistrationState.isInService_of_isEmergencyOnly hemergency

/-- The capabilities of a record are those that its report tells of LTE, or unknown. -/
theorem vopsSupport_cases (h : payload.normalize domain = .ok record) {info : DataInfo}
    (hinfo : record.dataInfo = some info) :
    ((record.technology = .lte ∨ record.technology = .lteCa) ∧
      ∃ said, payload.vopsFlags? = some said ∧
        info.vopsSupport = .ofFlags said.isVopsSupported said.isEmcBearerSupported) ∨
    ¬ ((record.technology = .lte ∨ record.technology = .lteCa) ∧
        payload.vopsFlags?.isSome = true) ∧
      info.vopsSupport = .notAvailable := by
  rw [technology_lte_iff h, vopsSupport_normalize h hinfo]
  exact VopsSupport.ofReported_cases payload.rat payload.vopsFlags?

theorem services_eq_nil_iff (h : payload.normalize domain = .ok record)
    (hemergency : record.emergencyOnly = false) :
    record.availableServices = [] ↔ ¬ (record.state = .home ∨ record.state = .roaming) := by
  rw [availableServices_normalize h, hemergency, availableServices_eq_nil_iff,
    ← RegistrationState.isInService_iff, Bool.not_eq_true]

theorem services_eq (h : payload.normalize domain = .ok record)
    (hemergency : record.emergencyOnly = false)
    (hstate : record.state = .home ∨ record.state = .roaming) :
    record.availableServices = domain.services := by
  rw [availableServices_normalize h, hemergency]
  have hservice := (RegistrationState.isInService_iff record.state).2 hstate
  exact availableServices_of_inService hservice domain

theorem revision_of_lteCa (h : payload.normalize domain = .ok record)
    (hlteCa : record.technology = .lteCa) : payload.revision ≠ .unified := by
  intro hunified
  rw [(technology_normalize h).1] at hlteCa
  split at hlteCa
  next => cases hlteCa
  next hnot => exact hnot ⟨hunified, (RadioTechnology.ofReported_eq_lteCa_iff payload.rat).1 hlteCa⟩

/-- Of the two capabilities both are known or neither is. -/
theorem vops_notAvailable_iff (h : payload.normalize domain = .ok record) {info : DataInfo}
    (hinfo : record.dataInfo = some info) :
    info.vopsSupport.vops = .notAvailable ↔ info.vopsSupport.emergencyBearer = .notAvailable := by
  obtain ⟨-, said, -, hvops⟩ | ⟨-, hvops⟩ := vopsSupport_cases h hinfo <;> rw [hvops]
  · exact iff_of_false (LteStatus.ofFlag_ne_notAvailable _) (LteStatus.ofFlag_ne_notAvailable _)
  · exact iff_of_true rfl rfl

theorem vops_available_iff (h : payload.normalize domain = .ok record) :
    (∃ info, record.dataInfo = some info ∧
        info.vopsSupport.vops ≠ .notAvailable ∧ info.vopsSupport.emergencyBearer ≠ .notAvailable) ↔
      domain = .ps ∧ (record.technology = .lte ∨ record.technology = .lteCa) ∧
        payload.vopsFlags?.isSome = true := by
  constructor
  · rintro ⟨info, hinfo, hknown, -⟩
    obtain ⟨hlte, said, hsaid, -⟩ | ⟨-, hvops⟩ := vopsSupport_cases h hinfo
    · exact ⟨(exists_dataInfo_iff h).1 ⟨info, hinfo⟩, hlte, by rw [hsaid]; rfl⟩
    · rw [hvops] at hknown
      exact absurd rfl hknown
  · rintro ⟨hdomain, hsaid⟩
    obtain ⟨info, hinfo⟩ := (exists_dataInfo_iff h).2 hdomain
    obtain ⟨-, said, -, hvops⟩ | ⟨hnot, -⟩ := vopsSupport_cases h hinfo
    · refine ⟨info, hinfo, ?_⟩
      rw [hvops]
      exact ⟨LteStatus.ofFlag_ne_notAvailable _, LteStatus.ofFlag_ne_notAvailable _⟩
    · exact absurd hsaid hnot

theorem vops_eq (h : payload.normalize domain = .ok record) {info : DataInfo} {flags : VopsFlags}
    (hinfo : record.dataInfo = some info) (hknown : info.vopsSupport.vops ≠ .notAvailable)
    (hflags : payload.vopsFlags? = some flags) :
    info.vopsSupport = .ofFlags flags.isVopsSupported flags.isEmcBearerSupported := by
  obtain ⟨-, said, hsaid, hvops⟩ | ⟨-, hvops⟩ := vopsSupport_cases h hinfo
  · obtain rfl := Option.some.inj (hflags.symm.trans hsaid)
    exact hvops
  · rw [hvops] at hknown
    exact absurd rfl hknown

theorem wellFormed_of_normalize (h : payload.normalize domain = .ok record) :
    WellFormed payload domain record where
  domain_eq := (extends_normalize h).domain_eq
  emergencyOnly_iff := by rw [emergencyOnly_normalize h, RegistrationState.isEmergencyOnly_iff]
  not_inService hemergency := by
    rw [← not_or, ← RegistrationState.isInService_iff, not_inService_of_emergencyOnly h hemergency]
    exact Bool.false_ne_true
  services_eq_emergency_iff := by
    rw [availableServices_normalize h, availableServices_eq_emergency_iff]
  services_eq_nil_iff := services_eq_nil_iff h
  services_eq := services_eq h
  aggregation_iff := by rw [(technology_normalize h).2, decide_eq_true_eq]
  technology_of_aggregation := technology_of_carrierAggregation h
  revision_of_lteCa := revision_of_lteCa h
  vops_notAvailable_iff _ := vops_notAvailable_iff h
  vops_available_iff := vops_available_iff h
  vops_eq _ _ := vops_eq h

/-- A report is refused exactly if it is a voice report asked for data, or a data report asked for
voice. -/
theorem refused_iff (payload : Payload) (domain : Domain) :
    (∃ error, payload.normalize domain = .error error) ↔
      payload.revision.isVoice = true ∧ domain = .ps ∨
        payload.revision.isData = true ∧ domain = .cs := by
  cases payload <;> cases domain <;> simp [normalize, revision, Revision.isVoice, Revision.isData]

/-- A report is refused exactly if it is a voice report asked for data, or a data report asked for
voice. Otherwise its record fits together, whatever the numbers in the report are. -/
theorem normalize_wellFormed (payload : Payload) (domain : Domain) :
    ((∃ error, payload.normalize domain = .error error) ↔
      payload.revision.isVoice = true ∧ domain = .ps ∨
        payload.revision.isData = true ∧ domain = .cs) ∧
    ∀ record, payload.normalize domain = .ok record → WellFormed payload domain record :=
  ⟨refused_iff payload domain, fun _ h => wellFormed_of_normalize h⟩

/-- A unified report of a roaming slot on LTE with carrier aggregation, with a cell that no revision
before 1.2 could describe. -/
theorem wellFormed_roaming_lteCa :
    let cell : DetailedCell := ⟨.lte "310" "26" ⟨1, 2, 3, 4⟩, ⟨"", "Strata"⟩, 20000⟩
    let report : UnifiedReport :=
      ⟨5, 19, 0, some cell, "", .eutran ⟨⟨true, false⟩, ⟨true, false, true⟩⟩⟩
    ∃ record, (unified report).normalize .ps = .ok record ∧
      WellFormed (unified report) .ps record ∧
      record.availableServices = [.data] ∧ record.technology = .lte ∧
      record.dataInfo.map DataInfo.vopsSupport = some ⟨.supported, .notSupported⟩ := by
  intro cell report
  have hrecord : (unified report).normalize .ps = .ok (report.normalize .ps) := rfl
  exact ⟨_, hrecord, (normalize_wellFormed _ _).2 _ hrecord, rfl, rfl, rfl⟩

end Payload

end CellularRegistration
