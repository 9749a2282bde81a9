import CellularRegistration.Record.Normalize

namespace CellularRegistration

/-- A voice report of revision 1.0 in revision 1.2. Nothing more is known of its cell. -/
def VoiceReport.detailed (report : VoiceReport ReportedCell) : VoiceReport DetailedCell :=
  { report with cellIdentity := report.cellIdentity.map .plain }

/-- A data report of revision 1.0 in revision 1.2. Nothing more is known of its cell. -/
def DataReport.detailed (report : DataReport ReportedCell) : DataReport DetailedCell :=
  { report with cellIdentity := report.cellIdentity.map .plain }

/-- A data report of revision 1.2 in revision 1.4. Nothing is said of calls and of 5G service. -/
def DataReport.extended (report : DataReport DetailedCell) : ExtendedDataReport :=
  ⟨report, none, .unset⟩

/-- A voice report of revision 1.2 in revision 1.5. The network is left to the cell. -/
def VoiceReport.unified (report : VoiceReport DetailedCell) : UnifiedReport where
  regState := report.regState
  rat := report.rat
  reasonForDenial := report.reasonForDenial
  cellIdentity := report.cellIdentity
  registeredPlmn := ""
  networkInfo := .cdma
    { cssSupported := report.cssSupported
      roamingIndicator := report.roamingIndicator
      systemIsInPrl := report.systemIsInPrl
      defaultRoamingIndicator := report.defaultRoamingIndicator }

/-- A data report of revision 1.4 in revision 1.5, with what it says of calls and of 5G service. The
network is left to the cell, and the number of data calls has no place. -/
def DataReport.unified (report : DataReport DetailedCell) (vops : VopsFlags)
    (indicators : NrIndicators) : UnifiedReport where
  regState := report.regState
  rat := report.rat
  reasonForDenial := report.reasonDataDenied
  cellIdentity := report.cellIdentity
  registeredPlmn := ""
  networkInfo := .eutran ⟨vops, indicators⟩

@[simp]
theorem OperatorNames.ofReported_none : ofReported .none = .unknown :=
  rfl

@[simp]
theorem CellIdentity.positiveBandwidth_zero : positiveBandwidth 0 = none :=
  rfl

theorem CellIdentity.ofDetailed_plain (cell : ReportedCell) :
    ofDetailed (.plain cell) = ofReported cell := by
  simp only [ofDetailed, DetailedCell.plain, OperatorNames.ofReported_none, positiveBandwidth_zero,
    ofReported]

theorem CellIdentity.map_ofDetailed_plain (cell : Option ReportedCell) :
    (cell.map .plain).map ofDetailed = cell.map ofReported := by
  rw [Option.map_map]
  exact Option.map_congr fun cell _ => ofDetailed_plain cell

theorem VoiceReport.normalize_detailed (report : VoiceReport ReportedCell) :
    report.detailed.normalize .ofDetailed = report.normalize .ofReported := by
  simp only [normalize, detailed, CellIdentity.map_ofDetailed_plain]

theorem DataReport.normalize_detailed (report : DataReport ReportedCell)
    (indicators : NrIndicators) (vops : Option VopsFlags) :
    report.detailed.normalize .ofDetailed indicators vops =
      report.normalize .ofReported indicators vops := by
  simp only [normalize, detailed, CellIdentity.map_ofDetailed_plain]

theorem RadioTechnology.ofReported_eq_lteCa_iff (rat : Int32) :
    ofReported rat = .lteCa ↔ rat = 19 := by
  rw [ofReported_eq_iff (by decide), eq_comm, ← Int32.toInt_inj]
  rfl

namespace UnifiedReport

/-- The record of a unified report before the network that it names and carrier aggregation are
taken into account. -/
def draft (report : UnifiedReport) (domain : Domain) : RegistrationRecord :=
  .ofReported domain report.regState report.rat report.reasonForDenial
    (report.cellIdentity.map .ofDetailed) (report.extension domain)

theorem normalize_eq_draft (report : UnifiedReport) (domain : Domain) :
    report.normalize domain =
      { report.draft domain with
        registeredPlmn := if report.registeredPlmn = "" then (report.draft domain).registeredPlmn
          else report.registeredPlmn
        technology := if (report.draft domain).technology = .lteCa then .lte
          else (report.draft domain).technology
        carrierAggregation := decide ((report.draft domain).technology = .lteCa) } :=
  rfl

theorem technology_draft_eq_lteCa_iff (report : UnifiedReport) (domain : Domain) :
    (report.draft domain).technology = .lteCa ↔ report.rat = 19 :=
  RadioTechnology.ofReported_eq_lteCa_iff report.rat

variable {report : UnifiedReport}

theorem normalize_of_rat_ne (hplmn : report.registeredPlmn = "") (hrat : report.rat ≠ 19)
    (domain : Domain) : report.normalize domain = report.draft domain := by
  have htechnology : (report.draft domain).technology ≠ .lteCa := by
    rwa [Ne, technology_draft_eq_lteCa_iff]
  rw [normalize_eq_draft, if_pos hplmn, if_neg htechnology, decide_eq_false htechnology]
  rfl

theorem normalize_of_rat_eq (hplmn : report.registeredPlmn = "") (hrat : report.rat = 19)
    (domain : Domain) :
    report.normalize domain =
      { report.draft domain with technology := .lte, carrierAggregation := true } := by
  have htechnology : (report.draft domain).technology = .lteCa :=
    (technology_draft_eq_lteCa_iff report domain).2 hrat
  rw [normalize_eq_draft, if_pos hplmn, if_pos htechnology, decide_eq_true htechnology]

/-- The two records of a report differ in their services and in what a domain adds. -/
theorem normalize_ps_eq (report : UnifiedReport) :
    report.normalize .ps =
      { report.normalize .cs with
        availableServices := (report.normalize .ps).availableServices
        extension := (report.normalize .ps).extension } :=
  rfl

end UnifiedReport

theorem VoiceReport.draft_unified (report : VoiceReport DetailedCell) :
    report.unified.draft .cs = report.normalize .ofDetailed :=
  rfl

theorem DataReport.draft_unified (report : DataReport DetailedCell) (vops : VopsFlags)
    (indicators : NrIndicators) :
    (report.unified vops indicators).draft .ps =
      DataReport.normalize .ofDetailed { report with maxDataCalls := 16 } indicators (some vops) :=
  rfl

namespace Payload

/-- Two reports give one and the same record for a domain. -/
def SameRecord (domain : Domain) (a b : Payload) : Prop :=
  ∃ record, a.normalize domain = .ok record ∧ b.normalize domain = .ok record

/-- Two reports with this code of a technology give the same record for a domain, unless the code is
that of LTE with carrier aggregation. Then the older one shows it as a technology of its own, the
unified one by the flag, and the rest is the same. -/
def SameRecordButFlag (domain : Domain) (rat : Int32) (older unified : Payload) : Prop :=
  ∃ record, older.normalize domain = .ok record ∧
    if rat = 19 then
      record.technology = .lteCa ∧ record.carrierAggregation = false ∧
        unified.normalize domain =
          .ok { record with technology := .lte, carrierAggregation := true }
    else unified.normalize domain = .ok record

theorem sameRecordButFlag_of_draft {older : Payload} (report : UnifiedReport) (domain : Domain)
    (hplmn : report.registeredPlmn = "")
    (holder : older.normalize domain = .ok (report.draft domain)) :
    SameRecordButFlag domain report.rat older (.unified report) := by
  refine ⟨report.draft domain, holder, ?_⟩
  split
  next hrat =>
    refine ⟨(report.technology_draft_eq_lteCa_iff domain).2 hrat, rfl, ?_⟩
    exact congrArg Except.ok (UnifiedReport.normalize_of_rat_eq hplmn hrat domain)
  next hrat => exact congrArg Except.ok (UnifiedReport.normalize_of_rat_ne hplmn hrat domain)

/-- A report gives the same record in every revision that it can be put into, but for the way in
which a unified report shows LTE with carrier aggregation. And the two records of a unified report
agree in everything but services and extension. -/
theorem revisions_agree :
    (∀ report : VoiceReport ReportedCell,
      SameRecord .cs (.voiceV10 report) (.voiceV12 report.detailed)) ∧
    (∀ report : DataReport ReportedCell,
      SameRecord .ps (.dataV10 report) (.dataV12 report.detailed)) ∧
    (∀ report : DataReport DetailedCell,
      SameRecord .ps (.dataV12 report) (.dataV14 report.extended)) ∧
    (∀ report : VoiceReport DetailedCell,
      SameRecordButFlag .cs report.rat (.voiceV12 report) (.unified report.unified)) ∧
    (∀ (report : DataReport DetailedCell) (vops : VopsFlags) (indicators : NrIndicators),
      SameRecordButFlag .ps report.rat
        (.dataV14 ⟨{ report with maxDataCalls := 16 }, some vops, indicators⟩)
        (.unified (report.unified vops indicators))) ∧
    ∀ report : UnifiedReport, ∃ voice data : RegistrationRecord,
      (unified report).normalize .cs = .ok voice ∧ (unified report).normalize .ps = .ok data ∧
      data = { voice with
        availableServices := data.availableServices
        extension := data.extension } := by
  refine ⟨fun report => ?_, fun report => ?_, fun report => ?_, fun report => ?_,
    fun report vops indicators => ?_, fun report => ?_⟩
  · exact ⟨_, rfl, congrArg Except.ok report.normalize_detailed⟩
  · exact ⟨_, rfl, congrArg Except.ok (report.normalize_detailed .unset none)⟩
  · exact ⟨report.normalize .ofDetailed .unset none, rfl, rfl⟩
  · exact sameRecordButFlag_of_draft report.unified .cs rfl
      (congrArg Except.ok report.draft_unified.symm)
  · exact sameRecordButFlag_of_draft (report.unified vops indicators) .ps rfl
      (congrArg Except.ok (report.draft_unified vops indicators).symm)
  · exact ⟨_, _, rfl, rfl, report.normalize_ps_eq⟩

end Payload

end CellularRegistration
