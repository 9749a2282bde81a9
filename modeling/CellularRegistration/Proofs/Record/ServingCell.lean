import CellularRegistration.Record.Normalize

namespace CellularRegistration

/-- So many ASCII digits. -/
def Text.IsDigits (n : Nat) (text : String) : Prop :=
  text.toList.length = n ∧ ∀ c ∈ text.toList, c.isDigit = true

/-- The numbers of a cell, with the kind of its network. -/
inductive Site where
  | gsm (site : GsmSite)
  | wcdma (site : WcdmaSite)
  | tdscdma (site : TdscdmaSite)
  | lte (site : LteSite)
  | nr (site : NrSite)
  | cdma (site : CdmaSite)

namespace ReportedCell

def site : ReportedCell → Site
  | gsm _ _ site => .gsm site
  | wcdma _ _ site => .wcdma site
  | tdscdma _ _ site => .tdscdma site
  | lte _ _ site => .lte site
  | nr _ _ site => .nr site
  | cdma site => .cdma site

/-- The country code as the modem wrote it. -/
def mcc? : ReportedCell → Option String
  | gsm mcc _ _ | wcdma mcc _ _ | tdscdma mcc _ _ | lte mcc _ _ | nr mcc _ _ => some mcc
  | cdma _ => none

/-- The network code as the modem wrote it. -/
def mnc? : ReportedCell → Option String
  | gsm _ mnc _ | wcdma _ mnc _ | tdscdma _ mnc _ | lte _ mnc _ | nr _ mnc _ => some mnc
  | cdma _ => none

end ReportedCell

namespace CellIdentity

def site : CellIdentity → Site
  | gsm _ _ site _ => .gsm site
  | wcdma _ _ site _ => .wcdma site
  | tdscdma _ _ site _ => .tdscdma site
  | lte _ _ site _ _ => .lte site
  | nr _ _ site _ => .nr site
  | cdma site _ => .cdma site

/-- The bandwidth that is kept of a cell, if there is one. -/
def bandwidthKhz? : CellIdentity → Option UInt32
  | lte _ _ _ bandwidthKhz _ => bandwidthKhz
  | _ => none

end CellIdentity

/-- What a report says of the serving cell. Names and bandwidth are said from revision 1.2 on. -/
structure CellReport where
  cell : ReportedCell
  names : Option ReportedNames
  bandwidthKhz : Option Int32

/-- All that a report up to revision 1.0 says of a cell. -/
def ReportedCell.report (cell : ReportedCell) : CellReport :=
  ⟨cell, none, none⟩

def DetailedCell.report (cell : DetailedCell) : CellReport :=
  ⟨cell.cell, some cell.operatorNames, some cell.bandwidthKhz⟩

namespace Payload

/-- What a payload says of the serving cell, if it has one. -/
def cell? : Payload → Option CellReport
  | unified report => report.cellIdentity.map DetailedCell.report
  | voiceV10 report => report.cellIdentity.map ReportedCell.report
  | voiceV12 report => report.cellIdentity.map DetailedCell.report
  | dataV10 report => report.cellIdentity.map ReportedCell.report
  | dataV12 report => report.cellIdentity.map DetailedCell.report
  | dataV14 report => report.base.cellIdentity.map DetailedCell.report

/-- The network that a payload names, which only a unified one can; empty if it names none. -/
def namedPlmn : Payload → String
  | unified report => report.registeredPlmn
  | _ => ""

end Payload

/-- The identity of a cell keeps what a report says of it. -/
structure CellReport.Identified (report : CellReport) (identity : CellIdentity) : Prop where
  site_eq : identity.site = report.cell.site
  mcc_iff : ∀ code, identity.mcc = some code ↔
    report.cell.mcc? = some code ∧ Text.IsDigits 3 code
  mnc_iff : ∀ code, identity.mnc = some code ↔
    report.cell.mnc? = some code ∧ (Text.IsDigits 2 code ∨ Text.IsDigits 3 code)
  alphaLong_iff : ∀ name, identity.operator.alphaLong = some name ↔
    ∃ names, report.names = some names ∧ names.alphaLong = name ∧ name ≠ ""
  alphaShort_iff : ∀ name, identity.operator.alphaShort = some name ↔
    ∃ names, report.names = some names ∧ names.alphaShort = name ∧ name ≠ ""
  bandwidth_iff : ∀ khz, identity.bandwidthKhz? = some khz ↔
    ∃ site said, report.cell.site = .lte site ∧ report.bandwidthKhz = some said ∧
      0 < said.toInt ∧ (khz.toNat : Int) = said.toInt

namespace CellIdentity

theorem wellFormedCode_eq_some_iff {fits : Nat → Bool} {raw code : String} :
    wellFormedCode fits raw = some code ↔
      raw = code ∧ fits code.toList.length = true ∧ ∀ c ∈ code.toList, c.isDigit = true := by
  simp only [wellFormedCode, Option.ite_none_right_eq_some, Bool.and_eq_true, List.all_eq_true,
    Option.some.injEq]
  constructor
  · rintro ⟨hwellFormed, rfl⟩
    exact ⟨rfl, hwellFormed⟩
  · rintro ⟨rfl, hwellFormed⟩
    exact ⟨hwellFormed, rfl⟩

theorem countryCode_eq_some_iff {raw code : String} :
    countryCode raw = some code ↔ raw = code ∧ Text.IsDigits 3 code := by
  rw [countryCode, wellFormedCode_eq_some_iff, beq_iff_eq, Text.IsDigits]

theorem networkCode_eq_some_iff {raw code : String} :
    networkCode raw = some code ↔
      raw = code ∧ (Text.IsDigits 2 code ∨ Text.IsDigits 3 code) := by
  rw [networkCode, wellFormedCode_eq_some_iff, Bool.or_eq_true, beq_iff_eq, beq_iff_eq, or_and_right,
    Text.IsDigits, Text.IsDigits]

theorem bind_code_eq_some_iff {keep : String → Option String} {Fits : String → Prop}
    (hkeep : ∀ {raw code}, keep raw = some code ↔ raw = code ∧ Fits code) {raw : Option String}
    {code : String} : raw.bind keep = some code ↔ raw = some code ∧ Fits code := by
  simp only [Option.bind_eq_some_iff, hkeep]
  constructor
  · rintro ⟨_, hraw, rfl, hfits⟩
    exact ⟨hraw, hfits⟩
  · rintro ⟨hraw, hfits⟩
    exact ⟨code, hraw, rfl, hfits⟩

theorem positiveBandwidth_eq_some_iff {said : Int32} {khz : UInt32} :
    positiveBandwidth said = some khz ↔ 0 < said.toInt ∧ (khz.toNat : Int) = said.toInt := by
  have hbound : said.toInt.toNat < UInt32.size := by
    have := said.toInt_lt
    simp only [UInt32.size]
    omega
  simp only [positiveBandwidth, Option.ite_none_right_eq_some, Option.some.injEq]
  refine and_congr_right fun hpos => ?_
  rw [← UInt32.toNat_inj, UInt32.toNat_ofNat_of_lt' hbound]
  omega

variable (cell : ReportedCell) (names : OperatorNames) (bandwidthKhz : Option UInt32)

theorem site_identify : (identify cell names bandwidthKhz).site = cell.site := by
  cases cell <;> rfl

theorem mcc_identify : (identify cell names bandwidthKhz).mcc = cell.mcc?.bind countryCode := by
  cases cell <;> rfl

theorem mnc_identify : (identify cell names bandwidthKhz).mnc = cell.mnc?.bind networkCode := by
  cases cell <;> rfl

theorem operator_identify : (identify cell names bandwidthKhz).operator = names := by
  cases cell <;> rfl

theorem bandwidth_identify_iff {khz : UInt32} :
    (identify cell names bandwidthKhz).bandwidthKhz? = some khz ↔
      (∃ site, cell.site = .lte site) ∧ bandwidthKhz = some khz := by
  cases cell <;> simp [identify, bandwidthKhz?, ReportedCell.site]

end CellIdentity

theorem OperatorNames.nonEmpty_eq_some_iff {name kept : String} :
    nonEmpty name = some kept ↔ name = kept ∧ kept ≠ "" := by
  rw [nonEmpty, Option.ite_none_left_eq_some, Option.some.injEq, and_comm]
  exact and_congr_right fun heq => by rw [heq]

theorem OperatorNames.bind_nonEmpty_eq_some_iff {names : Option ReportedNames}
    (name : ReportedNames → String) {kept : String} :
    (names.bind fun said => nonEmpty (name said)) = some kept ↔
      ∃ said, names = some said ∧ name said = kept ∧ kept ≠ "" := by
  simp only [Option.bind_eq_some_iff, nonEmpty_eq_some_iff]

theorem OperatorNames.getD_ofReported (names : Option ReportedNames) :
    (names.map ofReported).getD unknown =
      ⟨names.bind fun said => nonEmpty said.alphaLong,
        names.bind fun said => nonEmpty said.alphaShort⟩ := by
  cases names <;> rfl

namespace CellReport

/-- The identity that a record keeps of a cell. -/
def identity (report : CellReport) : CellIdentity :=
  .identify report.cell ((report.names.map .ofReported).getD .unknown)
    (report.bandwidthKhz.bind CellIdentity.positiveBandwidth)

theorem identified_identity (report : CellReport) : report.Identified report.identity where
  site_eq := CellIdentity.site_identify _ _ _
  mcc_iff code := by
    rw [identity, CellIdentity.mcc_identify,
      CellIdentity.bind_code_eq_some_iff CellIdentity.countryCode_eq_some_iff]
  mnc_iff code := by
    rw [identity, CellIdentity.mnc_identify,
      CellIdentity.bind_code_eq_some_iff CellIdentity.networkCode_eq_some_iff]
  alphaLong_iff name := by
    rw [identity, CellIdentity.operator_identify, OperatorNames.getD_ofReported]
    exact OperatorNames.bind_nonEmpty_eq_some_iff ReportedNames.alphaLong
  alphaShort_iff name := by
    rw [identity, CellIdentity.operator_identify, OperatorNames.getD_ofReported]
    exact OperatorNames.bind_nonEmpty_eq_some_iff ReportedNames.alphaShort
  bandwidth_iff khz := by
    simp only [identity, CellIdentity.bandwidth_identify_iff, Option.bind_eq_some_iff,
      CellIdentity.positiveBandwidth_eq_some_iff, exists_and_left, exists_and_right]

end CellReport

/-- A serving cell that is not one of a CDMA network has these two codes. -/
def HasCodes (cell : Option CellIdentity) (mcc mnc : String) : Prop :=
  ∃ identity, cell = some identity ∧ identity.isCdma = false ∧ identity.mcc = some mcc ∧
    identity.mnc = some mnc

/-- The network that a record names, for its payload and its cell. -/
inductive Registered (payload : Payload) (cell : Option CellIdentity) : String → Prop where
  /-- The payload's own name goes before what the cell tells. -/
  | named (hnamed : payload.namedPlmn ≠ "") : Registered payload cell payload.namedPlmn
  | derived {mcc mnc : String} (hunnamed : payload.namedPlmn = "")
      (hcodes : HasCodes cell mcc mnc) : Registered payload cell (mcc ++ mnc)
  | unknown (hunnamed : payload.namedPlmn = "") (hcodes : ¬ ∃ mcc mnc, HasCodes cell mcc mnc) :
      Registered payload cell ""

/-- A text of five or six digits, of which the first three are the country code of a cell and the
others its network code. -/
def MadeOfCodes (cell : Option CellIdentity) (plmn : String) : Prop :=
  (Text.IsDigits 5 plmn ∨ Text.IsDigits 6 plmn) ∧
    HasCodes cell (String.ofList (plmn.toList.take 3)) (String.ofList (plmn.toList.drop 3))

namespace Text.IsDigits

variable {m n : Nat} {a b : String}

theorem ne_empty (h : IsDigits (n + 1) a) : a ≠ "" := by
  rintro rfl
  cases h.1

theorem append (ha : IsDigits m a) (hb : IsDigits n b) : IsDigits (m + n) (a ++ b) := by
  constructor
  · rw [String.toList_append, List.length_append, ha.1, hb.1]
  · rw [String.toList_append, List.forall_mem_append]
    exact ⟨ha.2, hb.2⟩

/-- What is put together can be taken apart where the first part has a known length. -/
theorem take_append (ha : IsDigits m a) :
    String.ofList ((a ++ b).toList.take m) = a ∧ String.ofList ((a ++ b).toList.drop m) = b := by
  rw [String.toList_append, ← ha.1, List.take_left, List.drop_left]
  exact ⟨String.ofList_toList, String.ofList_toList⟩

end Text.IsDigits

theorem Registered.digits_of_derived {payload : Payload} {cell : Option CellIdentity} {plmn : String}
    (h : Registered payload cell plmn)
    (hdigits : ∀ mcc mnc, HasCodes cell mcc mnc →
      Text.IsDigits 3 mcc ∧ (Text.IsDigits 2 mnc ∨ Text.IsDigits 3 mnc))
    (hunnamed : payload.namedPlmn = "") (hne : plmn ≠ "") : MadeOfCodes cell plmn := by
  cases h with
  | named hnamed => exact absurd hunnamed hnamed
  | @derived mcc mnc _ hcodes =>
    obtain ⟨hmcc, hmnc⟩ := hdigits mcc mnc hcodes
    obtain ⟨htake, hdrop⟩ := hmcc.take_append (b := mnc)
    refine ⟨hmnc.imp hmcc.append hmcc.append, ?_⟩
    rwa [htake, hdrop]
  | unknown => exact absurd rfl hne

theorem CellIdentity.isCdma_of_mcc {identity : CellIdentity} {mcc : String}
    (h : identity.mcc = some mcc) : identity.isCdma = false := by
  cases identity with
  | cdma site names => cases h
  | _ => rfl

theorem CellIdentity.plmn_eq_some_iff {identity : CellIdentity} {plmn : String} :
    identity.plmn = some plmn ↔ ∃ mcc mnc, identity.mcc = some mcc ∧ identity.mnc = some mnc ∧
      mcc ≠ "" ∧ mnc ≠ "" ∧ mcc ++ mnc = plmn := by
  unfold CellIdentity.plmn
  split
  next mcc mnc hmcc hmnc =>
    rw [Option.ite_none_left_eq_some]
    simp [hmcc, hmnc, not_or, and_assoc]
  next hnone =>
    constructor
    · intro h
      cases h
    · rintro ⟨mcc, mnc, hmcc, hmnc, -⟩
      exact (hnone mcc mnc hmcc hmnc).elim

namespace Payload

variable {payload : Payload} {domain : Domain} {record : RegistrationRecord}

/-- In every revision the cell of a record is that of the report, and its network the one that the
report names or the one of the cell. -/
theorem cell_normalize (h : payload.normalize domain = .ok record) :
    record.cellIdentity = payload.cell?.map CellReport.identity ∧
      record.registeredPlmn =
        if payload.namedPlmn = "" then CellIdentity.plmnOrEmpty record.cellIdentity
        else payload.namedPlmn := by
  cases payload with
  | unified report =>
    obtain rfl := Except.ok.inj h
    rw [cell?, Option.map_map]
    exact ⟨rfl, rfl⟩
  | voiceV10 report | voiceV12 report =>
    cases domain with
    | cs =>
      obtain rfl := Except.ok.inj h
      rw [cell?, Option.map_map]
      exact ⟨rfl, rfl⟩
    | ps => cases h
  | dataV10 report | dataV12 report | dataV14 report =>
    cases domain with
    | cs => cases h
    | ps =>
      obtain rfl := Except.ok.inj h
      rw [cell?, Option.map_map]
      exact ⟨rfl, rfl⟩

theorem identified_normalize (h : payload.normalize domain = .ok record) {identity : CellIdentity}
    (hidentity : record.cellIdentity = some identity) :
    ∃ report, payload.cell? = some report ∧ report.Identified identity := by
  rw [(cell_normalize h).1, Option.map_eq_some_iff] at hidentity
  obtain ⟨report, hreport, rfl⟩ := hidentity
  exact ⟨report, hreport, report.identified_identity⟩

theorem isDigits_of_hasCodes (h : payload.normalize domain = .ok record) {mcc mnc : String}
    (hcodes : HasCodes record.cellIdentity mcc mnc) :
    Text.IsDigits 3 mcc ∧ (Text.IsDigits 2 mnc ∨ Text.IsDigits 3 mnc) := by
  obtain ⟨identity, hidentity, -, hmcc, hmnc⟩ := hcodes
  obtain ⟨report, -, hidentified⟩ := identified_normalize h hidentity
  exact ⟨((hidentified.mcc_iff mcc).1 hmcc).2, ((hidentified.mnc_iff mnc).1 hmnc).2⟩

theorem registered_normalize (h : payload.normalize domain = .ok record) :
    Registered payload record.cellIdentity record.registeredPlmn := by
  rw [(cell_normalize h).2]
  split
  next hunnamed =>
    rw [CellIdentity.plmnOrEmpty]
    cases hplmn : record.cellIdentity.bind CellIdentity.plmn with
    | some plmn =>
      obtain ⟨identity, hidentity, hplmn⟩ := Option.bind_eq_some_iff.1 hplmn
      obtain ⟨mcc, mnc, hmcc, hmnc, -, -, rfl⟩ := CellIdentity.plmn_eq_some_iff.1 hplmn
      exact .derived hunnamed ⟨identity, hidentity, CellIdentity.isCdma_of_mcc hmcc, hmcc, hmnc⟩
    | none =>
      refine .unknown hunnamed ?_
      rintro ⟨mcc, mnc, hcodes⟩
      obtain ⟨hdigits, hdigits'⟩ := isDigits_of_hasCodes h hcodes
      obtain ⟨identity, hidentity, -, hmcc, hmnc⟩ := hcodes
      -- Digits are not empty, so the cell has a network after all.
      have hfound : identity.plmn = some (mcc ++ mnc) := CellIdentity.plmn_eq_some_iff.2
        ⟨mcc, mnc, hmcc, hmnc, hdigits.ne_empty, hdigits'.elim (·.ne_empty) (·.ne_empty), rfl⟩
      rw [hidentity, Option.bind_some, hfound] at hplmn
      cases hplmn
  next hnamed => exact .named hnamed

/-- A record shows the serving cell and the network of its payload. -/
structure ShowsServingCell (payload : Payload) (record : RegistrationRecord) : Prop where
  isSome_iff : record.cellIdentity.isSome = true ↔ payload.cell?.isSome = true
  identified : ∀ report identity, payload.cell? = some report →
    record.cellIdentity = some identity → report.Identified identity
  registered : Registered payload record.cellIdentity record.registeredPlmn
  /-- A network that is not named consists of the digits of the two codes, which can be told
  apart. -/
  digits_of_derived : payload.namedPlmn = "" → record.registeredPlmn ≠ "" →
    MadeOfCodes record.cellIdentity record.registeredPlmn

/-- Whatever the revision of a report is, and whatever texts and numbers stand in it, its record
shows its serving cell, and the network that the report or else the cell tells. -/
theorem normalize_showsServingCell (h : payload.normalize domain = .ok record) :
    ShowsServingCell payload record where
  isSome_iff := by rw [(cell_normalize h).1, Option.isSome_map]
  identified report identity hreport hidentity := by
    obtain ⟨report', hreport', hidentified⟩ := identified_normalize h hidentity
    obtain rfl := Option.some.inj (hreport.symm.trans hreport')
    exact hidentified
  registered := registered_normalize h
  digits_of_derived :=
    (registered_normalize h).digits_of_derived fun _ _ => isDigits_of_hasCodes h

/-- An LTE cell of a data report, with an operator that has only a short name. -/
theorem showsServingCell_lte :
    let cell : DetailedCell := ⟨.lte "310" "26" ⟨1, 2, 3, 4⟩, ⟨"", "Strata"⟩, 20000⟩
    let payload : Payload := .dataV12 ⟨1, 14, 0, 16, some cell⟩
    ∃ record, payload.normalize .ps = .ok record ∧
      record.cellIdentity =
        some (.lte (some "310") (some "26") ⟨1, 2, 3, 4⟩ (some 20000) ⟨none, some "Strata"⟩) ∧
      record.registeredPlmn = "31026" ∧ ShowsServingCell payload record := by
  intro cell payload
  have hrecord : payload.normalize .ps =
    .ok (DataReport.normalize .ofDetailed ⟨1, 14, 0, 16, some cell⟩ .unset none) := rfl
  exact ⟨_, hrecord, by decide, by decide, normalize_showsServingCell hrecord⟩

/-- A code in digits of another script is as long as a country code and is none. -/
example :
    ((voiceV10 ⟨5, 16, false, 0, 0, 0, 0, some (.gsm "٣١٠" "001" ⟨1, 2, 3, 4⟩)⟩).normalize .cs).map
        (fun record => (record.cellIdentity, record.registeredPlmn)) =
      .ok (some (.gsm none (some "001") ⟨1, 2, 3, 4⟩ .unknown), "") := by
  rfl

end Payload

end CellularRegistration
