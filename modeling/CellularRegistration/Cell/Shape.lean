import CellularRegistration.Cell.Identity
import CellularRegistration.Json.Shape

namespace CellularRegistration

/-- The numbers of a GSM cell, before what follows them. -/
def GsmSite.fieldsThen {α : Type} (rest : Fields α) : Fields (GsmSite × α) :=
  .assembled
    (.required "lac" (.int .int32) <| .required "cid" (.int .int32) <|
      .required "arfcn" (.int .int32) <| .required "bsic" (.int .uint8) rest)
    { build := fun (lac, cid, arfcn, bsic, a) => (⟨lac, cid, arfcn, bsic⟩, a)
      view := fun (s, a) => (s.lac, s.cid, s.arfcn, s.bsic, a) }

/-- The numbers of a WCDMA cell, before what follows them. -/
def WcdmaSite.fieldsThen {α : Type} (rest : Fields α) : Fields (WcdmaSite × α) :=
  .assembled
    (.required "lac" (.int .int32) <| .required "cid" (.int .int32) <|
      .required "psc" (.int .int32) <| .required "uarfcn" (.int .int32) rest)
    { build := fun (lac, cid, psc, uarfcn, a) => (⟨lac, cid, psc, uarfcn⟩, a)
      view := fun (s, a) => (s.lac, s.cid, s.psc, s.uarfcn, a) }

/-- The numbers of a TD-SCDMA cell, before what follows them. -/
def TdscdmaSite.fieldsThen {α : Type} (rest : Fields α) : Fields (TdscdmaSite × α) :=
  .assembled
    (.required "lac" (.int .int32) <| .required "cid" (.int .int32) <|
      .required "cpid" (.int .int32) rest)
    { build := fun (lac, cid, cpid, a) => (⟨lac, cid, cpid⟩, a)
      view := fun (s, a) => (s.lac, s.cid, s.cpid, a) }

/-- The numbers of an LTE cell, before what follows them. -/
def LteSite.fieldsThen {α : Type} (rest : Fields α) : Fields (LteSite × α) :=
  .assembled
    (.required "ci" (.int .int32) <| .required "pci" (.int .int32) <|
      .required "tac" (.int .int32) <| .required "earfcn" (.int .int32) rest)
    { build := fun (ci, pci, tac, earfcn, a) => (⟨ci, pci, tac, earfcn⟩, a)
      view := fun (s, a) => (s.ci, s.pci, s.tac, s.earfcn, a) }

/-- The numbers of a 5G cell, before what follows them. -/
def NrSite.fieldsThen {α : Type} (rest : Fields α) : Fields (NrSite × α) :=
  .assembled
    (.required "nci" (.int .int64) <| .required "pci" (.int .int32) <|
      .required "tac" (.int .int32) <| .required "nrarfcn" (.int .int32) rest)
    { build := fun (nci, pci, tac, nrarfcn, a) => (⟨nci, pci, tac, nrarfcn⟩, a)
      view := fun (s, a) => (s.nci, s.pci, s.tac, s.nrarfcn, a) }

/-- The numbers of a CDMA cell, before what follows them. -/
def CdmaSite.fieldsThen {α : Type} (rest : Fields α) : Fields (CdmaSite × α) :=
  .assembled
    (.required "network_id" (.int .int32) <| .required "system_id" (.int .int32) <|
      .required "base_station_id" (.int .int32) <| .required "longitude" (.int .int32) <|
      .required "latitude" (.int .int32) rest)
    { build := fun (networkId, systemId, baseStationId, longitude, latitude, a) =>
        (⟨networkId, systemId, baseStationId, longitude, latitude⟩, a)
      view := fun (s, a) =>
        (s.networkId, s.systemId, s.baseStationId, s.longitude, s.latitude, a) }

/-- A country code, a network code, and what follows them. -/
def codesThen {α β : Type} (code : Shape α) (rest : Fields β) : Fields (α × α × β) :=
  .required "mcc" code <| .required "mnc" code rest

/-- The variants of a reported cell. -/
def ReportedCell.variants : Variants ReportedCell :=
  .assembled
    (.variant "gsm" (codesThen .text <| GsmSite.fieldsThen .empty) <|
      .variant "wcdma" (codesThen .text <| WcdmaSite.fieldsThen .empty) <|
      .variant "tdscdma" (codesThen .text <| TdscdmaSite.fieldsThen .empty) <|
      .variant "lte" (codesThen .text <| LteSite.fieldsThen .empty) <|
      .variant "nr" (codesThen .text <| NrSite.fieldsThen .empty) <|
      .variant "cdma" (CdmaSite.fieldsThen .empty) .empty)
    { build := fun
        | .inl (mcc, mnc, site, ()) => .gsm mcc mnc site
        | .inr (.inl (mcc, mnc, site, ())) => .wcdma mcc mnc site
        | .inr (.inr (.inl (mcc, mnc, site, ()))) => .tdscdma mcc mnc site
        | .inr (.inr (.inr (.inl (mcc, mnc, site, ())))) => .lte mcc mnc site
        | .inr (.inr (.inr (.inr (.inl (mcc, mnc, site, ()))))) => .nr mcc mnc site
        | .inr (.inr (.inr (.inr (.inr (.inl (site, ())))))) => .cdma site
      view := fun
        | .gsm mcc mnc site => .inl (mcc, mnc, site, ())
        | .wcdma mcc mnc site => .inr (.inl (mcc, mnc, site, ()))
        | .tdscdma mcc mnc site => .inr (.inr (.inl (mcc, mnc, site, ())))
        | .lte mcc mnc site => .inr (.inr (.inr (.inl (mcc, mnc, site, ()))))
        | .nr mcc mnc site => .inr (.inr (.inr (.inr (.inl (mcc, mnc, site, ())))))
        | .cdma site => .inr (.inr (.inr (.inr (.inr (.inl (site, ()))))))
      build_view := by intro cell; cases cell <;> rfl
      view_build := by rintro (_ | _ | _ | _ | _ | _ | ⟨⟨⟩⟩) <;> rfl }

/-- A reported cell. -/
def ReportedCell.shape : Shape ReportedCell :=
  .tagged "type" variants

/-- Operator names in a report, each empty by default. -/
def ReportedNames.shape : Shape ReportedNames :=
  .struct <| .assembled
    (.defaulted "alpha_long" .text "" <| .defaulted "alpha_short" .text "" .empty)
    { build := fun (long, short, ()) => ⟨long, short⟩
      view := fun names => (names.alphaLong, names.alphaShort, ()) }

/-- A cell in a report from revision 1.2 on. -/
def DetailedCell.shape : Shape DetailedCell :=
  .struct <| .assembled
    (.required "cell" ReportedCell.shape <|
      .defaulted "operator_names" ReportedNames.shape .none <|
      .defaulted "bandwidth_khz" (.int .int32) 0 .empty)
    { build := fun (cell, names, bandwidth, ()) => ⟨cell, names, bandwidth⟩
      view := fun c => (c.cell, c.operatorNames, c.bandwidthKhz, ()) }

/-- Operator names, as far as they are known. -/
def OperatorNames.shape : Shape OperatorNames :=
  .struct <| .assembled
    (.required "alpha_long" (.nullable .text) <|
      .required "alpha_short" (.nullable .text) .empty)
    { build := fun (long, short, ()) => ⟨long, short⟩
      view := fun names => (names.alphaLong, names.alphaShort, ()) }

/-- The operator names at the end of a cell identity. -/
def OperatorNames.lastField : Fields (OperatorNames × Unit) :=
  .required "operator" shape .empty

/-- The variants of a cell identity. -/
def CellIdentity.variants : Variants CellIdentity :=
  .assembled
    (.variant "gsm" (codesThen (.nullable .text) <| GsmSite.fieldsThen OperatorNames.lastField) <|
      .variant "wcdma"
        (codesThen (.nullable .text) <| WcdmaSite.fieldsThen OperatorNames.lastField) <|
      .variant "tdscdma"
        (codesThen (.nullable .text) <| TdscdmaSite.fieldsThen OperatorNames.lastField) <|
      .variant "lte"
        (codesThen (.nullable .text) <| LteSite.fieldsThen <|
          .required "bandwidth_khz" (.nullable (.int .uint32)) OperatorNames.lastField) <|
      .variant "nr" (codesThen (.nullable .text) <| NrSite.fieldsThen OperatorNames.lastField) <|
      .variant "cdma" (CdmaSite.fieldsThen OperatorNames.lastField) .empty)
    { build := fun
        | .inl (mcc, mnc, site, names, ()) => .gsm mcc mnc site names
        | .inr (.inl (mcc, mnc, site, names, ())) => .wcdma mcc mnc site names
        | .inr (.inr (.inl (mcc, mnc, site, names, ()))) => .tdscdma mcc mnc site names
        | .inr (.inr (.inr (.inl (mcc, mnc, site, bandwidth, names, ())))) =>
          .lte mcc mnc site bandwidth names
        | .inr (.inr (.inr (.inr (.inl (mcc, mnc, site, names, ()))))) => .nr mcc mnc site names
        | .inr (.inr (.inr (.inr (.inr (.inl (site, names, ())))))) => .cdma site names
      view := fun
        | .gsm mcc mnc site names => .inl (mcc, mnc, site, names, ())
        | .wcdma mcc mnc site names => .inr (.inl (mcc, mnc, site, names, ()))
        | .tdscdma mcc mnc site names => .inr (.inr (.inl (mcc, mnc, site, names, ())))
        | .lte mcc mnc site bandwidth names =>
          .inr (.inr (.inr (.inl (mcc, mnc, site, bandwidth, names, ()))))
        | .nr mcc mnc site names => .inr (.inr (.inr (.inr (.inl (mcc, mnc, site, names, ())))))
        | .cdma site names => .inr (.inr (.inr (.inr (.inr (.inl (site, names, ()))))))
      build_view := by intro cell; cases cell <;> rfl
      view_build := by rintro (_ | _ | _ | _ | _ | _ | ⟨⟨⟩⟩) <;> rfl }

/-- A cell identity. -/
def CellIdentity.shape : Shape CellIdentity :=
  .tagged "type" variants

end CellularRegistration
