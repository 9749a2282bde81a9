import CellularRegistration.Cell.Shape
import CellularRegistration.Payload.Report

namespace CellularRegistration

/-- The fields of a voice report, with cells of this shape. -/
def VoiceReport.fields {Cell : Type} (cell : Shape Cell) : Fields (VoiceReport Cell) :=
  .assembled
    (.required "reg_state" (.int .int32) <| .required "rat" (.int .int32) <|
      .required "css_supported" .flag <| .required "roaming_indicator" (.int .int32) <|
      .required "system_is_in_prl" (.int .int32) <|
      .required "default_roaming_indicator" (.int .int32) <|
      .required "reason_for_denial" (.int .int32) <|
      .required "cell_identity" (.nullable cell) .empty)
    { build := fun (state, rat, css, roaming, prl, defaultRoaming, reason, cell, ()) =>
        ⟨state, rat, css, roaming, prl, defaultRoaming, reason, cell⟩
      view := fun r =>
        (r.regState, r.rat, r.cssSupported, r.roamingIndicator, r.systemIsInPrl,
          r.defaultRoamingIndicator, r.reasonForDenial, r.cellIdentity, ()) }

/-- The fields of a data report, with cells of this shape. -/
def DataReport.fields {Cell : Type} (cell : Shape Cell) : Fields (DataReport Cell) :=
  .assembled
    (.required "reg_state" (.int .int32) <| .required "rat" (.int .int32) <|
      .required "reason_data_denied" (.int .int32) <| .required "max_data_calls" (.int .int32) <|
      .required "cell_identity" (.nullable cell) .empty)
    { build := fun (state, rat, reason, calls, cell, ()) => ⟨state, rat, reason, calls, cell⟩
      view := fun r => (r.regState, r.rat, r.reasonDataDenied, r.maxDataCalls, r.cellIdentity, ()) }

/-- What an LTE network says of calls, each false by default. -/
def VopsFlags.fields : Fields VopsFlags :=
  .assembled
    (.defaulted "is_vops_supported" .flag false <|
      .defaulted "is_emc_bearer_supported" .flag false .empty)
    { build := fun (vops, bearer, ()) => ⟨vops, bearer⟩
      view := fun f => (f.isVopsSupported, f.isEmcBearerSupported, ()) }

/-- What a network says of 5G service, each false by default. -/
def NrIndicators.shape : Shape NrIndicators :=
  .struct <| .assembled
    (.defaulted "is_endc_available" .flag false <| .defaulted "is_dc_nr_restricted" .flag false <|
      .defaulted "is_nr_available" .flag false .empty)
    { build := fun (endc, restricted, available, ()) => ⟨endc, restricted, available⟩
      view := fun f => (f.isEndcAvailable, f.isDcNrRestricted, f.isNrAvailable, ()) }

/-- What a network says of calls over packet switching, or that it says nothing. -/
def VopsFlags.infoShape : Shape (Option VopsFlags) :=
  .union <| .assembled (.bare "no_init" <| .data "lte_vops_info" fields .empty)
    { build := fun
        | .inl () => none
        | .inr (.inl flags) => some flags
      view := fun
        | none => .inl ()
        | some flags => .inr (.inl flags)
      build_view := by intro info; cases info <;> rfl
      view_build := by rintro (_ | _ | ⟨⟨⟩⟩) <;> rfl }

/-- The fields of a data report of revision 1.4. -/
def ExtendedDataReport.fields : Fields ExtendedDataReport :=
  .assembled
    (.required "base" (.struct (DataReport.fields DetailedCell.shape)) <|
      .defaulted "vops_info" VopsFlags.infoShape none <|
      .defaulted "nr_indicators" NrIndicators.shape .unset .empty)
    { build := fun (base, vops, indicators, ()) => ⟨base, vops, indicators⟩
      view := fun r => (r.base, r.vops, r.nrIndicators, ()) }

/-- What a unified report says of a CDMA network, each false or zero by default. -/
def CdmaInfo.fields : Fields CdmaInfo :=
  .assembled
    (.defaulted "css_supported" .flag false <| .defaulted "roaming_indicator" (.int .int32) 0 <|
      .defaulted "system_is_in_prl" (.int .int32) 0 <|
      .defaulted "default_roaming_indicator" (.int .int32) 0 .empty)
    { build := fun (css, roaming, prl, defaultRoaming, ()) => ⟨css, roaming, prl, defaultRoaming⟩
      view := fun i =>
        (i.cssSupported, i.roamingIndicator, i.systemIsInPrl, i.defaultRoamingIndicator, ()) }

/-- What a unified report says of an LTE network, each false by default. -/
def EutranInfo.fields : Fields EutranInfo :=
  .assembled
    (.defaulted "lte_vops_info" (.struct VopsFlags.fields) .unset <|
      .defaulted "nr_indicators" NrIndicators.shape .unset .empty)
    { build := fun (vops, indicators, ()) => ⟨vops, indicators⟩
      view := fun i => (i.vops, i.nrIndicators, ()) }

/-- What a unified report says of its kind of network, or that it says nothing. -/
def NetworkInfo.shape : Shape NetworkInfo :=
  .union <| .assembled
    (.bare "no_init" <| .data "cdma_info" CdmaInfo.fields <|
      .data "eutran_info" EutranInfo.fields .empty)
    { build := fun
        | .inl () => .absent
        | .inr (.inl info) => .cdma info
        | .inr (.inr (.inl info)) => .eutran info
      view := fun
        | .absent => .inl ()
        | .cdma info => .inr (.inl info)
        | .eutran info => .inr (.inr (.inl info))
      build_view := by intro info; cases info <;> rfl
      view_build := by rintro (_ | _ | _ | ⟨⟨⟩⟩) <;> rfl }

/-- The fields of a unified report. -/
def UnifiedReport.fields : Fields UnifiedReport :=
  .assembled
    (.required "reg_state" (.int .int32) <| .required "rat" (.int .int32) <|
      .required "reason_for_denial" (.int .int32) <|
      .required "cell_identity" (.nullable DetailedCell.shape) <|
      .defaulted "registered_plmn" .text "" <|
      .defaulted "access_technology_specific_info" NetworkInfo.shape .absent .empty)
    { build := fun (state, rat, reason, cell, plmn, info, ()) =>
        ⟨state, rat, reason, cell, plmn, info⟩
      view := fun r =>
        (r.regState, r.rat, r.reasonForDenial, r.cellIdentity, r.registeredPlmn, r.networkInfo,
          ()) }

namespace Payload

/-- The variants of a report. -/
def variants : Variants Payload :=
  .assembled
    (.variant Revision.unified.tag UnifiedReport.fields <|
      .variant Revision.voiceV10.tag (VoiceReport.fields ReportedCell.shape) <|
      .variant Revision.voiceV12.tag (VoiceReport.fields DetailedCell.shape) <|
      .variant Revision.dataV10.tag (DataReport.fields ReportedCell.shape) <|
      .variant Revision.dataV12.tag (DataReport.fields DetailedCell.shape) <|
      .variant Revision.dataV14.tag ExtendedDataReport.fields .empty)
    { build := fun
        | .inl r => .unified r
        | .inr (.inl r) => .voiceV10 r
        | .inr (.inr (.inl r)) => .voiceV12 r
        | .inr (.inr (.inr (.inl r))) => .dataV10 r
        | .inr (.inr (.inr (.inr (.inl r)))) => .dataV12 r
        | .inr (.inr (.inr (.inr (.inr (.inl r))))) => .dataV14 r
      view := fun
        | .unified r => .inl r
        | .voiceV10 r => .inr (.inl r)
        | .voiceV12 r => .inr (.inr (.inl r))
        | .dataV10 r => .inr (.inr (.inr (.inl r)))
        | .dataV12 r => .inr (.inr (.inr (.inr (.inl r))))
        | .dataV14 r => .inr (.inr (.inr (.inr (.inr (.inl r)))))
      build_view := by intro payload; cases payload <;> rfl
      view_build := by rintro (_ | _ | _ | _ | _ | _ | ⟨⟨⟩⟩) <;> rfl }

/-- A report of any revision, with its fields beside the tag. -/
def shape : Shape Payload :=
  .tagged "version" variants

end Payload

end CellularRegistration
