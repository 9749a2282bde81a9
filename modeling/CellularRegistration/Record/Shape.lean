import CellularRegistration.Cell.Shape
import CellularRegistration.Record.Basic

namespace CellularRegistration

/-- The two capabilities of LTE for calls. -/
def VopsSupport.shape : Shape VopsSupport :=
  .struct <| .assembled
    (.required "vops" (.keyword LteStatus.spelling) <|
      .required "emergency_bearer" (.keyword LteStatus.spelling) .empty)
    { build := fun (vops, bearer, ()) => ⟨vops, bearer⟩
      view := fun s => (s.vops, s.emergencyBearer, ()) }

/-- The fields that a record adds for the circuit-switched domain. -/
def VoiceInfo.fields : Fields VoiceInfo :=
  .assembled
    (.required "css_supported" .flag <| .required "roaming_indicator" (.int .int32) <|
      .required "system_is_in_prl" (.int .int32) <|
      .required "default_roaming_indicator" (.int .int32) .empty)
    { build := fun (css, roaming, prl, defaultRoaming, ()) => ⟨css, roaming, prl, defaultRoaming⟩
      view := fun i =>
        (i.cssSupported, i.roamingIndicator, i.systemIsInPrl, i.defaultRoamingIndicator, ()) }

/-- The fields that a record adds for the packet-switched domain. -/
def DataInfo.fields : Fields DataInfo :=
  .assembled
    (.required "max_data_calls" (.int .int32) <| .required "is_dc_nr_restricted" .flag <|
      .required "is_nr_available" .flag <| .required "is_endc_available" .flag <|
      .required "lte_vops_support" VopsSupport.shape .empty)
    { build := fun (calls, restricted, nr, endc, vops, ()) => ⟨calls, restricted, nr, endc, vops⟩
      view := fun i =>
        (i.maxDataCalls, i.isDcNrRestricted, i.isNrAvailable, i.isEndcAvailable, i.vopsSupport,
          ()) }

/-- What a record adds for its domain, with the domain as the tag. -/
def DomainInfo.shape : Shape DomainInfo :=
  .tagged "domain" <| .assembled
    (.variant Domain.cs.name VoiceInfo.fields <| .variant Domain.ps.name DataInfo.fields .empty)
    { build := fun
        | .inl info => .cs info
        | .inr (.inl info) => .ps info
      view := fun
        | .cs info => .inl info
        | .ps info => .inr (.inl info)
      build_view := by intro info; cases info <;> rfl
      view_build := by rintro (_ | _ | ⟨⟨⟩⟩) <;> rfl }

/-- A record: one flat object, in which transport and extension stand beside the fields of the
registration. It never stands as an array. -/
def RegistrationRecord.shape : Shape RegistrationRecord :=
  .assembled
    (.merged
      (.required "transport" (.keyword Transport.spelling) <|
        .required "extension" DomainInfo.shape .empty)
      (.required "state" (.keyword RegistrationState.spelling) <|
        .required "technology" (.keyword RadioTechnology.spelling) <|
        .required "reject_cause" (.int .int32) <| .required "emergency_only" .flag <|
        .required "available_services" (.list (.keyword ServiceKind.spelling)) <|
        .required "cell_identity" (.nullable CellIdentity.shape) <|
        .required "registered_plmn" .text <| .required "carrier_aggregation" .flag .empty))
    { build := fun ((transport, extension, ()), (state, technology, cause, emergency, services,
          cell, plmn, aggregation, ())) =>
        ⟨transport, state, technology, cause, emergency, services, cell, plmn, aggregation,
          extension⟩
      view := fun r =>
        ((r.transport, r.extension, ()),
          (r.state, r.technology, r.rejectCause, r.emergencyOnly, r.availableServices,
            r.cellIdentity, r.registeredPlmn, r.carrierAggregation, ())) }

end CellularRegistration
