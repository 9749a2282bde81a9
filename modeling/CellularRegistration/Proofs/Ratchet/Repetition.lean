import CellularRegistration.Proofs.Family.Rank
import CellularRegistration.Proofs.Ratchet.Related

namespace CellularRegistration

theorem ServiceState.widen_self (s : ServiceState) : s.widen s.cellBandwidths = s := by
  unfold widen
  split <;> rfl

theorem ServiceState.widen_widen (s : ServiceState) (bandwidths : List UInt32) :
    s.widen (s.widen bandwidths).cellBandwidths = s.widen bandwidths := by
  by_cases hwider : s.aggregateBandwidth < totalBandwidth bandwidths
  · have hwidened : s.widen bandwidths = { s with cellBandwidths := bandwidths } := if_pos hwider
    rw [hwidened]
    exact hwidened
  · have hkept : s.widen bandwidths = s := if_neg hwider
    rw [hkept, s.widen_self]

open RadioTechnology

namespace Ratchet

variable {table : FamilyTable} {latches : Latches} {old new : ServiceState}

theorem ratchetRecord_self (table : FamilyTable) (armed : Bool) (record : RegistrationRecord) :
    (ratchetRecord table armed record record).record = record := by
  cases armed with
  | false => rfl
  | true =>
    simp only [ratchetRecord, if_true, table.higher_self, Bool.or_self]

theorem ratchetRecord_again (table : FamilyTable) (armed : Bool) (old new : RegistrationRecord) :
    (ratchetRecord table (ratchetRecord table armed old new).armed
      (ratchetRecord table armed old new).record new).record =
      (ratchetRecord table armed old new).record := by
  cases armed with
  | false => exact ratchetRecord_self table _ new
  | true =>
    simp only [ratchetRecord, if_true, table.higher_higher, Bool.or_assoc, Bool.or_self]

theorem carrierAggregation_of_ratchetRecord {armed : Bool} {old new : RegistrationRecord}
    (h : (ratchetRecord table armed old new).record.carrierAggregation = true) :
    old.carrierAggregation = true ∨ new.carrierAggregation = true := by
  cases armed with
  | false => exact .inr h
  | true => exact Bool.or_eq_true_iff.1 h

theorem ext_record {s t : ServiceState} (hrecord : ∀ d, s.record d = t.record d)
    (hbandwidths : s.cellBandwidths = t.cellBandwidths) : s = t := by
  cases s
  cases t
  simpa using ⟨hrecord .cs, hrecord .ps, hbandwidths⟩

theorem state_step_self (table : FamilyTable) (latches : Latches) (s : ServiceState) :
    (step table latches s s false).state = s := by
  have hrelated := table.related_refl s.effectiveDataTechnology
  apply ext_record
  · intro d
    rw [record_step hrelated, ratchetRecord_self]
  · rw [cellBandwidths_step hrelated, s.widen_self]

/-- Carrier aggregation comes only with technologies that are related to LTE with it. -/
def AggregationRelated (table : FamilyTable) (s : ServiceState) : Prop :=
  s.data.carrierAggregation = true → table.related s.effectiveDataTechnology .lteCa = true

/-- What is published is related to what was reported. -/
theorem related_step (latches : Latches) (hold : AggregationRelated table old)
    (hnew : AggregationRelated table new)
    (hgate : table.related old.effectiveDataTechnology new.effectiveDataTechnology = true) :
    table.related (step table latches old new false).state.effectiveDataTechnology
      new.effectiveDataTechnology = true := by
  cases hlatch : latches.data with
  | false =>
    rw [effectiveDataTechnology_step_of_disarmed hlatch hgate]
    exact table.related_refl _
  | true =>
    rw [effectiveDataTechnology_step_of_armed hlatch hgate]
    obtain heq | ⟨hlte, hflag, heq⟩ := effective_eq_or
      (table.higher old.data.technology new.data.technology)
      (old.data.carrierAggregation || new.data.carrierAggregation)
    · -- What is published counts as it is recorded, and so did the state it was taken from.
      rw [heq]
      obtain hhigher | hhigher := table.higher_eq_or old.data.technology new.data.technology
      · rw [hhigher] at heq ⊢
        rwa [old.effectiveDataTechnology_eq, effective_eq_self heq (by simp +contextual)] at hgate
      · rw [hhigher] at heq ⊢
        rw [new.effectiveDataTechnology_eq, effective_eq_self heq (by simp +contextual)]
        exact table.related_refl _
    · -- It is LTE with carrier aggregation, to which the state that had the latter is related.
      rw [heq]
      obtain hflag | hflag := Bool.or_eq_true_iff.1 hflag
      · exact FamilyTable.related_trans (FamilyTable.related_symm (hold hflag)) hgate
      · exact FamilyTable.related_symm (hnew hflag)

theorem aggregationRelated_step (hold : AggregationRelated table old)
    (hnew : AggregationRelated table new) (moved : Bool) :
    AggregationRelated table (step table latches old new moved).state := by
  cases moved with
  | true => exact hnew
  | false =>
    cases hgate : table.related old.effectiveDataTechnology new.effectiveDataTechnology with
    | false => rwa [step_of_unrelated hgate]
    | true =>
      intro hflag
      have hrelated := related_step latches hold hnew hgate
      rw [data_step hgate] at hflag
      obtain hflag | hflag := carrierAggregation_of_ratchetRecord hflag
      · exact FamilyTable.related_trans hrelated
          (FamilyTable.related_trans (FamilyTable.related_symm hgate) (hold hflag))
      · exact FamilyTable.related_trans hrelated (hnew hflag)

/-- Once more ratcheted against what was published for it, a report gives the same state. -/
theorem state_step_again (hold : AggregationRelated table old)
    (hnew : AggregationRelated table new) (moved : Bool) :
    (step table (step table latches old new moved).latches (step table latches old new moved).state
      new false).state = (step table latches old new moved).state := by
  cases moved with
  | true => exact state_step_self table .disarmed new
  | false =>
    cases hgate : table.related old.effectiveDataTechnology new.effectiveDataTechnology with
    | false => rw [step_of_unrelated hgate, state_step_self]
    | true =>
      have hagain := related_step latches hold hnew hgate
      apply ext_record
      · intro d
        rw [record_step hagain, latch_step hgate, record_step hgate, ratchetRecord_again]
      · rw [cellBandwidths_step hagain, cellBandwidths_step hgate, ServiceState.widen_widen]

end Ratchet

end CellularRegistration
