import CellularRegistration.Proofs.Family.WellFormed
import CellularRegistration.Proofs.Ratchet.Chain

namespace CellularRegistration

/-- A technology as it counts with carrier aggregation or without. -/
def RadioTechnology.effective (technology : RadioTechnology) (carrierAggregation : Bool) :
    RadioTechnology :=
  if technology = .lte ∧ carrierAggregation then .lteCa else technology

theorem ServiceState.effectiveDataTechnology_eq (s : ServiceState) :
    s.effectiveDataTechnology = s.data.technology.effective s.data.carrierAggregation :=
  rfl

namespace RadioTechnology

variable {technology : RadioTechnology} {aggregated : Bool}

@[simp]
theorem effective_false : technology.effective false = technology := by
  simp [effective]

@[simp]
theorem effective_lte_true : RadioTechnology.lte.effective true = .lteCa :=
  rfl

theorem effective_of_ne (h : technology ≠ .lte) : technology.effective aggregated = technology := by
  simp [effective, h]

theorem effective_eq_or (technology : RadioTechnology) (aggregated : Bool) :
    technology.effective aggregated = technology ∨
      technology = .lte ∧ aggregated = true ∧ technology.effective aggregated = .lteCa := by
  by_cases hlte : technology = .lte
  · subst hlte
    cases aggregated with
    | false => exact .inl effective_false
    | true => exact .inr ⟨rfl, rfl, rfl⟩
  · exact .inl (effective_of_ne hlte)

theorem effective_eq_lteCa {f g : Bool} (h : technology.effective f = .lteCa)
    (hkept : f = true → g = true) : technology.effective g = .lteCa := by
  obtain heq | ⟨rfl, hf, -⟩ := effective_eq_or technology f
  · rw [heq] at h
    rw [effective_of_ne (by simp [h]), h]
  · rw [hkept hf, effective_lte_true]

theorem effective_eq_self {f g : Bool} (h : technology.effective g = technology)
    (hkept : f = true → g = true) : technology.effective f = technology := by
  obtain heq | ⟨rfl, hf, -⟩ := effective_eq_or technology f
  · exact heq
  · rw [hkept hf, effective_lte_true] at h
    cases h

end RadioTechnology

namespace FamilyTable

variable {table : FamilyTable} {a b c : RadioTechnology}

theorem related_iff : table.related a b = true ↔ a = b ∨ table.sameFamily a b = true := by
  simp [related]

theorem related_refl (table : FamilyTable) (a : RadioTechnology) : table.related a a = true :=
  related_iff.2 (.inl rfl)

theorem related_symm (h : table.related a b = true) : table.related b a = true := by
  rw [related_iff] at h ⊢
  rwa [sameFamily_comm, eq_comm]

theorem related_trans (hab : table.related a b = true) (hbc : table.related b c = true) :
    table.related a c = true := by
  rw [related_iff] at hab hbc ⊢
  obtain rfl | hab := hab
  · exact hbc
  · obtain rfl | hbc := hbc
    · exact .inr hab
    · exact .inr (sameFamily_trans hab hbc)

theorem WellFormed.related_of_mem (h : table.WellFormed) {family : Family}
    (hfamily : family ∈ table.families) (ha : a ∈ family.members) (hb : b ∈ family.members) :
    table.related a b = true :=
  related_iff.2 (.inr (h.sameFamily_of_mem hfamily ha hb))

end FamilyTable

namespace Ratchet

variable {table : FamilyTable} {latches : Latches} {old new : ServiceState}

theorem effectiveDataTechnology_step_of_armed (harmed : latches.data = true)
    (hgate : table.related old.effectiveDataTechnology new.effectiveDataTechnology = true) :
    (step table latches old new false).state.effectiveDataTechnology =
      (table.higher old.data.technology new.data.technology).effective
        (old.data.carrierAggregation || new.data.carrierAggregation) := by
  rw [ServiceState.effectiveDataTechnology_eq, data_step hgate, harmed]
  rfl

theorem effectiveDataTechnology_step_of_disarmed (hdisarmed : latches.data = false)
    (hgate : table.related old.effectiveDataTechnology new.effectiveDataTechnology = true) :
    (step table latches old new false).state.effectiveDataTechnology =
      new.effectiveDataTechnology := by
  rw [ServiceState.effectiveDataTechnology_eq, data_step hgate, hdisarmed]
  rfl

end Ratchet

end CellularRegistration
