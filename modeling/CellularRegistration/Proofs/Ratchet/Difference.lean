import CellularRegistration.Proofs.Family.Consistency
import CellularRegistration.Proofs.Ratchet.Related

namespace CellularRegistration

namespace FamilyTable

variable {table : FamilyTable} {a b : RadioTechnology}

/-- Both technologies belong to one family, and the first ranks above the second. -/
def RanksAbove (table : FamilyTable) (a b : RadioTechnology) : Prop :=
  ∃ family i j, table.familyOf a = some family ∧ table.familyOf b = some family ∧
    family.rank a = some i ∧ family.rank b = some j ∧ j < i

/-- A new technology gives way to the old one exactly if the old one ranks above it. -/
theorem WellFormed.higher_ne_iff (h : table.WellFormed) :
    table.higher a b ≠ b ↔ table.RanksAbove a b := by
  constructor
  · intro hne
    have hsame : table.sameFamily a b = true := by
      rw [← Bool.not_eq_false]
      exact fun hapart => hne (higher_of_not_sameFamily hapart)
    obtain ⟨family, hfounda, hfoundb⟩ := h.sameFamily_iff_familyOf.1 hsame
    obtain ⟨hfamily, ha⟩ := h.familyOf_eq_some_iff.1 hfounda
    obtain ⟨-, hb⟩ := h.familyOf_eq_some_iff.1 hfoundb
    obtain ⟨i, hi⟩ := Family.exists_rank ha
    obtain ⟨j, hj⟩ := Family.exists_rank hb
    refine ⟨family, i, j, hfounda, hfoundb, hi, hj, Nat.lt_of_not_le fun hle => ?_⟩
    exact hne (h.higher_eq_right hfamily ⟨i, j, hi, hj, hle⟩)
  · rintro ⟨family, i, j, hfounda, -, hi, hj, hlt⟩ heq
    have hfamily := (h.familyOf_eq_some_iff.1 hfounda).1
    rw [h.higher_eq_left hfamily ⟨j, i, hj, hi, Nat.le_of_lt hlt⟩] at heq
    rw [heq, hj] at hi
    exact Nat.lt_irrefl _ (Option.some.inj hi ▸ hlt)

end FamilyTable

/-- Whether the technology of a domain was held. -/
def RatchetOutcome.held (outcome : RatchetOutcome) : Domain → Bool
  | .cs => outcome.voiceHeld
  | .ps => outcome.dataHeld

namespace Ratchet

variable {table : FamilyTable} {latches : Latches} {old new : ServiceState} {moved : Bool}
  {d : Domain}

theorem sameFamily_step_iff : (step table latches old new moved).outcome.sameFamily = true ↔
    moved = false ∧
      table.related old.effectiveDataTechnology new.effectiveDataTechnology = true := by
  cases moved with
  | true => simp [step, RatchetOutcome.untouched]
  | false => simp [sameFamily_step]

theorem step_of_not_sameFamily
    (h : (step table latches old new moved).outcome.sameFamily = false) :
    (step table latches old new moved).outcome = .untouched ∧
      (step table latches old new moved).state = new := by
  cases moved with
  | true => exact ⟨rfl, rfl⟩
  | false =>
    rw [sameFamily_step] at h
    rw [step_of_unrelated h]
    exact ⟨rfl, rfl⟩

/-- The record of a domain is ratcheted if the states are compared and the latch of the domain is
on. Otherwise it stays as it was reported. -/
theorem record_step_eq (table : FamilyTable) (latches : Latches) (old new : ServiceState)
    (moved : Bool) (d : Domain) :
    (step table latches old new moved).state.record d =
      if (step table latches old new moved).outcome.sameFamily = true ∧
          latches.ofDomain d = true then
        { new.record d with
          technology := table.higher (old.record d).technology (new.record d).technology
          carrierAggregation :=
            (old.record d).carrierAggregation || (new.record d).carrierAggregation }
      else new.record d := by
  cases hsame : (step table latches old new moved).outcome.sameFamily with
  | false => rw [(step_of_not_sameFamily hsame).2, if_neg (by simp)]
  | true =>
    obtain ⟨rfl, hgate⟩ := sameFamily_step_iff.1 hsame
    rw [record_step hgate, ratchetRecord]
    cases latches.ofDomain d <;> simp

/-- But for technology and carrier aggregation, a record stays as it was reported. -/
theorem record_step_eq_with (table : FamilyTable) (latches : Latches) (old new : ServiceState)
    (moved : Bool) (d : Domain) :
    (step table latches old new moved).state.record d =
      { new.record d with
        technology := ((step table latches old new moved).state.record d).technology
        carrierAggregation :=
          ((step table latches old new moved).state.record d).carrierAggregation } := by
  rw [record_step_eq]
  split <;> rfl

theorem technology_step_eq (table : FamilyTable) (latches : Latches) (old new : ServiceState)
    (moved : Bool) (d : Domain) :
    ((step table latches old new moved).state.record d).technology =
      if (step table latches old new moved).outcome.sameFamily = true ∧
          latches.ofDomain d = true then
        table.higher (old.record d).technology (new.record d).technology
      else (new.record d).technology := by
  rw [record_step_eq]
  split <;> rfl

theorem technology_step_cases (table : FamilyTable) (latches : Latches) (old new : ServiceState)
    (moved : Bool) (d : Domain) :
    ((step table latches old new moved).state.record d).technology = (new.record d).technology ∨
      moved = false ∧
        ((step table latches old new moved).state.record d).technology =
          (old.record d).technology := by
  rw [technology_step_eq]
  split
  next hratcheted =>
    obtain hhigher | hhigher :=
      table.higher_eq_or (old.record d).technology (new.record d).technology
    · exact .inr ⟨(sameFamily_step_iff.1 hratcheted.1).1, hhigher⟩
    · exact .inl hhigher
  next => exact .inl rfl

theorem technology_step_ne_iff (htable : table.WellFormed) :
    ((step table latches old new moved).state.record d).technology ≠ (new.record d).technology ↔
      (step table latches old new moved).outcome.sameFamily = true ∧ latches.ofDomain d = true ∧
        table.RanksAbove (old.record d).technology (new.record d).technology := by
  rw [technology_step_eq, ← htable.higher_ne_iff, ← and_assoc]
  split
  next hratcheted => rw [and_iff_right hratcheted]
  next hnot => simp [hnot]

theorem carrierAggregation_step_iff :
    ((step table latches old new moved).state.record d).carrierAggregation = true ↔
      (new.record d).carrierAggregation = true ∨
        (step table latches old new moved).outcome.sameFamily = true ∧
          latches.ofDomain d = true ∧ (old.record d).carrierAggregation = true := by
  rw [record_step_eq, ← and_assoc]
  split
  next hratcheted => rw [and_iff_right hratcheted, Bool.or_eq_true, or_comm]
  next hnot => simp [hnot]

theorem carrierAggregation_of_step
    (h : ((step table latches old new moved).state.record d).carrierAggregation = true) :
    (new.record d).carrierAggregation = true ∨
      moved = false ∧ (old.record d).carrierAggregation = true := by
  obtain hnew | ⟨hsame, -, hold⟩ := carrierAggregation_step_iff.1 h
  · exact .inl hnew
  · exact .inr ⟨(sameFamily_step_iff.1 hsame).1, hold⟩

theorem updated_step_iff :
    (step table latches old new moved).outcome.bandwidthsUpdated = true ↔
      (step table latches old new moved).outcome.sameFamily = true ∧
        new.aggregateBandwidth < old.aggregateBandwidth := by
  cases hsame : (step table latches old new moved).outcome.sameFamily with
  | false =>
    rw [(step_of_not_sameFamily hsame).1]
    simp [RatchetOutcome.untouched]
  | true =>
    obtain ⟨rfl, hgate⟩ := sameFamily_step_iff.1 hsame
    rw [step_of_related hgate, and_iff_right rfl]
    exact decide_eq_true_iff

theorem cellBandwidths_step_eq (table : FamilyTable) (latches : Latches) (old new : ServiceState)
    (moved : Bool) :
    (step table latches old new moved).state.cellBandwidths =
      if (step table latches old new moved).outcome.bandwidthsUpdated then old.cellBandwidths
      else new.cellBandwidths := by
  cases hsame : (step table latches old new moved).outcome.sameFamily with
  | false =>
    obtain ⟨houtcome, hstate⟩ := step_of_not_sameFamily hsame
    rw [houtcome, hstate]
    rfl
  | true =>
    obtain ⟨rfl, hgate⟩ := sameFamily_step_iff.1 hsame
    rw [cellBandwidths_step hgate, step_of_related hgate, ServiceState.widen]
    simp only [decide_eq_true_eq]
    split <;> rfl

theorem cellBandwidths_step_cases (table : FamilyTable) (latches : Latches) (old new : ServiceState)
    (moved : Bool) :
    (step table latches old new moved).state.cellBandwidths = new.cellBandwidths ∨
      moved = false ∧
        (step table latches old new moved).state.cellBandwidths = old.cellBandwidths := by
  rw [cellBandwidths_step_eq]
  split
  next hupdated => exact .inr ⟨(sameFamily_step_iff.1 (updated_step_iff.1 hupdated).1).1, rfl⟩
  next => exact .inl rfl

theorem held_ratchetRecord (table : FamilyTable) (armed : Bool) (old new : RegistrationRecord) :
    (ratchetRecord table armed old new).held =
      ((ratchetRecord table armed old new).record.technology != new.technology) := by
  cases armed with
  | false => exact (bne_self_eq_false _).symm
  | true => rfl

theorem held_step_iff : (step table latches old new moved).outcome.held d = true ↔
    ((step table latches old new moved).state.record d).technology ≠
      (new.record d).technology := by
  cases hsame : (step table latches old new moved).outcome.sameFamily with
  | false =>
    obtain ⟨houtcome, hstate⟩ := step_of_not_sameFamily hsame
    rw [houtcome, hstate]
    cases d <;> simp [RatchetOutcome.held, RatchetOutcome.untouched]
  | true =>
    obtain ⟨rfl, hgate⟩ := sameFamily_step_iff.1 hsame
    have hheld : (step table latches old new false).outcome.held d =
        (ratchetRecord table (latches.ofDomain d) (old.record d) (new.record d)).held := by
      rw [step_of_related hgate]
      cases d <;> rfl
    rw [hheld, held_ratchetRecord, ← record_step hgate, bne_iff_ne]

theorem updated_step_iff_changed :
    (step table latches old new moved).outcome.bandwidthsUpdated = true ↔
      (step table latches old new moved).state.cellBandwidths ≠ new.cellBandwidths := by
  rw [cellBandwidths_step_eq]
  split
  next hupdated =>
    -- A list with a larger total is another list.
    have hwider := (updated_step_iff.1 hupdated).2
    refine iff_of_true hupdated fun heq => ?_
    rw [ServiceState.aggregateBandwidth, ServiceState.aggregateBandwidth, heq] at hwider
    exact Nat.lt_irrefl _ hwider
  next hkept => exact iff_of_false hkept fun hne => hne rfl

/-- What the outcome of a step tells is what the step has changed in the report. -/
structure ExactDifference (table : FamilyTable) (latches : Latches) (old new : ServiceState)
    (moved : Bool) (taken : Step) : Prop where
  /-- The states are compared if the device stays where it is and the data technologies, as they
  count, are equal or of one family. -/
  sameFamily_iff : taken.outcome.sameFamily = true ↔ moved = false ∧
    (old.effectiveDataTechnology = new.effectiveDataTechnology ∨
      table.sameFamily old.effectiveDataTechnology new.effectiveDataTechnology = true)
  untouched : taken.outcome.sameFamily = false →
    taken.outcome = ⟨false, false, false, false⟩ ∧ taken.state = new
  held_iff_changed : ∀ d, taken.outcome.held d = true ↔
    (taken.state.record d).technology ≠ (new.record d).technology
  held_iff_ranksAbove : ∀ d, taken.outcome.held d = true ↔
    taken.outcome.sameFamily = true ∧ latches.ofDomain d = true ∧
      table.RanksAbove (old.record d).technology (new.record d).technology
  technology_of_held : ∀ d, taken.outcome.held d = true →
    (taken.state.record d).technology = (old.record d).technology
  updated_iff_changed : taken.outcome.bandwidthsUpdated = true ↔
    taken.state.cellBandwidths ≠ new.cellBandwidths
  updated_iff_wider : taken.outcome.bandwidthsUpdated = true ↔
    taken.outcome.sameFamily = true ∧ new.aggregateBandwidth < old.aggregateBandwidth
  bandwidths_of_updated : taken.outcome.bandwidthsUpdated = true →
    taken.state.cellBandwidths = old.cellBandwidths
  /-- Carrier aggregation that was reported stays. What is added to it was in the old record. -/
  carrierAggregation_iff : ∀ d, (taken.state.record d).carrierAggregation = true ↔
    (new.record d).carrierAggregation = true ∨
      taken.outcome.sameFamily = true ∧ latches.ofDomain d = true ∧
        (old.record d).carrierAggregation = true
  record_eq : ∀ d, taken.state.record d =
    { new.record d with
      technology := (taken.state.record d).technology
      carrierAggregation := (taken.state.record d).carrierAggregation }

/-- Whatever the groups of which the table was built, the latches and the states are, and whether or
not the device has moved, the outcome of a step tells exactly what the step has changed. -/
theorem exactDifference_step (groups : List String) (latches : Latches) (old new : ServiceState)
    (moved : Bool) :
    let table := (FamilyTable.build groups).1
    ExactDifference table latches old new moved (step table latches old new moved) := by
  intro table
  have htable : table.WellFormed := FamilyTable.wellFormed_build groups
  exact
    { sameFamily_iff := by rw [sameFamily_step_iff, FamilyTable.related_iff]
      untouched := step_of_not_sameFamily
      held_iff_changed := fun d => held_step_iff
      held_iff_ranksAbove := fun d => held_step_iff.trans (technology_step_ne_iff htable)
      technology_of_held := fun d hheld =>
        ((technology_step_cases table latches old new moved d).resolve_left
          (held_step_iff.1 hheld)).2
      updated_iff_changed := updated_step_iff_changed
      updated_iff_wider := updated_step_iff
      bandwidths_of_updated := fun hupdated => by rw [cellBandwidths_step_eq, if_pos hupdated]
      carrierAggregation_iff := fun d => carrierAggregation_step_iff
      record_eq := record_step_eq_with table latches old new moved }

/-- Where the technologies of a domain have no family in common, its record stays exactly as it was
reported, unless carrier aggregation is carried over to it. That happens if the states are compared
and the latch of the domain is on. -/
theorem record_step_of_apart (table : FamilyTable) (latches : Latches) (old new : ServiceState)
    {d : Domain}
    (hapart : table.sameFamily (old.record d).technology (new.record d).technology = false) :
    (step table latches old new false).outcome.held d = false ∧
      (step table latches old new false).state.record d =
        if table.related old.effectiveDataTechnology new.effectiveDataTechnology = true ∧
            latches.ofDomain d = true ∧ (old.record d).carrierAggregation = true then
          { new.record d with carrierAggregation := true }
        else new.record d := by
  have hrecord := record_step_eq table latches old new false d
  rw [FamilyTable.higher_of_not_sameFamily hapart, sameFamily_step] at hrecord
  constructor
  · rw [← Bool.not_eq_true, held_step_iff, not_not, hrecord]
    split <;> rfl
  · rw [hrecord]
    split
    next hratcheted =>
      cases (old.record d).carrierAggregation with
      | false =>
        rw [if_neg (by simp)]
        rfl
      | true =>
        rw [if_pos ⟨hratcheted.1, hratcheted.2, rfl⟩]
        rfl
    next hnot => rw [if_neg fun h => hnot ⟨h.1, h.2.1⟩]

/-- While the data technology is held in its family, the voice record, which has nothing to do with
that family, is published as it was reported. -/
theorem voice_untouched_while_data_held :
    let table := (FamilyTable.build ["9,10,11,15"]).1
    let old : ServiceState := { ServiceState.plain .hspap false with
      voice := (ServiceState.plain .gsm false).voice }
    let new : ServiceState := { ServiceState.plain .hsdpa false with
      voice := (ServiceState.plain .umts false).voice }
    table.sameFamily .gsm .umts = false ∧
      (step table .armed old new false).outcome.dataHeld = true ∧
      (step table .armed old new false).state.voice = new.voice := by
  intro table old new
  have hapart : table.sameFamily (old.record .cs).technology (new.record .cs).technology = false := by
    decide
  exact ⟨hapart, by decide, (record_step_of_apart table .armed old new hapart).2⟩

/-- LTE with carrier aggregation counts as the technology that is reported after it, without a
family in common. The report did not have the flag, and is published with it. -/
theorem aggregation_carried_to_lteCa :
    let old := ServiceState.plain .lte true
    let new := ServiceState.plain .lteCa false
    (old.data.technology ≠ new.data.technology ∧
      FamilyTable.empty.sameFamily old.data.technology new.data.technology = false) ∧
      (step .empty .armed old new false).state.data = { new.data with carrierAggregation := true } ∧
      ¬ ∀ (table : FamilyTable) (latches : Latches) (old new : ServiceState) (d : Domain),
        (old.record d).technology ≠ (new.record d).technology →
        table.sameFamily (old.record d).technology (new.record d).technology = false →
        (step table latches old new false).state.record d = new.record d := by
  intro old new
  have happart : old.data.technology ≠ new.data.technology ∧
      FamilyTable.empty.sameFamily old.data.technology new.data.technology = false := by decide
  refine ⟨happart, by decide, fun hall => ?_⟩
  exact absurd (hall .empty .armed old new .ps happart.1 happart.2) (by decide)

end Ratchet

end CellularRegistration
