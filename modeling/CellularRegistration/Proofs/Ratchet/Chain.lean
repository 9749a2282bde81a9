import CellularRegistration.Ratchet
import CellularRegistration.Record.Normalize
import Mathlib.Data.List.Chain

namespace CellularRegistration

/-- A registration at home with a technology, and with carrier aggregation or not. -/
def RegistrationRecord.plain (extension : DomainInfo) (technology : RadioTechnology)
    (carrierAggregation : Bool) : RegistrationRecord :=
  { RegistrationRecord.ofReported extension.domain 1 0 0 none extension with
    technology
    carrierAggregation }

/-- A state with one technology for both domains. -/
def ServiceState.plain (technology : RadioTechnology) (carrierAggregation : Bool) :
    ServiceState where
  voice := .plain (.cs ⟨false, 0, 0, 0⟩) technology false
  data := .plain (.ps ⟨16, false, false, false, .notAvailable⟩) technology carrierAggregation
  cellBandwidths := []

namespace Ratchet

/-- A reported state, the families that are current then, and whether the device has moved. -/
structure Report where
  table : FamilyTable
  state : ServiceState
  moved : Bool

/-- A report of a device that stays where it is. -/
def Report.inPlace (table : FamilyTable) (state : ServiceState) : Report :=
  ⟨table, state, false⟩

/-- The steps of a ratchet for some reports, each against the state that the step before
published. -/
def chain (latches : Latches) (published : ServiceState) : List Report → List Step
  | [] => []
  | report :: reports =>
    let taken := step report.table latches published report.state report.moved
    taken :: chain taken.latches taken.state reports

/-- The steps for reports of a device that stays where it is, while the families stay the same. -/
def chainInPlace (table : FamilyTable) (latches : Latches) (published : ServiceState)
    (reports : List ServiceState) : List Step :=
  chain latches published (reports.map (.inPlace table))

section Step

variable {table : FamilyTable} {latches : Latches} {old new : ServiceState}

theorem step_of_unrelated
    (h : table.related old.effectiveDataTechnology new.effectiveDataTechnology = false) :
    step table latches old new false = ⟨latches, new, .untouched⟩ := by
  simp [step, h]

theorem step_of_related
    (h : table.related old.effectiveDataTechnology new.effectiveDataTechnology = true) :
    step table latches old new false =
      { latches :=
          ⟨(ratchetRecord table latches.voice old.voice new.voice).armed,
            (ratchetRecord table latches.data old.data new.data).armed⟩
        state :=
          { voice := (ratchetRecord table latches.voice old.voice new.voice).record
            data := (ratchetRecord table latches.data old.data new.data).record
            cellBandwidths := (new.widen old.cellBandwidths).cellBandwidths }
        outcome :=
          { sameFamily := true
            bandwidthsUpdated :=
              decide (new.aggregateBandwidth < ServiceState.totalBandwidth old.cellBandwidths)
            voiceHeld := (ratchetRecord table latches.voice old.voice new.voice).held
            dataHeld := (ratchetRecord table latches.data old.data new.data).held } } := by
  simp [step, h]

theorem sameFamily_step (table : FamilyTable) (latches : Latches) (old new : ServiceState) :
    (step table latches old new false).outcome.sameFamily =
      table.related old.effectiveDataTechnology new.effectiveDataTechnology := by
  cases hrelated : table.related old.effectiveDataTechnology new.effectiveDataTechnology with
  | false => rw [step_of_unrelated hrelated, RatchetOutcome.untouched]
  | true => rw [step_of_related hrelated]

section Related

variable (h : table.related old.effectiveDataTechnology new.effectiveDataTechnology = true)
include h

theorem record_step (d : Domain) :
    (step table latches old new false).state.record d =
      (ratchetRecord table (latches.ofDomain d) (old.record d) (new.record d)).record := by
  rw [step_of_related h]
  cases d <;> rfl

theorem data_step :
    (step table latches old new false).state.data =
      (ratchetRecord table latches.data old.data new.data).record :=
  record_step h .ps

theorem latch_step (d : Domain) :
    (step table latches old new false).latches.ofDomain d =
      (ratchetRecord table (latches.ofDomain d) (old.record d) (new.record d)).armed := by
  rw [step_of_related h]
  cases d <;> rfl

theorem cellBandwidths_step :
    (step table latches old new false).state.cellBandwidths =
      (new.widen old.cellBandwidths).cellBandwidths := by
  rw [step_of_related h]

end Related

/-- A latch that is on stays on, whether the report is ratcheted or not. -/
theorem latch_step_of_armed {d : Domain} (h : latches.ofDomain d = true) :
    (step table latches old new false).latches.ofDomain d = true := by
  cases hrelated : table.related old.effectiveDataTechnology new.effectiveDataTechnology with
  | true => rw [latch_step hrelated, h, ratchetRecord, if_pos rfl]
  | false => rwa [step_of_unrelated hrelated]

end Step

theorem length_chain (latches : Latches) (initial : ServiceState) (reports : List Report) :
    (chain latches initial reports).length = reports.length := by
  induction reports generalizing latches initial with
  | nil => rfl
  | cons report reports ih => simp [chain, ih]

theorem length_chainInPlace (table : FamilyTable) (latches : Latches) (initial : ServiceState)
    (reports : List ServiceState) :
    (chainInPlace table latches initial reports).length = reports.length := by
  rw [chainInPlace, length_chain, List.length_map]

section Invariants

variable {I : Latches → ServiceState → Prop} {Q : Report → Prop} {G : Step → Prop}
  {latches : Latches} {initial : ServiceState} {reports : List Report}

/-- A relation that every step establishes between the state before it and the state it publishes,
and an invariant that it keeps, hold along a chain. -/
theorem isChain_chain {R : ServiceState → ServiceState → Prop}
    (hstep : ∀ latches old report, I latches old → Q report →
      G (step report.table latches old report.state report.moved) →
      I (step report.table latches old report.state report.moved).latches
        (step report.table latches old report.state report.moved).state ∧
      R old (step report.table latches old report.state report.moved).state)
    (hinitial : I latches initial) (hreports : ∀ report ∈ reports, Q report)
    (hgood : ∀ taken ∈ chain latches initial reports, G taken) :
    (∀ taken ∈ chain latches initial reports, I taken.latches taken.state) ∧
      (initial :: (chain latches initial reports).map Step.state).IsChain R := by
  induction reports generalizing latches initial with
  | nil => exact ⟨by simp [chain], .singleton initial⟩
  | cons report reports ih =>
    rw [chain] at hgood ⊢
    obtain ⟨hreport, hreports⟩ := List.forall_mem_cons.1 hreports
    obtain ⟨hfirst, hrest⟩ := List.forall_mem_cons.1 hgood
    obtain ⟨hkept, hrelation⟩ := hstep latches initial report hinitial hreport hfirst
    obtain ⟨hall, hchain⟩ := ih hkept hreports hrest
    exact ⟨List.forall_mem_cons.2 ⟨hkept, hall⟩, .cons_cons hrelation hchain⟩

/-- What the reports so far tell of the state holds at every step of a chain, if every step carries
it on. -/
theorem forall_chain {T : List Report → Latches → ServiceState → Prop}
    (hstep : ∀ seen latches old report, T seen latches old → Q report →
      G (step report.table latches old report.state report.moved) →
      T (seen ++ [report]) (step report.table latches old report.state report.moved).latches
        (step report.table latches old report.state report.moved).state)
    (seen : List Report) (hinitial : T seen latches initial) (hreports : ∀ report ∈ reports, Q report)
    (hgood : ∀ taken ∈ chain latches initial reports, G taken) :
    ∀ i < reports.length, ∃ taken, (chain latches initial reports)[i]? = some taken ∧
      T (seen ++ reports.take (i + 1)) taken.latches taken.state := by
  induction reports generalizing latches initial seen with
  | nil =>
    intro i hi
    cases hi
  | cons report reports ih =>
    rw [chain] at hgood ⊢
    obtain ⟨hreport, hreports⟩ := List.forall_mem_cons.1 hreports
    obtain ⟨hfirst, hrest⟩ := List.forall_mem_cons.1 hgood
    have hcarried := hstep seen latches initial report hinitial hreport hfirst
    intro i hi
    cases i with
    | zero => exact ⟨_, rfl, hcarried⟩
    | succ i =>
      obtain ⟨taken, hget, htold⟩ := ih _ hcarried hreports hrest i (Nat.lt_of_succ_lt_succ hi)
      rw [List.append_assoc] at htold
      exact ⟨taken, hget, htold⟩

end Invariants

section InPlace

variable {table : FamilyTable} {Q : ServiceState → Prop} {G : Step → Prop} {latches : Latches}
  {initial : ServiceState} {reports : List ServiceState}

theorem isChain_chainInPlace {I : Latches → ServiceState → Prop}
    {R : ServiceState → ServiceState → Prop}
    (hstep : ∀ latches old new, I latches old → Q new →
      G (step table latches old new false) →
      I (step table latches old new false).latches (step table latches old new false).state ∧
        R old (step table latches old new false).state)
    (hinitial : I latches initial) (hreports : ∀ new ∈ reports, Q new)
    (hgood : ∀ taken ∈ chainInPlace table latches initial reports, G taken) :
    (∀ taken ∈ chainInPlace table latches initial reports, I taken.latches taken.state) ∧
      (initial :: (chainInPlace table latches initial reports).map Step.state).IsChain R := by
  refine isChain_chain (Q := fun report => ∃ new, Q new ∧ report = .inPlace table new) ?_ hinitial
    ?_ hgood
  · rintro latches old _ hold ⟨new, hnew, rfl⟩ hgood
    exact hstep latches old new hold hnew hgood
  · intro report hreport
    obtain ⟨new, hnew, rfl⟩ := List.mem_map.1 hreport
    exact ⟨new, hreports new hnew, rfl⟩

theorem map_state_inPlace (table : FamilyTable) (reports : List ServiceState) :
    (reports.map (.inPlace table)).map Report.state = reports := by
  rw [List.map_map]
  exact List.map_id reports

theorem forall_chainInPlace {T : List ServiceState → Latches → ServiceState → Prop}
    (hstep : ∀ seen latches old new, T seen latches old → Q new →
      G (step table latches old new false) →
      T (seen ++ [new]) (step table latches old new false).latches
        (step table latches old new false).state)
    {seen : List ServiceState} (hinitial : T seen latches initial)
    (hreports : ∀ new ∈ reports, Q new)
    (hgood : ∀ taken ∈ chainInPlace table latches initial reports, G taken) :
    ∀ i < reports.length, ∃ taken, (chainInPlace table latches initial reports)[i]? = some taken ∧
      T (seen ++ reports.take (i + 1)) taken.latches taken.state := by
  have hall := forall_chain (Q := fun report => ∃ new, Q new ∧ report = .inPlace table new)
    (T := fun reports latches state => T (reports.map Report.state) latches state)
    (fun seen latches old report hold hreport hgood => by
      obtain ⟨new, hnew, rfl⟩ := hreport
      rw [List.map_append]
      exact hstep _ latches old new hold hnew hgood)
    (seen.map (.inPlace table)) ((map_state_inPlace table seen).symm ▸ hinitial)
    (fun report hreport => by
      obtain ⟨new, hnew, rfl⟩ := List.mem_map.1 hreport
      exact ⟨new, hreports new hnew, rfl⟩) hgood
  intro i hi
  obtain ⟨taken, hget, htold⟩ := hall i (by rwa [List.length_map])
  rw [← List.map_take, ← List.map_append, map_state_inPlace] at htold
  exact ⟨taken, hget, htold⟩

end InPlace

end Ratchet

end CellularRegistration
