import CellularRegistration.Proofs.Ratchet.Related

namespace CellularRegistration

/-- Two states with the same data registration and the same bandwidths. -/
structure ServiceState.SameData (s t : ServiceState) : Prop where
  data : s.data = t.data
  cellBandwidths : s.cellBandwidths = t.cellBandwidths

/-- Two records that differ at most in fields that the ratchet does not look at. -/
structure RegistrationRecord.SameRatcheted (r q : RegistrationRecord) : Prop where
  technology : r.technology = q.technology
  carrierAggregation : r.carrierAggregation = q.carrierAggregation

/-- Two states that differ at most in fields of their records that the ratchet does not look at. -/
structure ServiceState.SameRatcheted (s t : ServiceState) : Prop where
  voice : s.voice.SameRatcheted t.voice
  data : s.data.SameRatcheted t.data
  cellBandwidths : s.cellBandwidths = t.cellBandwidths

namespace ServiceState

variable {s t : ServiceState}

theorem SameData.effectiveDataTechnology_eq (h : s.SameData t) :
    s.effectiveDataTechnology = t.effectiveDataTechnology := by
  rw [s.effectiveDataTechnology_eq, t.effectiveDataTechnology_eq, h.data]

theorem SameRatcheted.effectiveDataTechnology_eq (h : s.SameRatcheted t) :
    s.effectiveDataTechnology = t.effectiveDataTechnology := by
  rw [s.effectiveDataTechnology_eq, t.effectiveDataTechnology_eq, h.data.technology,
    h.data.carrierAggregation]

end ServiceState

namespace Ratchet

/-- Two reports with the same families, of devices that both have moved or both not, and whose
states agree. -/
structure Report.Alike (agree : ServiceState → ServiceState → Prop) (report other : Report) :
    Prop where
  table : report.table = other.table
  moved : report.moved = other.moved
  state : agree report.state other.state

/-- Two steps with the same outcome on the data side. -/
structure Step.SameData (taken other : Step) : Prop where
  state : taken.state.SameData other.state
  latch : taken.latches.data = other.latches.data
  sameFamily : taken.outcome.sameFamily = other.outcome.sameFamily
  bandwidthsUpdated : taken.outcome.bandwidthsUpdated = other.outcome.bandwidthsUpdated
  dataHeld : taken.outcome.dataHeld = other.outcome.dataHeld

/-- Two steps that differ at most in fields of their records that the ratchet does not look at. -/
structure Step.SameRatcheted (taken other : Step) : Prop where
  state : taken.state.SameRatcheted other.state
  latches : taken.latches = other.latches
  outcome : taken.outcome = other.outcome

section Step

variable {table : FamilyTable} {latches latches' : Latches} {old old' new new' : ServiceState}

theorem bandwidths_congr (hold : old.cellBandwidths = old'.cellBandwidths)
    (hnew : new.cellBandwidths = new'.cellBandwidths) :
    (new.widen old.cellBandwidths).cellBandwidths =
        (new'.widen old'.cellBandwidths).cellBandwidths ∧
      (new.aggregateBandwidth < ServiceState.totalBandwidth old.cellBandwidths ↔
        new'.aggregateBandwidth < ServiceState.totalBandwidth old'.cellBandwidths) := by
  have haggregate : new.aggregateBandwidth = new'.aggregateBandwidth :=
    congrArg ServiceState.totalBandwidth hnew
  refine ⟨?_, by rw [haggregate, hold]⟩
  simp only [ServiceState.widen, haggregate, hold]
  split
  · rfl
  · exact hnew

/-- The fields that are passed over are taken from the report as they are. -/
theorem ratchetRecord_congr (table : FamilyTable) (armed : Bool)
    {old old' new new' : RegistrationRecord} (hold : old.SameRatcheted old')
    (hnew : new.SameRatcheted new') :
    (ratchetRecord table armed old new).record.SameRatcheted
        (ratchetRecord table armed old' new').record ∧
      (ratchetRecord table armed old new).armed = (ratchetRecord table armed old' new').armed ∧
      (ratchetRecord table armed old new).held = (ratchetRecord table armed old' new').held := by
  cases armed with
  | true =>
    have htechnology : table.higher old.technology new.technology =
        table.higher old'.technology new'.technology := by
      rw [hold.technology, hnew.technology]
    have hflag : (old.carrierAggregation || new.carrierAggregation) =
        (old'.carrierAggregation || new'.carrierAggregation) := by
      rw [hold.carrierAggregation, hnew.carrierAggregation]
    refine ⟨⟨htechnology, hflag⟩, rfl, ?_⟩
    simp only [ratchetRecord, if_true, hold.technology, hnew.technology]
  | false =>
    refine ⟨hnew, ?_, rfl⟩
    simp only [ratchetRecord, Bool.false_eq_true, if_false, hold.technology, hnew.technology]

/-- The voice records and the voice latch have no part in the data side of a step, for the gate
compares the data technologies alone. -/
theorem sameData_step (table : FamilyTable) (hlatch : latches.data = latches'.data)
    (hold : old.SameData old') (hnew : new.SameData new') (moved : Bool) :
    Step.SameData (step table latches old new moved) (step table latches' old' new' moved) := by
  cases moved with
  | true => exact ⟨hnew, rfl, rfl, rfl, rfl⟩
  | false =>
    have hsame : table.related old'.effectiveDataTechnology new'.effectiveDataTechnology =
        table.related old.effectiveDataTechnology new.effectiveDataTechnology := by
      rw [hold.effectiveDataTechnology_eq, hnew.effectiveDataTechnology_eq]
    cases hgate : table.related old.effectiveDataTechnology new.effectiveDataTechnology with
    | false =>
      rw [step_of_unrelated hgate, step_of_unrelated (hsame.trans hgate)]
      exact ⟨hnew, hlatch, rfl, rfl, rfl⟩
    | true =>
      have hdata : ratchetRecord table latches.data old.data new.data =
          ratchetRecord table latches'.data old'.data new'.data := by
        rw [hlatch, hold.data, hnew.data]
      obtain ⟨hbandwidths, hwider⟩ := bandwidths_congr hold.cellBandwidths hnew.cellBandwidths
      rw [step_of_related hgate, step_of_related (hsame.trans hgate), hdata]
      exact ⟨⟨rfl, hbandwidths⟩, rfl, rfl, decide_eq_decide.2 hwider, rfl⟩

theorem sameRatcheted_step (table : FamilyTable) (latches : Latches)
    (hold : old.SameRatcheted old') (hnew : new.SameRatcheted new') (moved : Bool) :
    Step.SameRatcheted (step table latches old new moved) (step table latches old' new' moved) := by
  cases moved with
  | true => exact ⟨hnew, rfl, rfl⟩
  | false =>
    have hsame : table.related old'.effectiveDataTechnology new'.effectiveDataTechnology =
        table.related old.effectiveDataTechnology new.effectiveDataTechnology := by
      rw [hold.effectiveDataTechnology_eq, hnew.effectiveDataTechnology_eq]
    cases hgate : table.related old.effectiveDataTechnology new.effectiveDataTechnology with
    | false =>
      rw [step_of_unrelated hgate, step_of_unrelated (hsame.trans hgate)]
      exact ⟨hnew, rfl, rfl⟩
    | true =>
      obtain ⟨hvoice, hvoiceArmed, hvoiceHeld⟩ :=
        ratchetRecord_congr table latches.voice hold.voice hnew.voice
      obtain ⟨hdata, hdataArmed, hdataHeld⟩ :=
        ratchetRecord_congr table latches.data hold.data hnew.data
      obtain ⟨hbandwidths, hwider⟩ := bandwidths_congr hold.cellBandwidths hnew.cellBandwidths
      rw [step_of_related hgate, step_of_related (hsame.trans hgate), hvoiceArmed, hdataArmed,
        hvoiceHeld, hdataHeld, decide_eq_decide.2 hwider]
      exact ⟨⟨hvoice, hdata, hbandwidths⟩, rfl, rfl⟩

end Step

section Chains

variable {latches latches' : Latches} {initial initial' : ServiceState} {reports reports' : List Report}

/-- Two chains agree step by step, if steps between states that agree do, and leave states that
agree. -/
theorem forall₂_chain {I : Latches → Latches → ServiceState → ServiceState → Prop}
    {Q : ServiceState → ServiceState → Prop} {G : Step → Step → Prop}
    (hstep : ∀ {latches latches' old old' new new'} (table : FamilyTable) (moved : Bool),
      I latches latches' old old' → Q new new' →
      G (step table latches old new moved) (step table latches' old' new' moved))
    (hkept : ∀ {taken taken'}, G taken taken' →
      I taken.latches taken'.latches taken.state taken'.state)
    (hinitial : I latches latches' initial initial')
    (hreports : reports.Forall₂ (Report.Alike Q) reports') :
    (chain latches initial reports).Forall₂ G (chain latches' initial' reports') := by
  induction hreports generalizing latches latches' initial initial' with
  | nil => exact .nil
  | @cons report report' reports reports' hreport _ ih =>
    have htaken := hstep report.table report.moved hinitial hreport.state
    simp only [chain, ← hreport.table, ← hreport.moved]
    exact .cons htaken (ih (hkept htaken))

/-- The voice side of a chain, its latch included, never shows on the data side. And whatever else
is changed in the registrations of both domains, as long as their technologies and carrier
aggregation stay the same, the chain shows the same technologies, carrier aggregation and
bandwidths, with the same outcomes and latches. -/
theorem chains_agree :
    (latches.data = latches'.data → initial.SameData initial' →
      reports.Forall₂ (Report.Alike ServiceState.SameData) reports' →
      (chain latches initial reports).Forall₂ Step.SameData (chain latches' initial' reports')) ∧
    (latches = latches' → initial.SameRatcheted initial' →
      reports.Forall₂ (Report.Alike ServiceState.SameRatcheted) reports' →
      (chain latches initial reports).Forall₂ Step.SameRatcheted (chain latches' initial' reports')) := by
  constructor
  · intro hlatch hinitial hreports
    refine forall₂_chain
      (I := fun latches latches' s t => latches.data = latches'.data ∧ s.SameData t)
      (fun table moved hold hnew => sameData_step table hold.1 hold.2 hnew moved)
      (fun htaken => ⟨htaken.latch, htaken.state⟩) ⟨hlatch, hinitial⟩ hreports
  · rintro rfl hinitial hreports
    refine forall₂_chain
      (I := fun latches latches' s t => latches = latches' ∧ s.SameRatcheted t)
      (fun table moved hold hnew => ?_)
      (fun htaken => ⟨htaken.latches, htaken.state⟩) ⟨rfl, hinitial⟩ hreports
    obtain ⟨rfl, hold⟩ := hold
    exact sameRatcheted_step table _ hold hnew moved

end Chains

/-- A state whose voice technology is another than that of its data. -/
def mixed (voice data : RadioTechnology) : ServiceState :=
  { ServiceState.plain data false with voice := (ServiceState.plain voice false).voice }

/-- The same state while the voice registration is refused and the data registration has a
network. -/
def refused (s : ServiceState) : ServiceState :=
  { s with
    voice := { s.voice with state := .denied, rejectCause := 7 }
    data := { s.data with registeredPlmn := "26201" } }

/-- GPRS is reported after EDGE: the data registration stays at EDGE, and the voice registration
with it or not. -/
theorem chains_agree_after_dip :
    let reports (voice : RadioTechnology) : List Report :=
      [.inPlace (FamilyTable.build ["1,2,3"]).1 (mixed voice .gprs)]
    (chain .armed (mixed .edge .edge) (reports .gprs)).Forall₂ Step.SameData
        (chain ⟨false, true⟩ (mixed .lte .edge) (reports .nr)) ∧
      (chain .armed (mixed .edge .edge) (reports .gprs)).Forall₂ Step.SameRatcheted
        (chain .armed (refused (mixed .edge .edge)) ((reports .gprs).map fun report =>
          { report with state := refused report.state })) ∧
      ((chain .armed (mixed .edge .edge) (reports .gprs)).map fun taken =>
        (taken.state.voice.technology, taken.state.data.technology)) = [(.edge, .edge)] ∧
      ((chain ⟨false, true⟩ (mixed .lte .edge) (reports .nr)).map fun taken =>
        (taken.state.voice.technology, taken.state.data.technology)) = [(.nr, .edge)] := by
  intro reports
  refine ⟨chains_agree.1 rfl ⟨rfl, rfl⟩ ?_, chains_agree.2 rfl ?_ ?_, by decide, by decide⟩
  · exact .cons ⟨rfl, rfl, ⟨rfl, rfl⟩⟩ .nil
  · exact ⟨⟨rfl, rfl⟩, ⟨rfl, rfl⟩, rfl⟩
  · exact .cons ⟨rfl, rfl, ⟨⟨rfl, rfl⟩, ⟨rfl, rfl⟩, rfl⟩⟩ .nil

end Ratchet

end CellularRegistration
