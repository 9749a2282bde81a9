import CellularRegistration.Proofs.Ratchet.Repetition
import CellularRegistration.Proofs.Record.WellFormed
import CellularRegistration.Proofs.Replay.Progress

namespace CellularRegistration

namespace Replay

theorem aggregationRelated_of_reportedState (table : FamilyTable) {i : Nat} {step : TraceStep}
    {s : ServiceState} (h : reportedState i step = .ok s) : Ratchet.AggregationRelated table s := by
  intro hflag
  have hlte := Payload.technology_of_carrierAggregation (reportedState_eq_ok_iff.1 h).2.1 hflag
  rw [s.effectiveDataTechnology_eq, hlte, hflag]
  exact table.related_refl _

/-- The state published last, if there is one, has carrier aggregation only with a related
technology. -/
def Progress.AggregationRelated (table : FamilyTable) (before : Progress) : Prop :=
  ∀ s, before.published = some s → Ratchet.AggregationRelated table s

theorem aggregationRelated_publish {table : FamilyTable} {before : Progress}
    {reported : ServiceState} (h : before.AggregationRelated table)
    (hreported : Ratchet.AggregationRelated table reported) (moved : Bool) :
    (publish table before reported moved).2.AggregationRelated table := by
  intro s hs
  cases hpublished : before.published with
  | none =>
    simp only [publish, hpublished, Option.some.injEq] at hs
    exact hs ▸ hreported
  | some old =>
    simp only [publish, hpublished, Option.some.injEq] at hs
    exact hs ▸ Ratchet.aggregationRelated_step (h old hpublished) hreported moved

/-- Publishing the same report again, at the same place, gives the same state. -/
theorem state_publish_again {table : FamilyTable} {before : Progress}
    {reported : ServiceState} (h : before.AggregationRelated table)
    (hreported : Ratchet.AggregationRelated table reported) (moved : Bool) :
    (publish table (publish table before reported moved).2 reported false).1.state =
      (publish table before reported moved).1.state := by
  cases hpublished : before.published with
  | none =>
    simp only [publish, hpublished]
    exact Ratchet.state_step_self table before.latches reported
  | some old =>
    simp only [publish, hpublished]
    exact Ratchet.state_step_again (h old hpublished) hreported moved

theorem runFrom_repeated {table : FamilyTable} {steps : List TraceStep} {before : Progress} {k : Nat}
    {step next : TraceStep} {p : Published} (hbefore : before.AggregationRelated table)
    (hstep : steps[k]? = some step) (hnext : steps[k + 1]? = some next)
    (hvoice : next.voice = step.voice) (hdata : next.data = step.data)
    (hbandwidths : next.cellBandwidths = step.cellBandwidths)
    (hplace : next.locationChanged = false)
    (hpublished : (runFrom table before steps).published[k]? = some p) :
    ∃ q, (runFrom table before steps).published[k + 1]? = some q ∧ q.state = p.state := by
  induction steps generalizing before k with
  | nil => cases hstep
  | cons first rest ih =>
    cases hreported : reportedState before.step first with
    | error rejection => simp [runFrom, hreported] at hpublished
    | ok reported =>
      have hrelated := aggregationRelated_of_reportedState table hreported
      simp only [runFrom, hreported] at hpublished ⊢
      cases k with
      | zero =>
        obtain rfl := Option.some.inj hstep
        obtain rfl := Option.some.inj hpublished
        cases rest with
        | nil => cases hnext
        | cons second rest =>
          obtain rfl := Option.some.inj hnext
          have hagain : ∀ i, reportedState i second = .ok reported := fun i =>
            reportedState_eq_ok_iff.2
              (hvoice ▸ hdata ▸ hbandwidths ▸ reportedState_eq_ok_iff.1 hreported)
          simp only [runFrom, hagain, hplace]
          exact ⟨_, rfl, state_publish_again hbefore hrelated first.locationChanged⟩
      | succ k =>
        exact ih (aggregationRelated_publish hbefore hrelated first.locationChanged) hstep hnext
          hpublished

/-- In every replay, a step that repeats the payloads and bandwidths of the step before it, while
the device stays where it is, publishes the state of that step once more. -/
theorem run_repeated (table : FamilyTable) {steps : List TraceStep} {k : Nat}
    {step next : TraceStep} (hstep : steps[k]? = some step) (hnext : steps[k + 1]? = some next)
    (hanswers : ∀ step ∈ steps.take (k + 1), Answers step)
    (hvoice : next.voice = step.voice) (hdata : next.data = step.data)
    (hbandwidths : next.cellBandwidths = step.cellBandwidths)
    (hplace : next.locationChanged = false) :
    ∃ p q, (run table steps).published[k]? = some p ∧
      (run table steps).published[k + 1]? = some q ∧ q.state = p.state := by
  obtain ⟨hk, -⟩ := List.getElem?_eq_some_iff.1 hstep
  obtain ⟨p, hpublished, -, -⟩ := exists_published hk hanswers
  have hinitial : Progress.initial.AggregationRelated table := fun _ hs => by cases hs
  obtain ⟨q, hrepeated, hstate⟩ :=
    runFrom_repeated hinitial hstep hnext hvoice hdata hbandwidths hplace hpublished
  exact ⟨p, q, hpublished, hrepeated, hstate⟩

/-- LTE with carrier aggregation and two carriers, and then UMTS twice: what was shown at first
stays shown. -/
theorem published_of_repeated_umts :
    ∃ p q,
      (run (FamilyTable.build ["3,14,19"]).1
        [stepInPlace 19 [20000, 10000], stepInPlace 3 [5000], stepInPlace 3 [5000]]).published[1]? =
          some p ∧
      (p.state.data.technology = .lte ∧ p.state.carrierAggregation = true ∧
        p.state.cellBandwidths = [20000, 10000]) ∧
      (run (FamilyTable.build ["3,14,19"]).1
        [stepInPlace 19 [20000, 10000], stepInPlace 3 [5000], stepInPlace 3 [5000]]).published[2]? =
          some q ∧
      q.state = p.state := by
  have hanswers : ∀ step ∈
      [stepInPlace 19 [20000, 10000], stepInPlace 3 [5000], stepInPlace 3 [5000]].take (1 + 1),
      Answers step := by decide
  obtain ⟨p, q, hpublished, hrepeated, hstate⟩ :=
    run_repeated (FamilyTable.build ["3,14,19"]).1 (by rfl) (by rfl) hanswers rfl rfl rfl rfl
  obtain rfl := Option.some.inj hpublished
  exact ⟨_, q, rfl, ⟨rfl, rfl, rfl⟩, hrepeated, hstate⟩

end Replay

end CellularRegistration
