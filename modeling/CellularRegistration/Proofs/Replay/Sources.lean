import CellularRegistration.Proofs.Ratchet.Difference
import CellularRegistration.Proofs.Replay.Progress

namespace CellularRegistration

namespace Replay

/-- Step `k` is step `j`, or comes after it without a move in between. -/
structure UnmovedSince (steps : List TraceStep) (j k : Nat) : Prop where
  le : j ≤ k
  unmoved : ∀ i, j < i → i ≤ k → ∀ step, steps[i]? = some step → step.locationChanged = false

theorem UnmovedSince.refl (steps : List TraceStep) (k : Nat) : UnmovedSince steps k k where
  le := Nat.le_refl k
  unmoved := fun _ hlt hle => absurd hle (Nat.not_le_of_lt hlt)

theorem UnmovedSince.succ {steps : List TraceStep} {j k : Nat} {step : TraceStep}
    (h : UnmovedSince steps j k) (hstep : steps[k + 1]? = some step)
    (hplace : step.locationChanged = false) : UnmovedSince steps j (k + 1) where
  le := Nat.le_succ_of_le h.le
  unmoved := by
    intro i hlt hle other hother
    obtain hle | rfl := Nat.le_succ_iff.1 hle
    · exact h.unmoved i hlt hle other hother
    · rw [hstep] at hother
      exact Option.some.inj hother ▸ hplace

/-- Step `j` reports this record for a domain. -/
def Reports (steps : List TraceStep) (j : Nat) (d : Domain) (record : RegistrationRecord) : Prop :=
  ∃ step, steps[j]? = some step ∧ (step.payload d).normalize d = .ok record

/-- Where everything in a state that is published at step `k` comes from. -/
structure Sourced (steps : List TraceStep) (k : Nat) (s : ServiceState) : Prop where
  /-- A record is the one of the step itself, but for technology and carrier aggregation. -/
  record : ∀ d, ∃ reported, Reports steps k d reported ∧
    s.record d =
      { reported with
        technology := (s.record d).technology
        carrierAggregation := (s.record d).carrierAggregation }
  technology : ∀ d, ∃ j reported, UnmovedSince steps j k ∧ Reports steps j d reported ∧
    (s.record d).technology = reported.technology
  carrierAggregation : ∀ d, (s.record d).carrierAggregation = true →
    ∃ j reported, UnmovedSince steps j k ∧ Reports steps j d reported ∧
      reported.carrierAggregation = true
  cellBandwidths : ∃ j step, UnmovedSince steps j k ∧ steps[j]? = some step ∧
    s.cellBandwidths = step.cellBandwidths

theorem reports_of_reportedState {steps : List TraceStep} {k i : Nat} {step : TraceStep}
    {s : ServiceState} (hstep : steps[k]? = some step) (h : reportedState i step = .ok s)
    (d : Domain) : Reports steps k d (s.record d) :=
  ⟨step, hstep, normalize_payload_of_reportedState h d⟩

/-- A report is its own source. -/
theorem sourced_of_reportedState {steps : List TraceStep} {k i : Nat} {step : TraceStep}
    {s : ServiceState} (hstep : steps[k]? = some step) (h : reportedState i step = .ok s) :
    Sourced steps k s := by
  have hreports := reports_of_reportedState hstep h
  have hsame := UnmovedSince.refl steps k
  refine ⟨fun d => ⟨_, hreports d, rfl⟩, fun d => ⟨k, _, hsame, hreports d, rfl⟩,
    fun d hflag => ⟨k, _, hsame, hreports d, hflag⟩, k, step, hsame, hstep, ?_⟩
  exact (reportedState_eq_ok_iff.1 h).2.2.symm

/-- What the ratchet makes of a report comes from the report, or from where the state before it came
from if the device stays where it is. -/
theorem Sourced.step {steps : List TraceStep} {k i : Nat} {step : TraceStep} {old new : ServiceState}
    (hold : Sourced steps k old) (hstep : steps[k + 1]? = some step)
    (hnew : reportedState i step = .ok new) (table : FamilyTable) (latches : Latches) :
    Sourced steps (k + 1) (Ratchet.step table latches old new step.locationChanged).state := by
  have hreported := sourced_of_reportedState hstep hnew
  have hreports := reports_of_reportedState hstep hnew
  constructor
  · intro d
    exact ⟨_, hreports d, Ratchet.record_step_eq_with table latches old new _ d⟩
  · intro d
    obtain h | ⟨hplace, h⟩ := Ratchet.technology_step_cases table latches old new
      step.locationChanged d
    · rw [h]
      exact hreported.technology d
    · obtain ⟨j, reported, hunmoved, hsource, htechnology⟩ := hold.technology d
      exact ⟨j, reported, hunmoved.succ hstep hplace, hsource, h.trans htechnology⟩
  · intro d hflag
    obtain h | ⟨hplace, h⟩ := Ratchet.carrierAggregation_of_step hflag
    · exact hreported.carrierAggregation d h
    · obtain ⟨j, reported, hunmoved, hsource, hset⟩ := hold.carrierAggregation d h
      exact ⟨j, reported, hunmoved.succ hstep hplace, hsource, hset⟩
  · obtain h | ⟨hplace, h⟩ := Ratchet.cellBandwidths_step_cases table latches old new
      step.locationChanged
    · rw [h]
      exact hreported.cellBandwidths
    · obtain ⟨j, source, hunmoved, hsource, hbandwidths⟩ := hold.cellBandwidths
      exact ⟨j, source, hunmoved.succ hstep hplace, hsource, h.trans hbandwidths⟩

theorem sourced_after (table : FamilyTable) {steps : List TraceStep} {k : Nat}
    (hk : k < steps.length) (hanswers : ∀ step ∈ steps.take (k + 1), Answers step)
    {s : ServiceState}
    (hs : (Progress.initial.after table (steps.take (k + 1))).published = some s) :
    Sourced steps k s := by
  induction k generalizing s with
  | zero =>
    obtain ⟨hbefore, step, new, hstep, hnew⟩ := exists_reported hk hanswers 0
    rw [after_take_succ hstep hbefore hnew, published_progress_publish, state_publish_of_none rfl]
      at hs
    obtain rfl := Option.some.inj hs
    exact sourced_of_reportedState hstep hnew
  | succ k ih =>
    obtain ⟨hbefore, step, new, hstep, hnew⟩ := exists_reported hk hanswers (0 + (k + 1))
    -- The steps before have published a state, and by induction it is sourced.
    have hprevious : steps.take (k + 1) ≠ [] := by
      rw [Ne, List.take_eq_nil_iff, not_or]
      exact ⟨Nat.succ_ne_zero k, List.ne_nil_of_length_pos (Nat.zero_lt_of_lt hk)⟩
    obtain ⟨old, hold⟩ := exists_published_after table .initial hbefore hprevious
    rw [after_take_succ hstep hbefore hnew, published_progress_publish, state_publish_of_some hold]
      at hs
    obtain rfl := Option.some.inj hs
    exact (ih (Nat.lt_of_succ_lt hk) hbefore hold).step hstep hnew table _

/-- In every replay, everything that is published at a step has been reported. The fields of a
record but for technology and carrier aggregation are those that the step itself reports; the other
two, and the list of bandwidths as a whole, were reported by that step or by one before it, after
which the device has not moved. -/
theorem run_sourced (table : FamilyTable) {steps : List TraceStep} {k : Nat}
    (hk : k < steps.length) (hanswers : ∀ step ∈ steps.take (k + 1), Answers step) :
    ∃ p, (run table steps).published[k]? = some p ∧ p.step = k ∧ Sourced steps k p.state := by
  obtain ⟨p, hpublished, hnumber, hstate⟩ := exists_published hk hanswers
  exact ⟨p, hpublished, hnumber.trans (Nat.zero_add k), sourced_after table hk hanswers hstate⟩

/-- LTE with carrier aggregation, then a move to UMTS, and HSDPA between two reports of UMTS. -/
def traceWithMove : List TraceStep :=
  [stepInPlace 19 [20000, 10000], { stepInPlace 3 [15000] with locationChanged := true },
    stepInPlace 3 [5000], stepInPlace 9 [10000], stepInPlace 3 [5000]]

/-- What is published last is the HSDPA of the step before, the bandwidths of the move, and nothing
from before the move. -/
theorem sourced_traceWithMove :
    ∃ p, (run (FamilyTable.build ["3,9,14,19"]).1 traceWithMove).published[4]? = some p ∧
      (p.state.data.technology = .hsdpa ∧ p.state.carrierAggregation = false ∧
        p.state.cellBandwidths = [15000]) ∧
      Sourced traceWithMove 4 p.state := by
  have hanswers : ∀ step ∈ traceWithMove.take (4 + 1), Answers step := by decide
  obtain ⟨p, hpublished, -, hsourced⟩ :=
    run_sourced (FamilyTable.build ["3,9,14,19"]).1 (by decide) hanswers
  obtain rfl := Option.some.inj hpublished
  exact ⟨_, rfl, ⟨rfl, rfl, rfl⟩, hsourced⟩

end Replay

end CellularRegistration
