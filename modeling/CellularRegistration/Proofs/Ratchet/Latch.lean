import CellularRegistration.Proofs.Ratchet.Related
import Mathlib.Data.List.DropRight

namespace CellularRegistration.Ratchet

/-- A call of the ratchet: the families that are current then, the two states that are compared, and
whether the device has moved between them. -/
structure Call where
  table : FamilyTable
  old : ServiceState
  new : ServiceState
  moved : Bool

namespace Call

/-- The step that a call takes. -/
def step (call : Call) (latches : Latches) : Step :=
  Ratchet.step call.table latches call.old call.new call.moved

/-- Whether a call turns the latch of a domain on if it is off. -/
structure Rearms (call : Call) (d : Domain) : Prop where
  inPlace : call.moved = false
  related : call.old.effectiveDataTechnology = call.new.effectiveDataTechnology ∨
    call.table.sameFamily call.old.effectiveDataTechnology call.new.effectiveDataTechnology = true
  changed : (call.old.record d).technology ≠ (call.new.record d).technology

end Call

/-- The latches that some calls leave. -/
def latchesAfter (latches : Latches) (calls : List Call) : Latches :=
  calls.foldl (fun latches call => (call.step latches).latches) latches

/-- The calls since the device last moved; all of them, if it never did. -/
def sinceMove (calls : List Call) : List Call :=
  calls.rtakeWhile fun call => !call.moved

/-- What the calls say of the latch of a domain: it is on if the device never moved, or if a call
since the last move has turned it on. -/
def ArmedBy (d : Domain) (calls : List Call) : Prop :=
  (∀ call ∈ calls, call.moved = false) ∨ ∃ call ∈ sinceMove calls, call.Rearms d

section Step

variable {call : Call} {latches : Latches} {d : Domain}

theorem step_of_moved (hmoved : call.moved = true) :
    call.step latches = ⟨.disarmed, call.new, .untouched⟩ := by
  rw [Call.step, Ratchet.step, if_pos hmoved]

theorem armed_ratchetRecord (table : FamilyTable) (armed : Bool) (old new : RegistrationRecord) :
    (ratchetRecord table armed old new).armed = true ↔
      armed = true ∨ old.technology ≠ new.technology := by
  cases armed <;> simp [ratchetRecord]

/-- After a call a latch is on exactly if the device has not moved and the latch was on before or
has been turned on by the call. -/
theorem latch_step_iff : (call.step latches).latches.ofDomain d = true ↔
    call.moved = false ∧ (latches.ofDomain d = true ∨ call.Rearms d) := by
  cases hmoved : call.moved with
  | true =>
    rw [step_of_moved hmoved]
    cases d <;> simp [Latches.disarmed, Latches.ofDomain]
  | false =>
    have hstep : call.step latches = Ratchet.step call.table latches call.old call.new false := by
      rw [Call.step, hmoved]
    rw [hstep]
    -- A call between unrelated technologies leaves the latches as they are, and `Rearms` excludes it.
    cases hgate : call.table.related call.old.effectiveDataTechnology
        call.new.effectiveDataTechnology with
    | true =>
      have hrearms : call.Rearms d ↔
          (call.old.record d).technology ≠ (call.new.record d).technology :=
        ⟨Call.Rearms.changed, fun hchanged =>
          ⟨hmoved, FamilyTable.related_iff.1 hgate, hchanged⟩⟩
      rw [latch_step hgate, armed_ratchetRecord, hrearms]
      simp
    | false =>
      have hrearms : ¬ call.Rearms d := by
        intro hrearms
        rw [FamilyTable.related_iff.2 hrearms.related] at hgate
        cases hgate
      rw [step_of_unrelated hgate]
      simp [hrearms]

theorem record_step_of_disarmed (hlatch : latches.ofDomain d = false) :
    (call.step latches).state.record d = call.new.record d := by
  cases hmoved : call.moved with
  | true => rw [step_of_moved hmoved]
  | false =>
    rw [Call.step, hmoved]
    cases hgate : call.table.related call.old.effectiveDataTechnology
        call.new.effectiveDataTechnology with
    | true =>
      rw [record_step hgate, hlatch]
      rfl
    | false => rw [step_of_unrelated hgate]

end Step

theorem latchesAfter_snoc (latches : Latches) (calls : List Call) (call : Call) :
    latchesAfter latches (calls ++ [call]) = (call.step (latchesAfter latches calls)).latches := by
  simp only [latchesAfter, List.foldl_append, List.foldl_cons, List.foldl_nil]

theorem sinceMove_snoc (calls : List Call) (call : Call) :
    sinceMove (calls ++ [call]) = if call.moved then [] else sinceMove calls ++ [call] := by
  rw [sinceMove, List.rtakeWhile_concat]
  cases call.moved <;> rfl

/-- With one more call, the history of a latch grows as the latch itself changes. -/
theorem armedBy_snoc {d : Domain} {calls : List Call} {call : Call} :
    ArmedBy d (calls ++ [call]) ↔ call.moved = false ∧ (ArmedBy d calls ∨ call.Rearms d) := by
  unfold ArmedBy
  rw [sinceMove_snoc]
  cases hmoved : call.moved with
  | true => simp [hmoved]
  | false =>
    have hall : (∀ other ∈ calls ++ [call], other.moved = false) ↔
        ∀ other ∈ calls, other.moved = false := by
      rw [List.forall_mem_append, List.forall_mem_singleton]
      exact and_iff_left hmoved
    have hsome : (∃ other ∈ sinceMove calls ++ [call], other.Rearms d) ↔
        (∃ other ∈ sinceMove calls, other.Rearms d) ∨ call.Rearms d := by
      simp [or_and_right, exists_or]
    rw [hall, if_neg Bool.false_ne_true, hsome, or_assoc]
    exact (and_iff_right rfl).symm

theorem latchesAfter_armed_iff {d : Domain} {calls : List Call} :
    (latchesAfter .armed calls).ofDomain d = true ↔ ArmedBy d calls := by
  induction calls using List.reverseRecOn with
  | nil => cases d <;> simp [latchesAfter, ArmedBy, Latches.armed, Latches.ofDomain]
  | append_singleton calls call ih => rw [latchesAfter_snoc, latch_step_iff, armedBy_snoc, ih]

/-- The latch of a domain follows the history of the calls. While it is off, and so still at the
call that turns it on, the record of the domain is published as it was reported; and a move has the
whole state published as it was reported. -/
theorem latch_follows_history (d : Domain) (calls : List Call) :
    ((latchesAfter .armed calls).ofDomain d = true ↔ ArmedBy d calls) ∧
    ∀ call : Call,
      ((latchesAfter .armed calls).ofDomain d = false →
        (call.step (latchesAfter .armed calls)).state.record d = call.new.record d) ∧
      (call.moved = true → (call.step (latchesAfter .armed calls)).state = call.new) := by
  refine ⟨latchesAfter_armed_iff, fun call => ⟨record_step_of_disarmed, fun hmoved => ?_⟩⟩
  rw [step_of_moved hmoved]

/-- After a move the next dip is published as it was reported. It turns the latch on, so that the
dip after it is held, although the families are others by then. -/
theorem latch_rearmed_by_dip :
    ∃ (moved dip later : Call),
      (latchesAfter .armed [moved]).ofDomain .cs = false ∧
      (dip.step (latchesAfter .armed [moved])).state.record .cs = dip.new.record .cs ∧
      ArmedBy .cs [moved, dip] ∧
      (later.step (latchesAfter .armed [moved, dip])).state.voice.technology = .umts ∧
      later.new.voice.technology = .hsdpa := by
  have hoff : (latchesAfter .armed [⟨(FamilyTable.build ["1,2,3"]).1, .plain .umts false,
      .plain .gprs false, true⟩]).ofDomain .cs = false := by decide
  refine ⟨_, ⟨(FamilyTable.build ["1,2,3"]).1, .plain .edge false, .plain .gprs false, false⟩,
    ⟨(FamilyTable.build ["9,3"]).1, .plain .umts false, .plain .hsdpa false, false⟩, hoff, ?_, ?_, ?_,
    rfl⟩
  · exact ((latch_follows_history .cs _).2 _).1 hoff
  · exact (latch_follows_history .cs _).1.1 (by decide)
  · decide

end CellularRegistration.Ratchet
