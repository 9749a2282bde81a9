import CellularRegistration.Proofs.Replay.Progress

namespace CellularRegistration.Replay

/-- The same progress, a number of steps later. -/
def Progress.shift (before : Progress) (n : Nat) : Progress :=
  { before with step := before.step + n }

def Published.shift (p : Published) (n : Nat) : Published :=
  { p with step := p.step + n }

def Rejection.shift (rejection : Rejection) (n : Nat) : Rejection :=
  { rejection with step := rejection.step + n }

/-- The same result, a number of steps later. -/
def Result.shift (result : Result) (n : Nat) : Result :=
  ⟨result.published.map (·.shift n), result.rejection.map (·.shift n)⟩

theorem recordOf_add (i n : Nat) (payload : Payload) (domain : Domain) :
    recordOf (i + n) payload domain = (recordOf i payload domain).mapError (·.shift n) := by
  unfold recordOf
  cases payload.normalize domain <;> rfl

theorem reportedState_add (i n : Nat) (step : TraceStep) :
    reportedState (i + n) step = (reportedState i step).mapError (·.shift n) := by
  unfold reportedState
  rw [recordOf_add, recordOf_add]
  cases recordOf i step.voice .cs with
  | error rejection => rfl
  | ok voice => cases recordOf i step.data .ps <;> rfl

theorem publish_shift (table : FamilyTable) (before : Progress) (n : Nat) (reported : ServiceState)
    (moved : Bool) :
    publish table (before.shift n) reported moved =
      ((publish table before reported moved).1.shift n,
        (publish table before reported moved).2.shift n) := by
  obtain ⟨step, latches, published⟩ := before
  cases published <;>
    simp [publish, Progress.shift, Published.shift, Nat.add_right_comm]

/-- A replay does not look at the numbers of its steps. -/
theorem runFrom_shift (table : FamilyTable) (before : Progress) (n : Nat) (steps : List TraceStep) :
    runFrom table (before.shift n) steps = (runFrom table before steps).shift n := by
  induction steps generalizing before with
  | nil => rfl
  | cons step steps ih =>
    have hreported : reportedState (before.shift n).step step =
        (reportedState before.step step).mapError (·.shift n) := reportedState_add _ _ _
    cases h : reportedState before.step step with
    | error rejection =>
      rw [h] at hreported
      simp only [runFrom, h, hreported]
      rfl
    | ok reported =>
      rw [h] at hreported
      simp only [runFrom, h, hreported, publish_shift, ih]
      rfl

theorem publish_of_moved (table : FamilyTable) (number : Nat) (latches : Latches)
    (old reported : ServiceState) :
    publish table ⟨number, latches, some old⟩ reported true =
      (⟨number, reported, some .untouched⟩, ⟨number + 1, .disarmed, some reported⟩) :=
  rfl

/-- What a replay publishes from the step on at which the device has moved, with the steps counted
from there. -/
def sinceMove (table : FamilyTable) (move : TraceStep) (future : List TraceStep) : Result :=
  match reportedState 0 move with
  | .error rejection => ⟨[], some rejection⟩
  | .ok reported =>
    let result := runFrom table ⟨1, .disarmed, some reported⟩ future
    ⟨⟨0, reported, some .untouched⟩ :: result.published, result.rejection⟩

/-- The progress before a move does not matter but for its number. -/
theorem runFrom_of_moved (table : FamilyTable) {before : Progress} {old : ServiceState}
    (h : before.published = some old) {move : TraceStep} (hmoved : move.locationChanged = true)
    (future : List TraceStep) :
    runFrom table before (move :: future) = (sinceMove table move future).shift before.step := by
  obtain ⟨number, latches, published⟩ := before
  obtain rfl : published = some old := h
  -- Count from the move, where both sides do the same, and number the steps afterwards.
  have hstart : (⟨number, latches, some old⟩ : Progress) =
      Progress.shift ⟨0, latches, some old⟩ number := by
    simp [Progress.shift]
  have hzero : runFrom table ⟨0, latches, some old⟩ (move :: future) =
      sinceMove table move future := by
    cases hmove : reportedState 0 move with
    | error rejection => simp only [runFrom, sinceMove, hmove]
    | ok reported => simp only [runFrom, sinceMove, hmove, hmoved, publish_of_moved]
  rw [hstart, runFrom_shift, hzero, ← hstart]

theorem run_append_of_moved (table : FamilyTable) {past : List TraceStep} (hpast : past ≠ [])
    (hanswers : ∀ step ∈ past, Answers step) {move : TraceStep}
    (hmoved : move.locationChanged = true) (future : List TraceStep) :
    run table (past ++ move :: future) =
      ⟨(run table past).published ++ ((sinceMove table move future).shift past.length).published,
        ((sinceMove table move future).shift past.length).rejection⟩ := by
  obtain ⟨old, hold⟩ := exists_published_after table .initial hanswers hpast
  rw [run, runFrom_append, Result.followedBy_of_none (rejection_of_answers table .initial hanswers),
    runFrom_of_moved table hold hmoved, step_after table .initial hanswers]
  simp only [Progress.initial, Nat.zero_add, run]

/-- A result from a step on, with all numbers of steps left out. -/
def Result.unnumberedFrom (result : Result) (k : Nat) : Result where
  published := (result.published.drop k).map fun p => { p with step := 0 }
  rejection := result.rejection.map fun rejection => { rejection with step := 0 }

/-- The line that shows a published state, with the number of its step left out. -/
def Published.unnumberedLine (p : Published) : Json :=
  match p.toJson with
  | .obj members => .obj (members.filter fun (name, _) => name != "step")
  | json => json

/-- The lines that a result shows from a step on, with the numbers of the steps left out. -/
def Result.linesFrom (result : Result) (k : Nat) : List Json :=
  (result.published.drop k).map Published.unnumberedLine

/-- The line of a published state shows the number of its step in one member only. -/
theorem unnumberedLine_with_step (p : Published) (n : Nat) :
    Published.unnumberedLine { p with step := n } = p.unnumberedLine := by
  have hdrop : ∀ (number : Json) (members : List (String × Json)),
      (("step", number) :: members).filter (fun (name, _) => name != "step") =
        members.filter fun (name, _) => name != "step" :=
    fun _ _ => List.filter_cons_of_neg (by simp)
  simp only [Published.unnumberedLine, Published.toJson, hdrop]

theorem linesFrom_eq (result : Result) (k : Nat) :
    result.linesFrom k =
      (result.unnumberedFrom k).published.map Published.unnumberedLine := by
  simp only [Result.linesFrom, Result.unnumberedFrom, List.map_map]
  exact List.map_congr_left fun p _ => (unnumberedLine_with_step p 0).symm

theorem unnumberedFrom_shift (result : Result) (n : Nat) :
    (result.shift n).unnumberedFrom 0 = result.unnumberedFrom 0 := by
  simp [Result.unnumberedFrom, Result.shift, Published.shift, Rejection.shift,
    Function.comp_def]

theorem unnumberedFrom_append_of_moved (table : FamilyTable) {past : List TraceStep}
    (hpast : past ≠ []) (hanswers : ∀ step ∈ past, Answers step) {move : TraceStep}
    (hmoved : move.locationChanged = true) (future : List TraceStep) :
    (run table (past ++ move :: future)).unnumberedFrom past.length =
      (sinceMove table move future).unnumberedFrom 0 := by
  have hlength : (run table past).published.length = past.length :=
    length_published_of_answers table .initial hanswers
  rw [run_append_of_moved table hpast hanswers hmoved, ← unnumberedFrom_shift _ past.length,
    Result.unnumberedFrom, List.drop_left' hlength]
  rfl

/-- However two replays began, from a move on that they have in common they show the same states,
and the same of what the ratchet did to them, in the same lines but for the numbers of the steps. If
a step after the move ends one replay, it ends the other for the same reason. -/
theorem run_forgets_past (table : FamilyTable) {past past' : List TraceStep} (hpast : past ≠ [])
    (hpast' : past' ≠ []) (hanswers : ∀ step ∈ past, Answers step)
    (hanswers' : ∀ step ∈ past', Answers step) {move : TraceStep}
    (hmoved : move.locationChanged = true) (future : List TraceStep) :
    (run table (past ++ move :: future)).unnumberedFrom past.length =
        (run table (past' ++ move :: future)).unnumberedFrom past'.length ∧
      (run table (past ++ move :: future)).linesFrom past.length =
        (run table (past' ++ move :: future)).linesFrom past'.length := by
  have hsame : (run table (past ++ move :: future)).unnumberedFrom past.length =
      (run table (past' ++ move :: future)).unnumberedFrom past'.length := by
    rw [unnumberedFrom_append_of_moved table hpast hanswers hmoved,
      unnumberedFrom_append_of_moved table hpast' hanswers' hmoved]
  refine ⟨hsame, ?_⟩
  rw [linesFrom_eq, linesFrom_eq, hsame]

/-- A move to UMTS, where EDGE and GPRS are reported next. -/
def moveToUmts : List TraceStep :=
  [{ stepInPlace 3 [15000] with locationChanged := true }, stepInPlace 2 [5000],
    stepInPlace 1 [20000]]

/-- LTE with carrier aggregation leaves no trace after a move, and neither do EDGE and GPRS. -/
theorem run_forgets_lte_and_edge :
    (run (FamilyTable.build ["1,2,3,14,19"]).1
        ([stepInPlace 19 [20000, 10000]] ++ moveToUmts)).unnumberedFrom 1 =
      (run (FamilyTable.build ["1,2,3,14,19"]).1
        ([stepInPlace 2 [], stepInPlace 1 []] ++ moveToUmts)).unnumberedFrom 2 ∧
    (run (FamilyTable.build ["1,2,3,14,19"]).1
        ([stepInPlace 19 [20000, 10000]] ++ moveToUmts)).linesFrom 1 =
      (run (FamilyTable.build ["1,2,3,14,19"]).1
        ([stepInPlace 2 [], stepInPlace 1 []] ++ moveToUmts)).linesFrom 2 ∧
    ((run (FamilyTable.build ["1,2,3,14,19"]).1
        ([stepInPlace 2 [], stepInPlace 1 []] ++ moveToUmts)).published.map
      fun p => p.state.data.technology) = [.edge, .edge, .umts, .edge, .edge] := by
  have hlte : ∀ step ∈ [stepInPlace 19 [20000, 10000]], Answers step := by decide
  have hedge : ∀ step ∈ [stepInPlace 2 [], stepInPlace 1 []], Answers step := by decide
  have hmoved : { stepInPlace 3 [15000] with locationChanged := true }.locationChanged = true := rfl
  obtain ⟨hresult, hlines⟩ := run_forgets_past (FamilyTable.build ["1,2,3,14,19"]).1 (by simp)
    (by simp) hlte hedge hmoved [stepInPlace 2 [5000], stepInPlace 1 [20000]]
  exact ⟨hresult, hlines, by decide⟩

end CellularRegistration.Replay
