import CellularRegistration.Replay.Run

namespace CellularRegistration

/-- The payload of a step for a domain. -/
def TraceStep.payload (step : TraceStep) : Domain → Payload
  | .cs => step.voice
  | .ps => step.data

namespace Replay

theorem recordOf_eq_ok_iff {i : Nat} {payload : Payload} {domain : Domain}
    {record : RegistrationRecord} :
    recordOf i payload domain = .ok record ↔ payload.normalize domain = .ok record := by
  unfold recordOf
  cases payload.normalize domain <;> simp

/-- A step reports the records of its payloads and its bandwidths, whatever its number. -/
theorem reportedState_eq_ok_iff {i : Nat} {step : TraceStep} {s : ServiceState} :
    reportedState i step = .ok s ↔ step.voice.normalize .cs = .ok s.voice ∧
      step.data.normalize .ps = .ok s.data ∧ step.cellBandwidths = s.cellBandwidths := by
  rw [← recordOf_eq_ok_iff (i := i), ← recordOf_eq_ok_iff (i := i), reportedState]
  cases recordOf i step.voice .cs with
  | error rejection => simp
  | ok voice =>
    cases recordOf i step.data .ps with
    | error rejection => simp
    | ok data =>
      cases s
      simp

theorem normalize_payload_of_reportedState {i : Nat} {step : TraceStep} {s : ServiceState}
    (h : reportedState i step = .ok s) (d : Domain) :
    (step.payload d).normalize d = .ok (s.record d) := by
  obtain ⟨hvoice, hdata, -⟩ := reportedState_eq_ok_iff.1 h
  cases d with
  | cs => exact hvoice
  | ps => exact hdata

/-- The payloads of a step answer for their domains. -/
def Answers (step : TraceStep) : Prop :=
  (step.voice.normalize .cs).isOk = true ∧ (step.data.normalize .ps).isOk = true

instance (step : TraceStep) : Decidable (Answers step) :=
  inferInstanceAs (Decidable (_ ∧ _))

theorem exists_reportedState {step : TraceStep} (h : Answers step) (i : Nat) :
    ∃ s, reportedState i step = .ok s := by
  obtain ⟨hvoice, hdata⟩ := h
  cases hcs : step.voice.normalize .cs with
  | error error => simp [hcs, Except.isOk, Except.toBool] at hvoice
  | ok voice =>
    cases hps : step.data.normalize .ps with
    | error error => simp [hps, Except.isOk, Except.toBool] at hdata
    | ok data =>
      exact ⟨⟨voice, data, step.cellBandwidths⟩, reportedState_eq_ok_iff.2 ⟨hcs, hps, rfl⟩⟩

theorem answers_of_reportedState {i : Nat} {step : TraceStep} {s : ServiceState}
    (h : reportedState i step = .ok s) : Answers step := by
  obtain ⟨hvoice, hdata, -⟩ := reportedState_eq_ok_iff.1 h
  simp [Answers, hvoice, hdata, Except.isOk, Except.toBool]

theorem not_answers_of_reportedState {i : Nat} {step : TraceStep} {rejection : Rejection}
    (h : reportedState i step = .error rejection) : ¬Answers step := by
  intro hanswers
  obtain ⟨s, hs⟩ := exists_reportedState hanswers i
  rw [hs] at h
  cases h

section Publish

variable (table : FamilyTable) (before : Progress) (reported : ServiceState) (moved : Bool)

@[simp]
theorem step_publish : (publish table before reported moved).1.step = before.step := by
  cases h : before.published <;> simp [publish, h]

@[simp]
theorem step_progress_publish :
    (publish table before reported moved).2.step = before.step + 1 := by
  cases h : before.published <;> simp [publish, h]

@[simp]
theorem published_progress_publish : (publish table before reported moved).2.published =
    some (publish table before reported moved).1.state := by
  cases h : before.published <;> simp [publish, h]

variable {table before reported moved}

theorem state_publish_of_none (h : before.published = none) :
    (publish table before reported moved).1.state = reported := by
  simp [publish, h]

theorem state_publish_of_some {old : ServiceState} (h : before.published = some old) :
    (publish table before reported moved).1.state =
      (Ratchet.step table before.latches old reported moved).state := by
  simp [publish, h]

end Publish

/-- What a replay has come to after some steps. It goes no further than to a step that is
rejected. -/
def Progress.after (table : FamilyTable) (before : Progress) : List TraceStep → Progress
  | [] => before
  | step :: rest =>
    match reportedState before.step step with
    | .error _ => before
    | .ok reported =>
      Progress.after table (publish table before reported step.locationChanged).2 rest

/-- A result and the one after it, to which it does not come if it ends with a rejection. -/
def Result.followedBy (first next : Result) : Result :=
  match first.rejection with
  | some _ => first
  | none => ⟨first.published ++ next.published, next.rejection⟩

theorem Result.followedBy_of_none {first : Result} (h : first.rejection = none) (next : Result) :
    first.followedBy next = ⟨first.published ++ next.published, next.rejection⟩ := by
  rw [followedBy, h]

theorem runFrom_append (table : FamilyTable) (before : Progress) (steps rest : List TraceStep) :
    runFrom table before (steps ++ rest) =
      (runFrom table before steps).followedBy (runFrom table (before.after table steps) rest) := by
  induction steps generalizing before with
  | nil => rfl
  | cons step steps ih =>
    cases hreported : reportedState before.step step with
    | error rejection => simp [runFrom, hreported, Result.followedBy]
    | ok reported =>
      simp only [List.cons_append, runFrom, Progress.after, hreported, ih, Result.followedBy]
      split <;> rfl

/-- The number of steps before the first that does not answer; of all steps if each answers. -/
def answered (steps : List TraceStep) : Nat :=
  steps.findIdx fun step => ¬Answers step

theorem answered_cons_of_answers {step : TraceStep} (h : Answers step) (steps : List TraceStep) :
    answered (step :: steps) = answered steps + 1 := by
  simp [answered, List.findIdx_cons, h]

theorem answered_cons_of_not_answers {step : TraceStep} (h : ¬Answers step)
    (steps : List TraceStep) : answered (step :: steps) = 0 := by
  simp [answered, List.findIdx_cons, h]

section Answers

variable (table : FamilyTable) (before : Progress)

/-- Every step before the first that does not answer is published, and nothing else is. -/
theorem length_published (steps : List TraceStep) :
    (runFrom table before steps).published.length = answered steps := by
  induction steps generalizing before with
  | nil => rfl
  | cons step steps ih =>
    cases hreported : reportedState before.step step with
    | error rejection =>
      rw [answered_cons_of_not_answers (not_answers_of_reportedState hreported)]
      simp only [runFrom, hreported, List.length_nil]
    | ok reported =>
      rw [answered_cons_of_answers (answers_of_reportedState hreported)]
      simp only [runFrom, hreported, List.length_cons, ih]

/-- A replay ends with a rejection if and only if a step does not answer. -/
theorem isSome_rejection_iff (steps : List TraceStep) :
    (runFrom table before steps).rejection.isSome = true ↔ ∃ step ∈ steps, ¬Answers step := by
  induction steps generalizing before with
  | nil => simp [runFrom]
  | cons step steps ih =>
    simp only [List.mem_cons, exists_eq_or_imp]
    cases hreported : reportedState before.step step with
    | error rejection =>
      simp [runFrom, hreported, not_answers_of_reportedState hreported]
    | ok reported =>
      have hanswers := answers_of_reportedState hreported
      simp only [runFrom, hreported, hanswers, not_true, false_or, ih]

variable {steps : List TraceStep}

theorem rejection_of_answers (h : ∀ step ∈ steps, Answers step) :
    (runFrom table before steps).rejection = none := by
  rw [← Option.not_isSome_iff_eq_none, isSome_rejection_iff]
  rintro ⟨step, hstep, hfails⟩
  exact hfails (h step hstep)

theorem length_published_of_answers (h : ∀ step ∈ steps, Answers step) :
    (runFrom table before steps).published.length = steps.length := by
  rw [length_published, answered, List.findIdx_eq_length]
  intro step hstep
  simp [h step hstep]

theorem after_append (h : ∀ step ∈ steps, Answers step) (rest : List TraceStep) :
    before.after table (steps ++ rest) = (before.after table steps).after table rest := by
  induction steps generalizing before with
  | nil => rfl
  | cons step steps ih =>
    obtain ⟨hstep, hsteps⟩ := List.forall_mem_cons.1 h
    obtain ⟨reported, hreported⟩ := exists_reportedState hstep before.step
    simp only [List.cons_append, Progress.after, hreported]
    exact ih _ hsteps

theorem step_after (h : ∀ step ∈ steps, Answers step) :
    (before.after table steps).step = before.step + steps.length := by
  induction steps generalizing before with
  | nil => rfl
  | cons step steps ih =>
    obtain ⟨hstep, hsteps⟩ := List.forall_mem_cons.1 h
    obtain ⟨reported, hreported⟩ := exists_reportedState hstep before.step
    simp only [Progress.after, hreported]
    rw [ih _ hsteps, step_progress_publish, List.length_cons]
    omega

/-- After a step that answers, a state is published. -/
theorem exists_published_after (h : ∀ step ∈ steps, Answers step) (hne : steps ≠ []) :
    ∃ s, (before.after table steps).published = some s := by
  obtain ⟨steps, last, rfl⟩ := (List.eq_nil_or_concat steps).resolve_left hne
  rw [List.concat_eq_append] at h ⊢
  obtain ⟨hsteps, hlast⟩ := List.forall_mem_append.1 h
  obtain ⟨reported, hreported⟩ :=
    exists_reportedState (List.forall_mem_singleton.1 hlast) (before.after table steps).step
  rw [after_append table before hsteps]
  simp only [Progress.after, hreported]
  exact ⟨_, published_progress_publish _ _ _ _⟩

end Answers

section Position

variable {table : FamilyTable} {before : Progress} {steps : List TraceStep} {k : Nat}
  {step : TraceStep} {reported : ServiceState}

/-- What is published at a step, and what the replay has come to by then. -/
theorem getElem?_published (hstep : steps[k]? = some step)
    (hanswers : ∀ step ∈ steps.take k, Answers step)
    (hreported : reportedState (before.step + k) step = .ok reported) :
    (runFrom table before steps).published[k]? =
      some (publish table (before.after table (steps.take k)) reported step.locationChanged).1 := by
  induction steps generalizing before k with
  | nil => cases hstep
  | cons first rest ih =>
    cases k with
    | zero =>
      obtain rfl := Option.some.inj hstep
      rw [Nat.add_zero] at hreported
      simp only [runFrom, hreported, List.take_zero, Progress.after, List.getElem?_cons_zero]
    | succ k =>
      rw [List.take_succ_cons, List.forall_mem_cons] at hanswers
      obtain ⟨hfirst, hrest⟩ := hanswers
      obtain ⟨s, hs⟩ := exists_reportedState hfirst before.step
      simp only [runFrom, hs, List.take_succ_cons, Progress.after, List.getElem?_cons_succ]
      refine ih hstep hrest ?_
      rwa [step_progress_publish, Nat.add_assoc, Nat.add_comm 1 k]

theorem after_take_succ (hstep : steps[k]? = some step)
    (hanswers : ∀ step ∈ steps.take k, Answers step)
    (hreported : reportedState (before.step + k) step = .ok reported) :
    before.after table (steps.take (k + 1)) =
      (publish table (before.after table (steps.take k)) reported step.locationChanged).2 := by
  obtain ⟨hk, -⟩ := List.getElem?_eq_some_iff.1 hstep
  have hnumber := step_after table before hanswers
  rw [List.length_take_of_le (Nat.le_of_lt hk)] at hnumber
  rw [List.take_add_one, hstep, after_append table before hanswers]
  simp only [Option.toList_some, Progress.after, hnumber, hreported]

end Position

theorem exists_reported {steps : List TraceStep} {k : Nat} (hk : k < steps.length)
    (hanswers : ∀ step ∈ steps.take (k + 1), Answers step) (i : Nat) :
    (∀ step ∈ steps.take k, Answers step) ∧
      ∃ step reported, steps[k]? = some step ∧ reportedState i step = .ok reported := by
  have hget := List.getElem?_eq_getElem hk
  rw [List.take_add_one, hget, List.forall_mem_append] at hanswers
  obtain ⟨hbefore, hstep⟩ := hanswers
  obtain ⟨reported, hreported⟩ := exists_reportedState (List.forall_mem_singleton.1 hstep) i
  exact ⟨hbefore, steps[k], reported, hget, hreported⟩

/-- A step is published if it and all steps before it answer for their domains, and its state is
what the replay has come to by then. -/
theorem exists_published {table : FamilyTable} {before : Progress} {steps : List TraceStep} {k : Nat}
    (hk : k < steps.length) (hanswers : ∀ step ∈ steps.take (k + 1), Answers step) :
    ∃ p, (runFrom table before steps).published[k]? = some p ∧ p.step = before.step + k ∧
      (before.after table (steps.take (k + 1))).published = some p.state := by
  obtain ⟨hbefore, step, reported, hstep, hreported⟩ :=
    exists_reported hk hanswers (before.step + k)
  refine ⟨_, getElem?_published hstep hbefore hreported, ?_, ?_⟩
  · rw [step_publish, step_after table before hbefore, List.length_take_of_le (Nat.le_of_lt hk)]
  · rw [after_take_succ hstep hbefore hreported, published_progress_publish]

/-- A step in one place where both registrations report a technology by its code. -/
def stepInPlace (rat : Int32) (bandwidths : List UInt32) : TraceStep :=
  ⟨.unified ⟨1, rat, 0, none, "", .absent⟩, .unified ⟨1, rat, 0, none, "", .absent⟩, bandwidths,
    false⟩

end Replay

end CellularRegistration
