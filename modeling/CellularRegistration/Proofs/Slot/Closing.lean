import CellularRegistration.Proofs.Slot.Correlation

namespace CellularRegistration.SlotService

variable {κ : Type}

/-- Whether an action closes a service, if it is open. One that is given up is closed by the same
call. -/
def Action.Closes (action : Action κ) : Prop :=
  action = .beginClose ∨ action = .call .close

/-- Whether the worker of a closed service has ended after an action. -/
def Action.EndsWorker (action : Action κ) : Prop :=
  action = .turn ∨ action = .call .close

/-- What a client hears at once and not from the worker, if its number is no domain's. -/
def Action.refusal : Action κ → List (Effect κ)
  | .call (.requestCode code callback) =>
    if Domain.ofCode? code = none then [.answered callback (.error .invalidArgument)] else []
  | _ => []

def Effect.isUnsubscribed : Effect κ → Bool
  | .unsubscribed => true
  | _ => false

/-- How often the radio was told that the service no longer wants to hear of changes. -/
def unsubscriptions (log : List (Occurrence κ)) : Nat :=
  (log.flatMap Occurrence.effects).countP Effect.isUnsubscribed

theorem unsubscriptions_append (log later : List (Occurrence κ)) :
    unsubscriptions (log ++ later) = unsubscriptions log + unsubscriptions later := by
  simp only [unsubscriptions, List.flatMap_append, List.countP_append]

theorem answersTo_append (token : Nat) (log later : List (Occurrence κ)) :
    answersTo token (log ++ later) = answersTo token log ++ answersTo token later := by
  simp only [answersTo, List.filter_append, List.flatMap_append]

/-- Without a handled completion there is no answer to a token. -/
theorem answersTo_eq_nil_of_not_handled {log : List (Occurrence κ)}
    (h : ∀ o ∈ log, o.handled = none) (token : Nat) : answersTo token log = [] := by
  apply answersTo_eq_nil
  rintro ⟨completion, hmem, -⟩
  obtain ⟨o, ho, hcompletion⟩ := List.mem_filterMap.1 hmem
  rw [Occurrence.completion?, h o ho] at hcompletion
  cases hcompletion

theorem Action.refusal_of_command? {call : Call κ} {command : Command κ}
    (hcommand : call.command? = some command) : (Action.call call).refusal = [] := by
  cases call with
  | requestCode code callback =>
    obtain ⟨domain, hdomain, -⟩ := Option.map_eq_some_iff.1 hcommand
    simp [refusal, hdomain]
  | _ => rfl

theorem Action.mem_refusal {action : Action κ} {effect : Effect κ} (h : effect ∈ action.refusal) :
    ∃ code callback, action = .call (.requestCode code callback) ∧ Domain.ofCode? code = none ∧
      effect = .answered callback (.error .invalidArgument) := by
  unfold refusal at h
  split at h
  · split at h
    next hcode => exact ⟨_, _, rfl, hcode, List.mem_singleton.1 h⟩
    next => cases h
  · cases h

section Settings

/-- The slot of a service and its subscription, which it has from its start. -/
def settings (s : SlotService κ) : Nat × Int32 :=
  (s.slot, s.subId)

theorem settings_accept (s : SlotService κ) (command : Command κ) :
    (s.accept command).1.settings = s.settings := by
  unfold accept
  split <;> rfl

theorem settings_beginClose (s : SlotService κ) : s.beginClose.1.settings = s.settings := by
  unfold beginClose
  split <;> rfl

variable [DecidableEq κ]

theorem settings_handle (s : SlotService κ) (command : Command κ) :
    (s.handle command).1.settings = s.settings := by
  cases command with
  | message message =>
    cases message with
    | completed completion =>
      have hstate := s.complete_fst completion
      rw [handle, hstate]
      rfl
    | stateChanged => rfl
  | addObserver observer =>
    simp only [handle]
    split <;> rfl
  | _ => rfl

theorem settings_turn (s : SlotService κ) : s.turn.1.settings = s.settings := by
  unfold turn
  split
  · exact settings_handle _ _
  all_goals rfl

/-- The slot of a service and its subscription stay the same. -/
theorem settings_act (s : SlotService κ) (action : Action κ) :
    (s.act action).1.settings = s.settings := by
  cases action with
  | call call =>
    obtain ⟨command, -, hact⟩ | ⟨-, hact⟩ | ⟨_, _, -, -, hact⟩ := act_call_cases s call <;> rw [hact]
    · exact s.settings_accept command
    · exact (settings_turn _).trans s.settings_beginClose
  | message message =>
    simp only [act, deliver]
    split <;> rfl
  | replaceRadio radio => rfl
  | beginClose => exact s.settings_beginClose
  | turn => exact s.settings_turn

theorem slot_act (s : SlotService κ) (action : Action κ) : (s.act action).1.slot = s.slot :=
  congrArg Prod.fst (s.settings_act action)

theorem History.slot_eq {slot : Nat} {subId : Int32} {radio : Radio} {log : List (Occurrence κ)}
    {s : SlotService κ} (hhistory : History (initial slot subId radio) log s) : s.slot = slot := by
  induction hhistory with
  | start => rfl
  | @act log s action before permitted ih => rw [slot_act, ih]

end Settings

section Closed

variable {s : SlotService κ}

theorem accept_of_closed (hclosed : s.isClosed = true) (command : Command κ) :
    s.accept command = (s, .error (.serviceClosed s.slot)) :=
  if_pos hclosed

theorem beginClose_of_closed (hclosed : s.isClosed = true) : s.beginClose = (s, []) :=
  if_pos hclosed

theorem isClosed_of_stopped (hstopped : s.phase = .stopped) : s.isClosed = true := by
  rw [isClosed, hstopped]
  rfl

theorem handledBy_of_closed (hclosed : s.isClosed = true) (action : Action κ) :
    s.handledBy action = none := by
  have hphase : s.phase ≠ .running := by simpa [isClosed] using hclosed
  cases action with
  | turn => exact if_neg hphase
  | _ => rfl

variable [DecidableEq κ]

/-- The worker of a closed service ends at its next turn, without a look at the queue. -/
theorem turn_of_closed (hclosed : s.isClosed = true) :
    s.turn = (if s.phase = .stopped then s else s.stop, []) := by
  cases hphase : s.phase with
  | running => simp [isClosed, hphase] at hclosed
  | closing => simp [turn, hphase]
  | stopped => simp [turn, hphase]

theorem effects_act_of_closed (hclosed : s.isClosed = true) (action : Action κ) :
    (s.act action).2.2 = action.refusal := by
  cases action with
  | call call =>
    obtain ⟨command, hcommand, hact⟩ | ⟨rfl, hact⟩ | ⟨code, callback, rfl, hcode, hact⟩ :=
      act_call_cases s call <;> rw [hact]
    · exact (Action.refusal_of_command? hcommand).symm
    · rw [beginClose_of_closed hclosed, turn_of_closed hclosed]
      rfl
    · rw [Action.refusal, if_pos hcode]
  | beginClose =>
    rw [act, beginClose_of_closed hclosed]
    rfl
  | turn =>
    rw [act, turn_of_closed hclosed]
    rfl
  | _ => rfl

theorem phase_act_of_closed (hclosed : s.isClosed = true) (action : Action κ) :
    (s.act action).1.phase = .stopped ↔ s.phase = .stopped ∨ action.EndsWorker := by
  have hturn : s.turn.1.phase = .stopped := by
    rw [turn_of_closed hclosed]
    by_cases hstopped : s.phase = .stopped <;> simp [hstopped, stop]
  cases action with
  | call call =>
    obtain ⟨command, hcommand, hact⟩ | ⟨rfl, hact⟩ | ⟨code, callback, rfl, hcode, hact⟩ :=
      act_call_cases s call <;> rw [hact]
    · have hclose : call ≠ .close := by
        rintro rfl
        cases hcommand
      simp [accept_of_closed hclosed, Action.EndsWorker, hclose]
    · simp [beginClose_of_closed hclosed, hturn, Action.EndsWorker]
    · simp [Action.EndsWorker]
  | message message =>
    by_cases hstopped : s.phase = .stopped <;>
      simp [act, deliver, hstopped, enqueue, Action.EndsWorker]
  | replaceRadio radio => simp [act, Action.EndsWorker]
  | beginClose => simp [act, beginClose_of_closed hclosed, Action.EndsWorker]
  | turn => simp [act, hturn, Action.EndsWorker]

theorem act_message_of_stopped (hstopped : s.phase = .stopped) (message : RadioMessage) :
    s.act (.message message) = (s, .sent false, []) := by
  simp [act, deliver, hstopped]

end Closed

section Runs

variable [DecidableEq κ]

/-- What becomes of a service by some actions, one after the other. -/
def actAll (s : SlotService κ) (actions : List (Action κ)) : SlotService κ :=
  actions.foldl (fun s action => (s.act action).1) s

/-- What comes of these actions. -/
def occurrences (s : SlotService κ) : List (Action κ) → List (Occurrence κ)
  | [] => []
  | action :: actions => s.occurrence action :: occurrences (s.act action).1 actions

variable {s : SlotService κ}

theorem occurrences_of_closed (hclosed : s.isClosed = true) (actions : List (Action κ)) :
    ∀ o ∈ s.occurrences actions, o.handled = none ∧ o.effects = o.action.refusal := by
  induction actions generalizing s with
  | nil => simp [occurrences]
  | cons action actions ih =>
    have hfirst : (s.occurrence action).handled = none ∧
        (s.occurrence action).effects = action.refusal :=
      ⟨handledBy_of_closed hclosed action, effects_act_of_closed hclosed action⟩
    have hrest := ih (isClosed_act hclosed action)
    exact List.forall_mem_cons.2 ⟨hfirst, hrest⟩

theorem phase_actAll_of_closed (hclosed : s.isClosed = true) (actions : List (Action κ)) :
    (s.actAll actions).phase = .stopped ↔
      s.phase = .stopped ∨ ∃ action ∈ actions, action.EndsWorker := by
  induction actions generalizing s with
  | nil => simp [actAll]
  | cons action actions ih =>
    have hrest := ih (isClosed_act hclosed action)
    rw [phase_act_of_closed hclosed action] at hrest
    simpa [actAll, or_assoc] using hrest

theorem unsubscriptions_of_closed (hclosed : s.isClosed = true) (actions : List (Action κ)) :
    unsubscriptions (s.occurrences actions) = 0 := by
  rw [unsubscriptions, List.countP_eq_zero]
  intro effect hmem
  obtain ⟨o, ho, heffect⟩ := List.mem_flatMap.1 hmem
  rw [(occurrences_of_closed hclosed actions o ho).2] at heffect
  obtain ⟨code, callback, -, -, rfl⟩ := Action.mem_refusal heffect
  exact Bool.false_ne_true

end Runs

section Open

variable [DecidableEq κ] {s : SlotService κ}

theorem unsubscribed_not_mem_handle (s : SlotService κ) (command : Command κ) :
    ∀ effect ∈ (s.handle command).2, effect.isUnsubscribed = false := by
  intro effect hmem
  cases command with
  | request domain callback =>
    obtain rfl := List.mem_singleton.1 hmem
    rfl
  | message message =>
    cases message with
    | completed completion =>
      simp only [handle, complete] at hmem
      split at hmem
      · cases hmem
      · obtain rfl := List.mem_singleton.1 hmem
        rfl
    | stateChanged =>
      obtain ⟨observer, -, rfl⟩ := List.mem_map.1 hmem
      rfl
  | configChanged =>
    obtain rfl := List.mem_singleton.1 hmem
    rfl
  | _ => cases hmem

/-- A service that is still open has not unsubscribed. -/
theorem unsubscribed_not_mem_act {action : Action κ} (hopen : (s.act action).1.isClosed = false) :
    ∀ effect ∈ (s.act action).2.2, effect.isUnsubscribed = false := by
  intro effect hmem
  cases action with
  | call call =>
    obtain ⟨command, -, hact⟩ | ⟨-, hact⟩ | ⟨_, _, -, -, hact⟩ := act_call_cases s call <;>
      rw [hact] at hopen hmem
    · cases hmem
    · exact absurd (hopen.symm.trans (isClosed_turn (isClosed_beginClose s))) Bool.false_ne_true
    · obtain rfl := List.mem_singleton.1 hmem
      rfl
  | message message => cases hmem
  | replaceRadio radio => cases hmem
  | beginClose => exact absurd (hopen.symm.trans (isClosed_beginClose s)) Bool.false_ne_true
  | turn =>
    have hphase := phase_eq_running (isClosed_eq_false_of_act hopen)
    cases hqueue : s.queue with
    | nil =>
      simp only [act, turn, hphase, hqueue] at hmem
      cases hmem
    | cons command queue =>
      simp only [act, turn, hphase, hqueue] at hmem
      exact unsubscribed_not_mem_handle _ command effect hmem

theorem History.unsubscriptions_eq_zero {slot : Nat} {subId : Int32} {radio : Radio}
    {log : List (Occurrence κ)} (hhistory : History (initial slot subId radio) log s)
    (hopen : s.isClosed = false) : unsubscriptions log = 0 := by
  induction hhistory with
  | start => rfl
  | @act log s action before permitted ih =>
    have hlast : unsubscriptions [s.occurrence action] = 0 := by
      rw [unsubscriptions, List.countP_eq_zero]
      intro effect hmem
      rw [List.flatMap_singleton] at hmem
      simpa using unsubscribed_not_mem_act hopen effect hmem
    rw [unsubscriptions_append, hlast, ih (isClosed_eq_false_of_act hopen)]

/-- Closing an open service unsubscribes and does nothing else. A close that is not only begun
returns when the worker has ended. -/
theorem act_of_closes (hopen : s.isClosed = false) {closing : Action κ} (hcloses : closing.Closes) :
    (s.occurrence closing).handled = none ∧ (s.occurrence closing).effects = [.unsubscribed] ∧
      (s.act closing).1.isClosed = true ∧
      ((s.act closing).1.phase = .stopped ↔ closing.EndsWorker) := by
  have hbegin : s.beginClose = ({ s with phase := .closing }, [.unsubscribed]) := by
    rw [beginClose, hopen]
    rfl
  obtain rfl | rfl := hcloses
  · simp [occurrence, handledBy, act, hbegin, isClosed, Action.EndsWorker]
  · simp [occurrence, handledBy, act, SlotService.call, hbegin, turn, stop, isClosed,
      Action.EndsWorker]

end Open

/-- What a service of a slot has discarded when it is closed by an action, whatever is done later:
other actions on it, messages of its radio, and closing it again. -/
structure Discarded [DecidableEq κ] (slot : Nat) (log : List (Occurrence κ)) (s : SlotService κ)
    (closing : Action κ) (later : List (Action κ)) : Prop where
  /-- No command is handled any more, neither one that waited nor one that is sent later. -/
  handled_eq_none : ∀ o ∈ s.occurrences (closing :: later), o.handled = none
  /-- The closing only tells the radio. -/
  closing_effects : (s.occurrence closing).effects = [.unsubscribed]
  /-- Whatever else is seen of the service is said at once to a client that asks for an unknown
  domain. -/
  later_effects : ∀ o ∈ (s.act closing).1.occurrences later, ∀ effect ∈ o.effects,
    ∃ code callback, o.action = .call (.requestCode code callback) ∧ Domain.ofCode? code = none ∧
      effect = .answered callback (.error .invalidArgument)
  /-- A request that was pending is never answered. -/
  pending_unanswered : ∀ token request, (token, request) ∈ s.pending →
    answersTo token (log ++ s.occurrences (closing :: later)) = []
  /-- A completion that was being handled, or had been before, has answered its request once. -/
  answered_once : ∀ token request completion, (token, request) ∈ issued log →
    (handledCompletions log).find? (·.token == token) = some completion →
      answersTo token (log ++ s.occurrences (closing :: later)) =
        [(request.callback, resultOf request.domain completion.answer)]
  /-- The worker has ended as soon as it took a turn or a close returned, and stays so. -/
  stopped_iff : (s.actAll (closing :: later)).phase = .stopped ↔
    ∃ action ∈ closing :: later, action.EndsWorker
  /-- From then on nobody takes what the radio sends. -/
  not_taken : (s.actAll (closing :: later)).phase = .stopped → ∀ message,
    ((s.actAll (closing :: later)).act (.message message)).2.1 = .sent false
  /-- The radio of the slot is told once. -/
  slot_eq : s.slot = slot
  unsubscribed_once : unsubscriptions (log ++ s.occurrences (closing :: later)) = 1

/-- However an open service came about, closing it discards what it still had to do. -/
theorem History.discarded [DecidableEq κ] {slot : Nat} {subId : Int32} {radio : Radio}
    {log : List (Occurrence κ)} {s : SlotService κ}
    (hhistory : History (initial slot subId radio) log s) (hopen : s.isClosed = false)
    {closing : Action κ} (hcloses : closing.Closes) (later : List (Action κ)) :
    Discarded slot log s closing later := by
  have h := hhistory.agrees hopen
  obtain ⟨hhandled, heffects, hclosed, hphase⟩ := act_of_closes hopen hcloses
  have hlater := occurrences_of_closed hclosed later
  have hnone : ∀ o ∈ s.occurrences (closing :: later), o.handled = none :=
    List.forall_mem_cons.2 ⟨hhandled, fun o ho => (hlater o ho).1⟩
  -- Nothing is handled any more, so the invariant of the open service decides all answers.
  have hanswers : ∀ token, answersTo token (log ++ s.occurrences (closing :: later)) =
      answersTo token log := by
    intro token
    rw [answersTo_append, answersTo_eq_nil_of_not_handled hnone, List.append_nil]
  refine
    { handled_eq_none := hnone
      closing_effects := heffects
      later_effects := ?_
      pending_unanswered := ?_
      answered_once := ?_
      stopped_iff := ?_
      not_taken := fun hstopped message => by rw [act_message_of_stopped hstopped]
      slot_eq := hhistory.slot_eq
      unsubscribed_once := ?_ }
  · intro o ho effect heffect
    rw [(hlater o ho).2] at heffect
    obtain ⟨code, callback, haction, hrest⟩ := Action.mem_refusal heffect
    exact ⟨code, callback, haction, hrest⟩
  · intro token request hpending
    rw [hanswers]
    apply answersTo_eq_nil
    rintro ⟨completion, hmem, htoken⟩
    exact (h.mem_pending_iff.1 hpending).2 completion hmem htoken
  · intro token request completion hissued hfirst
    rw [hanswers, h.answers_eq token request hissued, hfirst]
    rfl
  · have hrest := phase_actAll_of_closed hclosed later
    rw [hphase] at hrest
    exact hrest.trans (by simp only [List.mem_cons, exists_eq_or_imp])
  · have hlast : unsubscriptions (s.occurrences (closing :: later)) =
        unsubscriptions [s.occurrence closing] := by
      have hrest := unsubscriptions_of_closed hclosed later
      have hsplit := unsubscriptions_append [s.occurrence closing]
        ((s.act closing).1.occurrences later)
      rw [hrest] at hsplit
      exact hsplit
    rw [unsubscriptions_append, hhistory.unsubscriptions_eq_zero hopen, hlast, unsubscriptions,
      List.flatMap_singleton, heffects]
    rfl

/-- The first of two requests has just been answered. The completion of the second, a change of
registration that an observer waits for, a third request and all else in the queue come to nothing,
and so does a late completion. -/
theorem discarded_with_full_queue :
    ∃ log s, History (initial 0 1 .silent : SlotService Nat) log s ∧ s.isClosed = false ∧
      s.queue.length = 5 ∧ s.pending.map Prod.fst = [2] ∧ s.observers = [9] ∧
      Action.Closes (.beginClose : Action Nat) ∧
      Discarded 0 log s .beginClose
        [.message (.completed ⟨2, .error ⟨"late"⟩⟩), .turn, .message .stateChanged, .call .close,
          .call .close] := by
  have hstart : History (initial 0 1 .silent : SlotService Nat) [] _ := .start
  obtain ⟨log, hasked, hfirst, hsecond⟩ : ∃ log, History (initial 0 1 .silent : SlotService Nat) log
      { initial 0 1 .silent with
        pending := [(1, ⟨.cs, 7⟩), (2, ⟨.ps, 8⟩)], observers := [9], nextToken := 3 } ∧
      HandedOut log 1 ∧ HandedOut log 2 := by
    refine ⟨_, hstart
      |>.act (.call (.addObserver 9)) trivial
      |>.act (.call (.request .cs 7)) trivial
      |>.act (.call (.request .ps 8)) trivial
      |>.act .turn (fun _ _ _ _ hmem => absurd hmem List.not_mem_nil)
      |>.act .turn (fun _ _ _ _ hmem => absurd hmem List.not_mem_nil)
      |>.act .turn (fun _ _ _ _ hmem => absurd hmem List.not_mem_nil), ?_, ?_⟩
    · exact (by decide : 1 ∈ [1, 2])
    · exact (by decide : 2 ∈ [1, 2])
  have hhistory := hasked
    |>.act (.message (.completed ⟨1, .error ⟨"busy"⟩⟩)) hfirst
    |>.act (.message (.completed ⟨2, .error ⟨"busy"⟩⟩)) (hsecond.snoc _)
    |>.act (.message .stateChanged) trivial
    |>.act (.call (.request .cs 7)) trivial
    |>.act (.call .configChanged) trivial
    |>.act (.call .flush) trivial
    |>.act .turn (fun _ _ _ _ hmem => absurd hmem List.not_mem_nil)
  have hcloses : Action.Closes (.beginClose : Action Nat) := .inl rfl
  exact ⟨_, _, hhistory, rfl, rfl, rfl, rfl, hcloses, hhistory.discarded rfl hcloses _⟩

end CellularRegistration.SlotService
