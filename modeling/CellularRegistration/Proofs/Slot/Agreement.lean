import CellularRegistration.Proofs.Slot.History
import Mathlib.Tactic.ByContra

namespace CellularRegistration.SlotService

variable {κ : Type}

section Snoc

variable (log : List (Occurrence κ)) (o : Occurrence κ)

theorem acceptedRequests_snoc :
    acceptedRequests (log ++ [o]) = acceptedRequests log ++ o.accepted?.toList := by
  cases h : o.accepted? <;> simp [acceptedRequests, h]

theorem handledRequests_snoc :
    handledRequests (log ++ [o]) = handledRequests log ++ o.request?.toList := by
  cases h : o.request? <;> simp [handledRequests, h]

theorem handledCompletions_snoc :
    handledCompletions (log ++ [o]) = handledCompletions log ++ o.completion?.toList := by
  cases h : o.completion? <;> simp [handledCompletions, h]

theorem asked_snoc : asked (log ++ [o]) = asked log ++ o.asked := by
  simp [asked]

theorem answersTo_snoc (token : Nat) :
    answersTo token (log ++ [o]) =
      answersTo token log ++ if o.completion?.any (·.token == token) then o.answers else [] := by
  cases h : o.completion?.any (·.token == token) <;> simp [answersTo, h]

theorem issued_snoc :
    issued (log ++ [o]) = issued log ++
      (o.request?.map fun request => ((handledRequests log).length + 1, request)).toList := by
  cases h : o.request? <;> simp [issued, handledRequests_snoc, h, List.zipIdx_append, Nat.add_comm]

end Snoc

theorem map_fst_issued (log : List (Occurrence κ)) :
    (issued log).map Prod.fst = List.range' 1 (handledRequests log).length := by
  simp [issued, List.map_map, Function.comp_def, List.zipIdx_map_snd]

theorem mem_tokens_iff {log : List (Occurrence κ)} {token : Nat} :
    token ∈ (issued log).map Prod.fst ↔ 0 < token ∧ token ≤ (handledRequests log).length := by
  rw [map_fst_issued, List.mem_range'_1]
  omega

/-- A token is issued to one request only. -/
theorem eq_of_mem_issued {log : List (Occurrence κ)} {token : Nat} {first second : PendingRequest κ}
    (hfirst : (token, first) ∈ issued log) (hsecond : (token, second) ∈ issued log) :
    first = second := by
  simp only [issued, List.mem_map, Prod.exists, Prod.swap_prod_mk, Prod.mk.injEq] at hfirst hsecond
  obtain ⟨request, index, hmem, rfl, rfl⟩ := hfirst
  obtain ⟨request', index', hmem', rfl, rfl⟩ := hsecond
  rw [List.mk_mem_zipIdx_iff_le_and_getElem?_sub] at hmem hmem'
  exact Option.some.inj (hmem.2.symm.trans hmem'.2)

/-- A completion with this token has been handled. -/
def Completed (log : List (Occurrence κ)) (token : Nat) : Prop :=
  ∃ completion ∈ handledCompletions log, completion.token = token

instance (log : List (Occurrence κ)) (token : Nat) : Decidable (Completed log token) :=
  inferInstanceAs (Decidable (∃ completion ∈ handledCompletions log, completion.token = token))

theorem completed_snoc (log : List (Occurrence κ)) (o : Occurrence κ) (token : Nat) :
    Completed (log ++ [o]) token ↔
      Completed log token ∨ ∃ completion ∈ o.completion?, completion.token = token := by
  simp only [Completed, handledCompletions_snoc, List.mem_append, or_and_right, exists_or]
  cases o.completion? <;> simp

theorem find?_completion_eq_none_iff {log : List (Occurrence κ)} {token : Nat} :
    (handledCompletions log).find? (·.token == token) = none ↔ ¬ Completed log token := by
  simp [Completed]

theorem answersTo_eq_nil {log : List (Occurrence κ)} {token : Nat} (h : ¬ Completed log token) :
    answersTo token log = [] := by
  have hnone : log.filter (fun o => o.completion?.any (·.token == token)) = [] := by
    rw [List.filter_eq_nil_iff]
    intro o ho hany
    obtain ⟨completion, hcompletion, htoken⟩ := (Option.any_eq_true _ _).1 hany
    exact h ⟨completion, List.mem_filterMap.2 ⟨o, ho, hcompletion⟩, by simpa using htoken⟩
  rw [answersTo, hnone, List.flatMap_nil]

/-- The issued requests with whose tokens no completion has been handled. -/
def outstanding (log : List (Occurrence κ)) : List (Nat × PendingRequest κ) :=
  (issued log).filter fun (token, _) => ¬ Completed log token

theorem lookup_outstanding {log : List (Occurrence κ)} {token : Nat} {request : PendingRequest κ}
    (hissued : (token, request) ∈ issued log) :
    (outstanding log).lookup token = if Completed log token then none else some request := by
  cases hlookup : (outstanding log).lookup token with
  | none =>
    have habsent := List.lookup_eq_none_iff.1 hlookup
    rw [if_pos]
    by_cases hcompleted : Completed log token
    · exact hcompleted
    · simpa using habsent (token, request) (List.mem_filter.2 ⟨hissued, by simpa using hcompleted⟩)
  | some found =>
    obtain ⟨before, after, hsplit, _⟩ := List.lookup_eq_some_iff.1 hlookup
    have hmem : (token, found) ∈ outstanding log := by simp [hsplit]
    obtain ⟨hfound, hopen⟩ := List.mem_filter.1 hmem
    rw [if_neg (by simpa using hopen), eq_of_mem_issued hfound hissued]

/-- A service agrees with the log of its history: requests are handled in the order of their
acceptance and numbered in it, those without a handled completion are pending, and the first handled
completion of a request is the one that is answered with. -/
structure Agrees (log : List (Occurrence κ)) (s : SlotService κ) : Prop where
  accepted_eq : acceptedRequests log = handledRequests log ++ s.queue.filterMap Command.request?
  nextToken_eq : s.nextToken = (handledRequests log).length + 1
  asked_eq : asked log = (issued log).map fun (token, request) => (request.domain, token)
  pending_eq : s.pending = outstanding log
  queued_handedOut : ∀ completion ∈ s.queue.filterMap Command.completion?,
    HandedOut log completion.token
  handled_handedOut : ∀ completion ∈ handledCompletions log, HandedOut log completion.token
  answers_eq : ∀ token request, (token, request) ∈ issued log → answersTo token log =
    ((handledCompletions log).find? (·.token == token)).toList.map fun completion =>
      (request.callback, resultOf request.domain completion.answer)
  answer_cause : ∀ o ∈ log, ∀ answer ∈ o.answers, o.completion?.isSome ∨
    ∃ code, o.action = .call (.requestCode code answer.1) ∧ Domain.ofCode? code = none

theorem agrees_initial (slot : Nat) (subId : Int32) (radio : Radio) :
    Agrees [] (initial slot subId radio : SlotService κ) where
  accepted_eq := rfl
  nextToken_eq := rfl
  asked_eq := rfl
  pending_eq := rfl
  queued_handedOut := by simp [initial]
  handled_handedOut := by simp [handledCompletions]
  answers_eq := by simp [issued, handledRequests]
  answer_cause := by simp

theorem HandedOut.snoc {log : List (Occurrence κ)} {token : Nat} (h : HandedOut log token)
    (o : Occurrence κ) : HandedOut (log ++ [o]) token := by
  rw [HandedOut, asked_snoc, List.map_append]
  exact List.mem_append_left _ h

namespace Agrees

variable {log : List (Occurrence κ)} {s : SlotService κ}

theorem handedOut_iff (h : Agrees log s) {token : Nat} :
    HandedOut log token ↔ token ∈ (issued log).map Prod.fst := by
  rw [HandedOut, h.asked_eq, List.map_map]
  rfl

theorem not_completed_nextToken (h : Agrees log s) : ¬ Completed log s.nextToken := by
  rintro ⟨completion, hmem, htoken⟩
  have hhanded := h.handedOut_iff.1 (h.handled_handedOut completion hmem)
  rw [mem_tokens_iff, htoken, h.nextToken_eq] at hhanded
  omega

theorem answer_cause_snoc (h : Agrees log s) {o : Occurrence κ}
    (ho : ∀ answer ∈ o.answers, o.completion?.isSome ∨
      ∃ code, o.action = .call (.requestCode code answer.1) ∧ Domain.ofCode? code = none) :
    ∀ o' ∈ log ++ [o], ∀ answer ∈ o'.answers, o'.completion?.isSome ∨
      ∃ code, o'.action = .call (.requestCode code answer.1) ∧ Domain.ofCode? code = none :=
  List.forall_mem_append.2 ⟨h.answer_cause, List.forall_mem_singleton.2 ho⟩

/-- Whoever stays away from the requests leaves the log and the service in agreement. -/
theorem quiet (h : Agrees log s) {o : Occurrence κ} {s' : SlotService κ}
    (hrequest : o.request? = none) (hcompletion : o.completion? = none) (hasked : o.asked = [])
    (hqueue : acceptedRequests (log ++ [o]) =
      handledRequests log ++ s'.queue.filterMap Command.request?)
    (hqueued : ∀ completion ∈ s'.queue.filterMap Command.completion?,
      HandedOut log completion.token)
    (hanswers : ∀ answer ∈ o.answers,
      ∃ code, o.action = .call (.requestCode code answer.1) ∧ Domain.ofCode? code = none)
    (hpending : s'.pending = s.pending) (htoken : s'.nextToken = s.nextToken) :
    Agrees (log ++ [o]) s' := by
  have hissued : issued (log ++ [o]) = issued log := by simp [issued_snoc, hrequest]
  have hcompleted : ∀ token, Completed (log ++ [o]) token ↔ Completed log token := by
    simp [completed_snoc, hcompletion]
  refine ⟨?_, ?_, ?_, ?_, ?_, ?_, ?_, ?_⟩
  · simpa [handledRequests_snoc, hrequest] using hqueue
  · simpa [handledRequests_snoc, hrequest, htoken] using h.nextToken_eq
  · simpa [asked_snoc, hasked, hissued] using h.asked_eq
  · simpa [outstanding, hissued, hcompleted, hpending] using h.pending_eq
  · exact fun completion hmem => (hqueued completion hmem).snoc o
  · intro completion hmem
    rw [handledCompletions_snoc, hcompletion, Option.toList_none, List.append_nil] at hmem
    exact (h.handled_handedOut completion hmem).snoc o
  · intro token request hmem
    rw [hissued] at hmem
    simpa [answersTo_snoc, handledCompletions_snoc, hcompletion] using
      h.answers_eq token request hmem
  · exact h.answer_cause_snoc fun answer hanswer => .inr (hanswers answer hanswer)

variable [DecidableEq κ]

theorem post (h : Agrees log s) {action : Action κ} {commands : List (Command κ)}
    (hposts : Posts s action commands) (hpermitted : Permitted log s action) :
    Agrees (log ++ [s.occurrence action]) (s.act action).1 := by
  obtain ⟨radio, hstate⟩ := hposts.state_eq
  rw [hstate]
  apply h.quiet
  · simp [Occurrence.request?, hposts.handled_eq]
  · simp [Occurrence.completion?, hposts.handled_eq]
  · exact hposts.asked_eq
  · rw [acceptedRequests_snoc, h.accepted_eq, ← hposts.requests_eq, List.filterMap_append,
      List.append_assoc]
  · intro completion hmem
    rw [List.filterMap_append, List.mem_append] at hmem
    obtain hmem | hmem := hmem
    · exact h.queued_handedOut completion hmem
    · obtain rfl := hposts.sent_of_mem completion hmem
      exact hpermitted
  · exact hposts.code_of_answer
  · rfl
  · rfl

end Agrees

section Turn

variable [DecidableEq κ] {s : SlotService κ} {command : Command κ} {queue : List (Command κ)}

theorem act_turn_of_cons (hphase : s.phase = .running) (hqueue : s.queue = command :: queue) :
    (s.act .turn).1 = ({ s with queue }.handle command).1 ∧
      s.occurrence .turn =
        ⟨.turn, some command, .nothing, ({ s with queue }.handle command).2⟩ := by
  simp [occurrence, act, turn, handledBy, hphase, hqueue]

theorem act_turn_of_nil (hqueue : s.queue = []) (hphase : s.phase = .running) :
    Posts s .turn [] := by
  have hact : s.act .turn = (s, .nothing, []) := by simp [act, turn, hphase, hqueue]
  refine ⟨⟨s.radio, by rw [hact, List.append_nil]⟩, ?_, ?_, ?_, ?_, ?_⟩ <;>
    simp [hact, hqueue, occurrence, handledBy, Occurrence.asked, Occurrence.accepted?,
      Occurrence.answers]

/-- A command that is neither a request nor a completion does not touch the requests. -/
theorem handle_of_unrelated (hrequest : command.request? = none)
    (hcompletion : command.completion? = none) :
    (∃ observers, (s.handle command).1 = { s with observers }) ∧
      (s.handle command).2.filterMap Effect.asked? = [] ∧
      (s.handle command).2.filterMap Effect.answered? = [] := by
  cases command with
  | request domain callback => simp [Command.request?] at hrequest
  | message message =>
    cases message with
    | completed completion => simp [Command.completion?] at hcompletion
    | stateChanged =>
      exact ⟨⟨s.observers, rfl⟩, by simp [handle, Effect.asked?, Effect.answered?]⟩
  | addObserver observer =>
    refine ⟨?_, rfl, rfl⟩
    simp only [handle]
    split
    · exact ⟨s.observers, rfl⟩
    · exact ⟨_, rfl⟩
  | removeObserver observer => exact ⟨⟨_, rfl⟩, rfl, rfl⟩
  | configChanged => exact ⟨⟨s.observers, rfl⟩, rfl, rfl⟩
  | flush => exact ⟨⟨s.observers, rfl⟩, rfl, rfl⟩

end Turn

theorem complete_fst (s : SlotService κ) (completion : Completion) :
    (s.complete completion).1 =
      { s with pending := s.pending.filter fun (token, _) => token != completion.token } := by
  unfold complete
  cases hlookup : s.pending.lookup completion.token with
  | some request => rfl
  | none =>
    have hkeep : s.pending.filter (fun (token, _) => token != completion.token) = s.pending := by
      rw [List.filter_eq_self]
      intro entry hentry
      simpa [bne_comm] using List.lookup_eq_none_iff.1 hlookup entry hentry
    simp only [hkeep]

theorem complete_answers (s : SlotService κ) (completion : Completion) :
    (s.complete completion).2.filterMap Effect.answered? =
      ((s.pending.lookup completion.token).map fun request =>
        (request.callback, resultOf request.domain completion.answer)).toList := by
  unfold complete
  cases s.pending.lookup completion.token <;> simp [Effect.answered?]

theorem complete_asked (s : SlotService κ) (completion : Completion) :
    (s.complete completion).2.filterMap Effect.asked? = [] := by
  unfold complete
  cases s.pending.lookup completion.token <;> simp [Effect.asked?]

namespace Agrees

variable {log : List (Occurrence κ)} {s : SlotService κ} {queue : List (Command κ)}

theorem turn_unrelated [DecidableEq κ] (h : Agrees log s) {command : Command κ}
    (hphase : s.phase = .running) (hqueue : s.queue = command :: queue)
    (hrequest : command.request? = none) (hcompletion : command.completion? = none) :
    Agrees (log ++ [s.occurrence .turn]) (s.act .turn).1 := by
  obtain ⟨hstate, hoccurrence⟩ := act_turn_of_cons hphase hqueue
  obtain ⟨⟨observers, hhandle⟩, hasked, hanswers⟩ :=
    handle_of_unrelated (s := { s with queue }) hrequest hcompletion
  rw [hstate, hoccurrence, hhandle]
  have haccepted := h.accepted_eq
  have hqueued := h.queued_handedOut
  rw [hqueue, List.filterMap_cons, hrequest] at haccepted
  rw [hqueue, List.filterMap_cons, hcompletion] at hqueued
  apply h.quiet
  · exact hrequest
  · exact hcompletion
  · exact hasked
  · simpa [acceptedRequests_snoc, Occurrence.accepted?] using haccepted
  · exact hqueued
  · intro answer hanswer
    rw [Occurrence.answers, hanswers] at hanswer
    cases hanswer
  · rfl
  · rfl

/-- A request takes the next token, which nothing has been heard of before. -/
theorem issue (h : Agrees log s) {o : Occurrence κ} {domain : Domain} {callback : κ}
    (hqueue : s.queue = .request domain callback :: queue)
    (hreplies : ∀ completion ∈ s.radio.replies domain s.nextToken,
      completion.token = s.nextToken ∨ HandedOut log completion.token)
    (hrequest : o.request? = some ⟨domain, callback⟩) (hcompletion : o.completion? = none)
    (haccepted : o.accepted? = none) (hasked : o.asked = [(domain, s.nextToken)])
    (hanswers : o.answers = []) :
    Agrees (log ++ [o]) ({ s with queue }.issue domain callback).1 := by
  have hissued : issued (log ++ [o]) = issued log ++ [(s.nextToken, ⟨domain, callback⟩)] := by
    rw [issued_snoc, hrequest, h.nextToken_eq]
    rfl
  have hcompleted : ∀ token, Completed (log ++ [o]) token ↔ Completed log token := by
    simp [completed_snoc, hcompletion]
  have hcompletions : handledCompletions (log ++ [o]) = handledCompletions log := by
    simp [handledCompletions_snoc, hcompletion]
  have hfresh := h.not_completed_nextToken
  refine ⟨?_, ?_, ?_, ?_, ?_, ?_, ?_, ?_⟩
  · have hnone : ((s.radio.replies domain s.nextToken).map fun completion =>
        (Command.message (.completed completion) : Command κ)).filterMap Command.request? = [] := by
      simp [List.filterMap_map, Function.comp_def, Command.request?]
    have hbefore := h.accepted_eq
    rw [hqueue] at hbefore
    simp [acceptedRequests_snoc, haccepted, hbefore, handledRequests_snoc, hrequest,
      SlotService.issue, hnone, Command.request?]
  · simp [SlotService.issue, handledRequests_snoc, hrequest, h.nextToken_eq]
  · simp [asked_snoc, hasked, hissued, h.asked_eq]
  · simp [SlotService.issue, outstanding, hissued, hcompleted, h.pending_eq, hfresh]
  · intro completion hmem
    simp only [SlotService.issue, List.filterMap_append, List.mem_append] at hmem
    obtain hmem | hmem := hmem
    · have hqueued := h.queued_handedOut completion
      rw [hqueue] at hqueued
      exact (hqueued (by simpa [Command.completion?] using hmem)).snoc o
    · have hreply : completion ∈ s.radio.replies domain s.nextToken := by
        simpa [List.filterMap_map, Function.comp_def, Command.completion?] using hmem
      obtain htoken | hbefore := hreplies completion hreply
      · simp [HandedOut, asked_snoc, hasked, htoken]
      · exact hbefore.snoc o
  · intro completion hmem
    rw [hcompletions] at hmem
    exact (h.handled_handedOut completion hmem).snoc o
  · intro token request hmem
    rw [hissued, List.mem_append, List.mem_singleton, Prod.mk.injEq] at hmem
    have hsame : answersTo token (log ++ [o]) = answersTo token log := by
      simp [answersTo_snoc, hcompletion]
    rw [hcompletions, hsame]
    obtain hmem | ⟨rfl, rfl⟩ := hmem
    · exact h.answers_eq token request hmem
    · rw [answersTo_eq_nil hfresh, find?_completion_eq_none_iff.2 hfresh]
      rfl
  · refine h.answer_cause_snoc fun answer hanswer => ?_
    rw [hanswers] at hanswer
    cases hanswer

/-- A completion answers the request of its token, unless one before it did. -/
theorem complete (h : Agrees log s) {o : Occurrence κ} {completion : Completion}
    (hqueue : s.queue = .message (.completed completion) :: queue)
    (hrequest : o.request? = none) (hcompletion : o.completion? = some completion)
    (haccepted : o.accepted? = none) (hasked : o.asked = [])
    (hanswers : o.answers = ((s.pending.lookup completion.token).map fun request =>
      (request.callback, resultOf request.domain completion.answer)).toList) :
    Agrees (log ++ [o]) ({ s with queue }.complete completion).1 := by
  have hissued : issued (log ++ [o]) = issued log := by simp [issued_snoc, hrequest]
  have hcompleted : ∀ token, Completed (log ++ [o]) token ↔
      Completed log token ∨ completion.token = token := by
    simp [completed_snoc, hcompletion]
  have hqueued := h.queued_handedOut
  rw [hqueue] at hqueued
  rw [complete_fst]
  refine ⟨?_, ?_, ?_, ?_, ?_, ?_, ?_, ?_⟩
  · have hbefore := h.accepted_eq
    rw [hqueue, List.filterMap_cons_none rfl] at hbefore
    simpa [acceptedRequests_snoc, haccepted, handledRequests_snoc, hrequest] using hbefore
  · simpa [handledRequests_snoc, hrequest] using h.nextToken_eq
  · simpa [asked_snoc, hasked, hissued] using h.asked_eq
  · simp only [outstanding, hissued, hcompleted, h.pending_eq, List.filter_filter]
    apply List.filter_congr
    grind
  · intro other hmem
    exact (hqueued other (by simp [Command.completion?, hmem])).snoc o
  · intro other hmem
    rw [handledCompletions_snoc, hcompletion, List.mem_append] at hmem
    obtain hmem | hmem := hmem
    · exact (h.handled_handedOut other hmem).snoc o
    · obtain rfl : other = completion := by simpa using hmem
      exact (hqueued other (by simp [Command.completion?])).snoc o
  · intro token request hmem
    rw [hissued] at hmem
    have hbefore := h.answers_eq token request hmem
    rw [answersTo_snoc, handledCompletions_snoc, hcompletion, hbefore, List.find?_append]
    by_cases htoken : completion.token = token
    · subst htoken
      rw [hanswers, h.pending_eq, lookup_outstanding hmem]
      cases hfind : (handledCompletions log).find? (·.token == completion.token) with
      | none => simp [find?_completion_eq_none_iff.1 hfind]
      | some first =>
        have hdone : Completed log completion.token := by
          by_contra hopen
          simp [find?_completion_eq_none_iff.2 hopen] at hfind
        simp [hdone]
    · simp [htoken]
  · exact h.answer_cause_snoc fun _ _ => .inl (by simp [hcompletion])

/-- Every permitted action that leaves a service open keeps it in agreement with its log. -/
theorem act [DecidableEq κ] (h : Agrees log s) {action : Action κ} (hpermitted : Permitted log s action)
    (hopen : (s.act action).1.isClosed = false) :
    Agrees (log ++ [s.occurrence action]) (s.act action).1 := by
  have hphase := phase_eq_running (isClosed_eq_false_of_act hopen)
  by_cases hturn : action = .turn
  · subst hturn
    cases hqueue : s.queue with
    | nil => exact h.post (act_turn_of_nil hqueue hphase) hpermitted
    | cons command queue =>
      obtain ⟨hstate, hoccurrence⟩ := act_turn_of_cons hphase hqueue
      cases command with
      | request domain callback =>
        rw [hstate, hoccurrence]
        exact h.issue hqueue (hpermitted domain callback (by simp [handledBy, hphase, hqueue]))
          rfl rfl rfl rfl rfl
      | message message =>
        cases message with
        | completed completion =>
          rw [hstate, hoccurrence]
          exact h.complete hqueue rfl rfl rfl (complete_asked _ _) (complete_answers _ _)
        | stateChanged => exact h.turn_unrelated hphase hqueue rfl rfl
      | _ => exact h.turn_unrelated hphase hqueue rfl rfl
  · obtain ⟨commands, hposts⟩ := posts_of_open hturn hopen
    exact h.post hposts hpermitted

end Agrees

/-- An open service agrees with the log of its history. -/
theorem History.agrees [DecidableEq κ] {slot : Nat} {subId : Int32} {radio : Radio}
    {log : List (Occurrence κ)} {s : SlotService κ}
    (hhistory : History (initial slot subId radio) log s) (hopen : s.isClosed = false) :
    Agrees log s := by
  induction hhistory with
  | start => exact agrees_initial slot subId radio
  | act action before permitted ih =>
    exact (ih (isClosed_eq_false_of_act hopen)).act permitted hopen

end CellularRegistration.SlotService
