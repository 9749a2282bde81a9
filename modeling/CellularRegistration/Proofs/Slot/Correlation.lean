import CellularRegistration.Proofs.Slot.Agreement

namespace CellularRegistration.SlotService

variable {κ : Type}

/-- A record is heard exactly if the radio's answer has one for the domain of the request. -/
theorem resultOf_eq_ok_iff {domain : Domain} {answer : RadioAnswer} {record : RegistrationRecord} :
    resultOf domain answer = .ok record ↔
      ∃ payload, answer = .ok payload ∧ payload.normalize domain = .ok record := by
  cases answer with
  | error failure => simp [resultOf]
  | ok payload => cases h : payload.normalize domain <;> simp [resultOf, h]

theorem eq_failed_of_resultOf {domain : Domain} {answer : RadioAnswer} {failure : RequestFailure}
    (h : resultOf domain answer = .error failure) : failure = .failed := by
  cases answer with
  | error _ => simpa [resultOf] using h.symm
  | ok payload => cases hn : payload.normalize domain <;> simp_all [resultOf]

/-- How an open service has related the completions of its radio to the requests of its clients. -/
structure Correlated (log : List (Occurrence κ)) (s : SlotService κ) : Prop where
  /-- The worker handles the accepted requests in their order, and the others wait in the queue. -/
  accepted_eq : acceptedRequests log = handledRequests log ++ s.queue.filterMap Command.request?
  /-- The radio was asked for each handled request once, with the request's number for a token. -/
  asked_eq : asked log = (issued log).map fun (token, request) => (request.domain, token)
  tokens_eq : (asked log).map Prod.snd = List.range' 1 (handledRequests log).length
  tokens_nodup : ((asked log).map Prod.snd).Nodup
  token_lt : ∀ token ∈ (asked log).map Prod.snd, token < UInt64.size
  /-- A request is pending from when it was issued until a completion with its token is handled. -/
  mem_pending_iff : ∀ token request, (token, request) ∈ s.pending ↔
    (token, request) ∈ issued log ∧ ∀ completion ∈ handledCompletions log, completion.token ≠ token
  pending_nodup : (s.pending.map Prod.fst).Nodup
  pending_lt : ∀ token request, (token, request) ∈ s.pending → token < s.nextToken
  /-- A request is answered once at most, and only by the completions that carry its token. -/
  answered_once : ∀ token request, (token, request) ∈ issued log →
    (answersTo token log).length ≤ 1 ∧
      (answersTo token log ≠ [] ↔
        ∃ completion ∈ handledCompletions log, completion.token = token)
  /-- The first of them decides what the callback of the request hears. -/
  answer_eq : ∀ token request completion, (token, request) ∈ issued log →
    (handledCompletions log).find? (·.token == token) = some completion →
      ∃ result, answersTo token log = [(request.callback, result)] ∧
        (∀ record, result = .ok record ↔
          ∃ payload, completion.answer = .ok payload ∧
            payload.normalize request.domain = .ok record) ∧
        ∀ failure, result = .error failure → failure = .failed
  /-- Every handled completion carries the token of a request. -/
  completion_issued : ∀ completion ∈ handledCompletions log,
    ∃ request, (completion.token, request) ∈ issued log
  /-- Other than by a completion, a callback hears only that it asked for an unknown domain. -/
  answer_cause : ∀ o ∈ log, ∀ answer ∈ o.answers, o.completion?.isSome ∨
    ∃ code, o.action = .call (.requestCode code answer.1) ∧ Domain.ofCode? code = none

namespace Agrees

variable {log : List (Occurrence κ)} {s : SlotService κ}

theorem tokens_eq (h : Agrees log s) :
    (asked log).map Prod.snd = List.range' 1 (handledRequests log).length := by
  rw [h.asked_eq, List.map_map, ← map_fst_issued]
  rfl

theorem mem_pending_iff (h : Agrees log s) {token : Nat} {request : PendingRequest κ} :
    (token, request) ∈ s.pending ↔ (token, request) ∈ issued log ∧
      ∀ completion ∈ handledCompletions log, completion.token ≠ token := by
  simp [h.pending_eq, outstanding, Completed]

theorem pending_nodup (h : Agrees log s) : (s.pending.map Prod.fst).Nodup := by
  have hsub : (s.pending.map Prod.fst).Sublist (List.range' 1 (handledRequests log).length) := by
    rw [h.pending_eq, ← map_fst_issued]
    exact List.filter_sublist.map _
  exact hsub.nodup List.nodup_range'

theorem pending_lt (h : Agrees log s) {token : Nat} {request : PendingRequest κ}
    (hpending : (token, request) ∈ s.pending) : token < s.nextToken := by
  have hissued := (h.mem_pending_iff.1 hpending).1
  have hbound := mem_tokens_iff.1 (List.mem_map_of_mem (f := Prod.fst) hissued)
  rw [h.nextToken_eq]
  omega

theorem answered_once (h : Agrees log s) {token : Nat} {request : PendingRequest κ}
    (hissued : (token, request) ∈ issued log) :
    (answersTo token log).length ≤ 1 ∧
      (answersTo token log ≠ [] ↔
        ∃ completion ∈ handledCompletions log, completion.token = token) := by
  rw [h.answers_eq token request hissued]
  cases hfind : (handledCompletions log).find? (·.token == token) with
  | none => simpa [Completed] using find?_completion_eq_none_iff.1 hfind
  | some completion =>
    have htoken : completion.token = token := by simpa using List.find?_some hfind
    simpa using ⟨completion, List.mem_of_find?_eq_some hfind, htoken⟩

end Agrees

/-- In every history of an open service, requests and completions correspond by their tokens. -/
theorem History.correlated [DecidableEq κ] {slot : Nat} {subId : Int32} {radio : Radio}
    {log : List (Occurrence κ)} {s : SlotService κ}
    (hhistory : History (initial slot subId radio) log s) (hopen : s.isClosed = false)
    (hcount : (acceptedRequests log).length < UInt64.size) : Correlated log s := by
  have h := hhistory.agrees hopen
  have hhandled : (handledRequests log).length ≤ (acceptedRequests log).length := by
    rw [h.accepted_eq, List.length_append]
    omega
  refine
    { accepted_eq := h.accepted_eq
      asked_eq := h.asked_eq
      tokens_eq := h.tokens_eq
      tokens_nodup := h.tokens_eq ▸ List.nodup_range'
      token_lt := ?_
      mem_pending_iff := fun token request => h.mem_pending_iff
      pending_nodup := h.pending_nodup
      pending_lt := fun token request => h.pending_lt
      answered_once := fun token request => h.answered_once
      answer_eq := ?_
      completion_issued := ?_
      answer_cause := h.answer_cause }
  · intro token htoken
    rw [h.tokens_eq, List.mem_range'_1] at htoken
    omega
  · intro token request completion hissued hfirst
    refine ⟨resultOf request.domain completion.answer, ?_, fun record => resultOf_eq_ok_iff,
      fun failure => eq_failed_of_resultOf⟩
    simp [h.answers_eq token request hissued, hfirst]
  · intro completion hmem
    obtain ⟨⟨token, request⟩, hissued, rfl⟩ :=
      List.mem_map.1 (h.handedOut_iff.1 (h.handled_handedOut completion hmem))
    exact ⟨request, hissued⟩

/-- A radio that fails every request while it is being asked, and says so twice. -/
def failingTwice : Radio where
  replies _ token := [⟨token, .error ⟨"busy"⟩⟩, ⟨token, .error ⟨"busy"⟩⟩]

/-- The first request is answered once although it was completed three times, the last time when the
second request was already made. That one is still pending. -/
theorem correlated_of_repeated_completions :
    ∃ log s, History (initial 0 1 failingTwice : SlotService Nat) log s ∧
      s.isClosed = false ∧ (acceptedRequests log).length < UInt64.size ∧
      asked log = [(.cs, 1), (.ps, 2)] ∧ answersTo 1 log = [(7, .error .failed)] ∧
      s.pending.map Prod.fst = [2] ∧ Correlated log s := by
  have htwice : ∀ domain token, ∀ completion ∈ failingTwice.replies domain token,
      completion.token = token := by
    intro domain token completion hmem
    simp only [failingTwice, List.mem_cons, List.not_mem_nil, or_false, or_self] at hmem
    rw [hmem]
  have hstart : History (initial 0 1 failingTwice : SlotService Nat) [] _ := .start
  have hhistory := hstart
    |>.act (.call (.request .cs 7)) trivial
    |>.act .turn (fun domain _ _ completion hmem => .inl (htwice domain _ completion hmem))
    |>.act .turn (fun domain _ _ completion hmem => .inl (htwice domain _ completion hmem))
    |>.act (.call (.requestCode 2 8)) trivial
    |>.act (.message (.completed ⟨1, .error ⟨"late"⟩⟩)) (List.mem_singleton.2 rfl : 1 ∈ [1])
    |>.act .turn (fun domain _ _ completion hmem => .inl (htwice domain _ completion hmem))
    |>.act .turn (fun domain _ _ completion hmem => .inl (htwice domain _ completion hmem))
    |>.act .turn (fun domain _ _ completion hmem => .inl (htwice domain _ completion hmem))
  exact ⟨_, _, hhistory, rfl, by decide, rfl, rfl, rfl, hhistory.correlated rfl (by decide)⟩

end CellularRegistration.SlotService
