import CellularRegistration.Slot.Service

namespace CellularRegistration.SlotService

variable {κ : Type}

/-- The request that a command carries, if it carries one. -/
def Command.request? : Command κ → Option (PendingRequest κ)
  | .request domain callback => some ⟨domain, callback⟩
  | _ => none

/-- The completion that a command carries, if it carries one. -/
def Command.completion? : Command κ → Option Completion
  | .message (.completed completion) => some completion
  | _ => none

/-- The command that a client's call is for. A request for an unknown domain is for none, and
neither is a close. -/
def Call.command? : Call κ → Option (Command κ)
  | .request domain callback => some (.request domain callback)
  | .requestCode code callback => (Domain.ofCode? code).map fun domain => .request domain callback
  | .addObserver observer => some (.addObserver observer)
  | .removeObserver observer => some (.removeObserver observer)
  | .configChanged => some .configChanged
  | .flush => some .flush
  | .close => none

/-- The domain and the token of an effect that asks the radio. -/
def Effect.asked? : Effect κ → Option (Domain × Nat)
  | .asked domain token => some (domain, token)
  | _ => none

/-- The callback and the result of an effect that answers a request. -/
def Effect.answered? : Effect κ → Option (κ × Except RequestFailure RegistrationRecord)
  | .answered callback result => some (callback, result)
  | _ => none

/-- An action on a service and what came of it. -/
structure Occurrence (κ : Type) where
  action : Action κ
  /-- The command that the worker handled, if it handled one. -/
  handled : Option (Command κ)
  reply : Reply
  effects : List (Effect κ)

namespace Occurrence

/-- The request that a client made and the service accepted. -/
def accepted? (o : Occurrence κ) : Option (PendingRequest κ) :=
  match o.action, o.reply with
  | .call call, .accepted (.ok _) => call.command?.bind Command.request?
  | _, _ => none

/-- The request that the worker handled. -/
def request? (o : Occurrence κ) : Option (PendingRequest κ) :=
  o.handled.bind Command.request?

/-- The completion that the worker handled. -/
def completion? (o : Occurrence κ) : Option Completion :=
  o.handled.bind Command.completion?

/-- What the radio was asked. -/
def asked (o : Occurrence κ) : List (Domain × Nat) :=
  o.effects.filterMap Effect.asked?

/-- What was answered to requests. -/
def answers (o : Occurrence κ) : List (κ × Except RequestFailure RegistrationRecord) :=
  o.effects.filterMap Effect.answered?

end Occurrence

/-- The requests that were accepted, in the order in which they were made. -/
def acceptedRequests (log : List (Occurrence κ)) : List (PendingRequest κ) :=
  log.filterMap Occurrence.accepted?

/-- The requests that the worker handled, in their order. -/
def handledRequests (log : List (Occurrence κ)) : List (PendingRequest κ) :=
  log.filterMap Occurrence.request?

/-- The completions that the worker handled, in their order. -/
def handledCompletions (log : List (Occurrence κ)) : List Completion :=
  log.filterMap Occurrence.completion?

/-- What the radio was asked, in order. -/
def asked (log : List (Occurrence κ)) : List (Domain × Nat) :=
  log.flatMap Occurrence.asked

/-- What the handling of the completions with a token made callbacks hear, in order. -/
def answersTo (token : Nat) (log : List (Occurrence κ)) :
    List (κ × Except RequestFailure RegistrationRecord) :=
  (log.filter fun o => o.completion?.any (·.token == token)).flatMap Occurrence.answers

/-- The handled requests with their numbers, counted from one. -/
def issued (log : List (Occurrence κ)) : List (Nat × PendingRequest κ) :=
  ((handledRequests log).zipIdx 1).map Prod.swap

/-- The command that an action has the worker handle, if it has it handle one. -/
def handledBy (s : SlotService κ) : Action κ → Option (Command κ)
  | .turn => if s.phase = .running then s.queue.head? else none
  | _ => none

/-- The radio was handed a reply with this token. -/
def HandedOut (log : List (Occurrence κ)) (token : Nat) : Prop :=
  token ∈ (asked log).map Prod.snd

/-- What the world may do. A completion is sent through a reply that the radio was handed, perhaps
just now. -/
def Permitted (log : List (Occurrence κ)) (s : SlotService κ) : Action κ → Prop
  | .message (.completed completion) => HandedOut log completion.token
  | .turn =>
    ∀ domain callback, s.handledBy .turn = some (.request domain callback) →
      ∀ completion ∈ s.radio.replies domain s.nextToken,
        completion.token = s.nextToken ∨ HandedOut log completion.token
  | _ => True

/-- A call without a command is a close or asks for an unknown domain. -/
theorem Call.command?_eq_none_iff {call : Call κ} :
    call.command? = none ↔ call = .close ∨
      ∃ code callback, call = .requestCode code callback ∧ Domain.ofCode? code = none := by
  cases call <;> simp [Call.command?]

theorem Call.completion?_of_command? {call : Call κ} {command : Command κ}
    (hcommand : call.command? = some command) : command.completion? = none := by
  cases call with
  | requestCode code callback =>
    obtain ⟨domain, _, rfl⟩ := Option.map_eq_some_iff.1 hcommand
    rfl
  | close => simp [Call.command?] at hcommand
  | _ =>
    obtain rfl := Option.some.inj hcommand
    rfl

theorem phase_eq_running {s : SlotService κ} (hopen : s.isClosed = false) : s.phase = .running := by
  simpa [isClosed] using hopen

theorem isClosed_accept {s : SlotService κ} (command : Command κ) :
    (s.accept command).1.isClosed = s.isClosed := by
  unfold accept
  split <;> rfl

theorem isClosed_beginClose (s : SlotService κ) : s.beginClose.1.isClosed = true := by
  unfold beginClose
  split <;> first | assumption | rfl

variable [DecidableEq κ]

/-- What comes of an action. -/
def occurrence (s : SlotService κ) (action : Action κ) : Occurrence κ :=
  ⟨action, s.handledBy action, (s.act action).2.1, (s.act action).2.2⟩

/-- What can have happened to a service since its start, and what has become of it. The world around
it is free in what it does and when, but for what has to be permitted. -/
inductive History (start : SlotService κ) : List (Occurrence κ) → SlotService κ → Prop where
  | start : History start [] start
  | act {log : List (Occurrence κ)} {s : SlotService κ} (action : Action κ)
      (before : History start log s) (permitted : Permitted log s action) :
      History start (log ++ [s.occurrence action]) (s.act action).1

theorem call_of_command? {s : SlotService κ} {call : Call κ} {command : Command κ}
    (hcommand : call.command? = some command) :
    s.call call = ((s.accept command).1, (s.accept command).2, []) := by
  cases call with
  | requestCode code callback =>
    obtain ⟨domain, hdomain, rfl⟩ := Option.map_eq_some_iff.1 hcommand
    simp [SlotService.call, Domain.ofCode, hdomain]
  | close => simp [Call.command?] at hcommand
  | _ =>
    obtain rfl := Option.some.inj hcommand
    rfl

/-- An unknown domain is found out before anything else. -/
theorem call_of_unknown (s : SlotService κ) {code : Int32} (callback : κ)
    (hcode : Domain.ofCode? code = none) :
    s.call (.requestCode code callback) = (s, .error (.invalidDomain code),
      [.answered callback (.error .invalidArgument)]) := by
  simp [SlotService.call, Domain.ofCode, hcode]

/-- All that a client's call can do: pass on its command, close the service, or be refused for its
number. -/
theorem act_call_cases (s : SlotService κ) (call : Call κ) :
    (∃ command, call.command? = some command ∧
      s.act (.call call) = ((s.accept command).1, .accepted (s.accept command).2, [])) ∨
    (call = .close ∧ s.act (.call call) =
      (s.beginClose.1.turn.1, .accepted (.ok ()), s.beginClose.2 ++ s.beginClose.1.turn.2)) ∨
    ∃ code callback, call = .requestCode code callback ∧ Domain.ofCode? code = none ∧
      s.act (.call call) = (s, .accepted (.error (.invalidDomain code)),
        [.answered callback (.error .invalidArgument)]) := by
  cases hcommand : call.command? with
  | some command => exact .inl ⟨command, rfl, by rw [act, call_of_command? hcommand]⟩
  | none =>
    obtain rfl | ⟨code, callback, rfl, hcode⟩ := Call.command?_eq_none_iff.1 hcommand
    · exact .inr (.inl ⟨rfl, rfl⟩)
    · exact .inr (.inr ⟨code, callback, rfl, hcode, by rw [act, call_of_unknown s callback hcode]⟩)

theorem isClosed_turn {s : SlotService κ} (hclosed : s.isClosed = true) :
    s.turn.1.isClosed = true := by
  cases hs : s.phase <;> simp_all [turn, stop, isClosed]

/-- A closed service stays closed. -/
theorem isClosed_act {s : SlotService κ} (hclosed : s.isClosed = true) (action : Action κ) :
    (s.act action).1.isClosed = true := by
  cases action with
  | call call =>
    obtain ⟨command, -, hact⟩ | ⟨-, hact⟩ | ⟨_, _, -, -, hact⟩ := act_call_cases s call <;> rw [hact]
    · exact (isClosed_accept command).trans hclosed
    · exact isClosed_turn (isClosed_beginClose s)
    · exact hclosed
  | message message =>
    simp only [act, deliver]
    split <;> exact hclosed
  | replaceRadio radio => exact hclosed
  | beginClose => exact isClosed_beginClose s
  | turn => exact isClosed_turn hclosed

theorem isClosed_eq_false_of_act {s : SlotService κ} {action : Action κ}
    (hopen : (s.act action).1.isClosed = false) : s.isClosed = false := by
  cases hclosed : s.isClosed with
  | false => rfl
  | true =>
    rw [isClosed_act hclosed action] at hopen
    exact hopen

/-- An action that only puts commands at the end of the queue. A request among them was accepted
with this action, and a completion was sent with it. -/
structure Posts (s : SlotService κ) (action : Action κ) (commands : List (Command κ)) : Prop where
  state_eq : ∃ radio, (s.act action).1 = { s with queue := s.queue ++ commands, radio }
  handled_eq : (s.occurrence action).handled = none
  asked_eq : (s.occurrence action).asked = []
  requests_eq : commands.filterMap Command.request? = (s.occurrence action).accepted?.toList
  sent_of_mem : ∀ completion ∈ commands.filterMap Command.completion?,
    action = .message (.completed completion)
  code_of_answer : ∀ answer ∈ (s.occurrence action).answers,
    ∃ code, action = .call (.requestCode code answer.1) ∧ Domain.ofCode? code = none

theorem posts_command {s : SlotService κ} (hopen : s.isClosed = false) {call : Call κ}
    {command : Command κ} (hcommand : call.command? = some command) :
    Posts s (.call call) [command] := by
  have hcompletion := Call.completion?_of_command? hcommand
  have hact : s.act (.call call) = (s.enqueue command, .accepted (.ok ()), []) := by
    simp [act, call_of_command? hcommand, accept, hopen]
  have hrequest : [command].filterMap Command.request? = command.request?.toList := by
    cases h : command.request? <;> simp [h]
  have hstate : (s.act (.call call)).1 = { s with queue := s.queue ++ [command] } := by
    rw [hact]
    rfl
  refine ⟨⟨s.radio, hstate⟩, rfl, ?_, ?_, ?_, ?_⟩ <;>
    simp [hact, occurrence, Occurrence.asked, Occurrence.accepted?, Occurrence.answers, hcommand,
      hrequest, hcompletion]

/-- On an open service, everything but a turn of the worker and a close only puts commands at the
end of the queue. -/
theorem posts_of_open {s : SlotService κ} {action : Action κ} (hturn : action ≠ .turn)
    (hopen : (s.act action).1.isClosed = false) : ∃ commands, Posts s action commands := by
  have hbefore : s.isClosed = false := isClosed_eq_false_of_act hopen
  cases action with
  | call call =>
    obtain ⟨command, hcommand, -⟩ | ⟨rfl, hact⟩ | ⟨code, callback, rfl, hcode, hact⟩ :=
      act_call_cases s call
    · exact ⟨[command], posts_command hbefore hcommand⟩
    · rw [hact] at hopen
      exact absurd (hopen.symm.trans (isClosed_turn (isClosed_beginClose s))) Bool.false_ne_true
    · refine ⟨[], ⟨s.radio, ?_⟩, rfl, ?_, ?_, ?_, ?_⟩ <;>
        simp [hact, hcode, occurrence, Occurrence.asked, Occurrence.accepted?, Occurrence.answers,
          Effect.asked?, Effect.answered?]
  | message message =>
    have hphase : s.phase ≠ .stopped := by
      intro hstopped
      simp [isClosed, hstopped] at hbefore
    refine ⟨[.message message], ⟨s.radio, ?_⟩, rfl, ?_, ?_, ?_, ?_⟩ <;> cases message <;>
      simp [act, deliver, hphase, enqueue, occurrence, Occurrence.asked, Occurrence.accepted?,
        Occurrence.answers, Command.request?, Command.completion?]
  | replaceRadio radio =>
    refine ⟨[], ⟨radio, ?_⟩, rfl, ?_, ?_, ?_, ?_⟩ <;>
      simp [act, occurrence, Occurrence.asked, Occurrence.accepted?, Occurrence.answers]
  | beginClose => exact absurd (hopen.symm.trans (isClosed_beginClose s)) Bool.false_ne_true
  | turn => exact absurd rfl hturn

end CellularRegistration.SlotService
