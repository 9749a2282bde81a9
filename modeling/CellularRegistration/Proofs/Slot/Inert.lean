import CellularRegistration.Proofs.Slot.Closing
import CellularRegistration.Slot.Device

namespace CellularRegistration

open SlotService

variable {κ : Type} [DecidableEq κ]

namespace SlotService

/-- A call that asks for a domain by a number that is none. -/
def Call.AsksUnknown (call : Call κ) : Prop :=
  ∃ code callback, call = .requestCode code callback ∧ Domain.ofCode? code = none

/-- What a closed service should answer to a call: another close is fine, all else fails. -/
def Call.closedAnswer (slot : Nat) : Call κ → Except RegistrationError Unit
  | .close => .ok ()
  | _ => .error (.serviceClosed slot)

omit [DecidableEq κ] in
theorem Call.closedAnswer_of_command? {call : Call κ} {command : Command κ}
    (hcommand : call.command? = some command) (slot : Nat) :
    call.closedAnswer slot = .error (.serviceClosed slot) := by
  cases call with
  | close => cases hcommand
  | _ => rfl

variable {s : SlotService κ}

/-- A close returns when the worker has ended, whether the service was open or not. -/
theorem phase_act_close (s : SlotService κ) : (s.act (.call .close)).1.phase = .stopped := by
  cases hclosed : s.isClosed with
  | false => exact (act_of_closes hclosed (.inr rfl)).2.2.2.2 (.inr rfl)
  | true => exact (phase_act_of_closed hclosed _).2 (.inr (.inr rfl))

theorem act_call_of_stopped (hstopped : s.phase = .stopped) {call : Call κ}
    (hknown : ¬ call.AsksUnknown) :
    s.act (.call call) = (s, .accepted (call.closedAnswer s.slot), []) := by
  have hclosed := isClosed_of_stopped hstopped
  obtain ⟨command, hcommand, hact⟩ | ⟨rfl, hact⟩ | ⟨code, callback, hcall, hcode, -⟩ :=
    act_call_cases s call
  · rw [hact, accept_of_closed hclosed, Call.closedAnswer_of_command? hcommand]
  · rw [hact, beginClose_of_closed hclosed, turn_of_closed hclosed, if_pos hstopped]
    rfl
  · exact absurd ⟨code, callback, hcall, hcode⟩ hknown

end SlotService

namespace Device

/-- What becomes of a device by some operations, one after the other. -/
def performAll (d : Device κ) (operations : List (Operation κ)) : Device κ :=
  operations.foldl (fun d operation => (d.perform operation).1) d

/-- The service at an index is that of a slot, and its worker has ended. -/
def StoppedAt (d : Device κ) (index slot : Nat) : Prop :=
  ∃ s, d.services[index]? = some s ∧ s.slot = slot ∧ s.phase = .stopped

/-- A client's call of a service does nothing: the device, and with it the family table, stays as it
is, nobody hears of the call, and the answer is that of a closed service. -/
structure Inert (d : Device κ) (index slot : Nat) (call : Call κ) : Prop where
  device_eq : (d.perform (.act index (.call call))).1 = d
  effects_eq : (d.perform (.act index (.call call))).2.2 = []
  reply_eq : (d.perform (.act index (.call call))).2.1 =
    .service (.accepted (call.closedAnswer slot))

variable {d : Device κ} {index slot : Nat} {s : SlotService κ}

theorem perform_act (hservice : d.services[index]? = some s) (action : Action κ) :
    d.perform (.act index action) =
      ({ d.applyAll (s.act action).2.2 with services := d.services.set index (s.act action).1 },
        .service (s.act action).2.1, (s.act action).2.2) := by
  simp only [perform, Device.act, hservice]

/-- An action that leaves its service as it is, and whose effects are none of the device's, leaves
the device as it is. -/
theorem perform_act_of_unchanged (hservice : d.services[index]? = some s) {action : Action κ}
    {reply : SlotService.Reply} {effects : List (Effect κ)}
    (hact : s.act action = (s, reply, effects)) (heffects : d.applyAll effects = d) :
    d.perform (.act index action) = (d, .service reply, effects) := by
  obtain ⟨hindex, hget⟩ := List.getElem?_eq_some_iff.1 hservice
  have hset : d.services.set index s = d.services := by
    rw [← hget, List.set_getElem_self]
  rw [perform_act hservice, hact, heffects, hset]

/-- Only a start and an action touch the services: a start adds one behind those that are there, and
an action changes the one that it acts on. -/
theorem services_perform_cases (d : Device κ) (operation : Operation κ) :
    (∃ slot subId radio, operation = .spawn slot subId radio ∧
      (d.perform operation).1.services = d.services ++ [.initial slot subId radio]) ∨
    (∃ index action s, operation = .act index action ∧ d.services[index]? = some s ∧
      (d.perform operation).1.services = d.services.set index (s.act action).1) ∨
    (∀ slot subId radio, operation ≠ .spawn slot subId radio) ∧
      (d.perform operation).1.services = d.services := by
  cases operation with
  | spawn slot subId radio => exact .inl ⟨slot, subId, radio, rfl, rfl⟩
  | act index action =>
    cases hservice : d.services[index]? with
    | none => exact .inr (.inr ⟨by simp, by simp only [perform, Device.act, hservice]⟩)
    | some s => exact .inr (.inl ⟨index, action, s, rfl, hservice, by rw [perform_act hservice]⟩)
  | insertToml subId text =>
    refine .inr (.inr ⟨by simp, ?_⟩)
    simp only [perform]
    split <;> rfl
  | reloadFamilies subId =>
    refine .inr (.inr ⟨by simp, ?_⟩)
    simp only [perform]
    split <;> rfl
  | _ => exact .inr (.inr ⟨by simp, rfl⟩)

theorem stoppedAt_close (hservice : d.services[index]? = some s) :
    (d.perform (.act index (.call .close))).1.StoppedAt index s.slot := by
  obtain ⟨hindex, -⟩ := List.getElem?_eq_some_iff.1 hservice
  refine ⟨_, ?_, slot_act s (.call .close), phase_act_close s⟩
  rw [perform_act hservice]
  exact List.getElem?_set_self hindex

/-- No operation takes a service away, moves it to another slot or makes its worker run again. -/
theorem StoppedAt.perform (h : d.StoppedAt index slot) (operation : Operation κ) :
    (d.perform operation).1.StoppedAt index slot := by
  have ⟨s, hservice, hslot, hstopped⟩ := h
  obtain ⟨hindex, -⟩ := List.getElem?_eq_some_iff.1 hservice
  obtain ⟨newSlot, subId, radio, -, hservices⟩ | ⟨other, action, t, -, hother, hservices⟩ |
    ⟨-, hservices⟩ := d.services_perform_cases operation
  · refine ⟨s, ?_, hslot, hstopped⟩
    rw [hservices, List.getElem?_append_left hindex, hservice]
  · by_cases hsame : other = index
    · subst hsame
      obtain rfl : s = t := Option.some.inj (hservice.symm.trans hother)
      refine ⟨(s.act action).1, ?_, (slot_act s action).trans hslot, ?_⟩
      · rw [hservices, List.getElem?_set_self hindex]
      · exact (phase_act_of_closed (isClosed_of_stopped hstopped) action).2 (.inl hstopped)
    · refine ⟨s, ?_, hslot, hstopped⟩
      rw [hservices, List.getElem?_set_ne hsame, hservice]
  · exact ⟨s, hservices ▸ hservice, hslot, hstopped⟩

theorem StoppedAt.performAll (h : d.StoppedAt index slot) (operations : List (Operation κ)) :
    (d.performAll operations).StoppedAt index slot := by
  induction operations generalizing d with
  | nil => exact h
  | cons operation operations ih => exact ih (h.perform operation)

theorem StoppedAt.inert (h : d.StoppedAt index slot) {call : Call κ}
    (hknown : ¬ call.AsksUnknown) : d.Inert index slot call := by
  obtain ⟨s, hservice, rfl, hstopped⟩ := h
  have hperform := perform_act_of_unchanged hservice (act_call_of_stopped hstopped hknown) rfl
  exact ⟨by rw [hperform], by rw [hperform], by rw [hperform]⟩

/-- An open service and a closed one refuse an unknown domain alike. -/
theorem perform_unknown (hservice : d.services[index]? = some s) {code : Int32} (callback : κ)
    (hcode : Domain.ofCode? code = none) :
    d.perform (.act index (.call (.requestCode code callback))) =
      (d, .service (.accepted (.error (.invalidDomain code))),
        [.answered callback (.error .invalidArgument)]) := by
  apply perform_act_of_unchanged hservice _ rfl
  rw [SlotService.act, call_of_unknown s callback hcode]

/-- After a close has returned, whatever has been done to the device since, a client's call of the
service does nothing exactly if it does not ask for an unknown domain. One that does has its
callback called, and its answer does not say that the service is closed. -/
theorem inert_after_close_iff (hservice : d.services[index]? = some s)
    (later : List (Operation κ)) (call : Call κ) :
    let closed := d.performAll (.act index (.call .close) :: later)
    (closed.Inert index s.slot call ↔ ¬ call.AsksUnknown) ∧
      ∀ code callback, Domain.ofCode? code = none →
        closed.perform (.act index (.call (.requestCode code callback))) =
          (closed, .service (.accepted (.error (.invalidDomain code))),
            [.answered callback (.error .invalidArgument)]) := by
  intro closed
  have hstopped : closed.StoppedAt index s.slot := (stoppedAt_close hservice).performAll later
  have hunknown : ∀ code callback, Domain.ofCode? code = none →
      closed.perform (.act index (.call (.requestCode code callback))) =
        (closed, .service (.accepted (.error (.invalidDomain code))),
          [.answered callback (.error .invalidArgument)]) := by
    obtain ⟨now, hnow, -⟩ := hstopped
    exact fun code callback hcode => perform_unknown hnow callback hcode
  refine ⟨⟨?_, hstopped.inert⟩, hunknown⟩
  rintro hinert ⟨code, callback, rfl, hcode⟩
  have heffects := hinert.effects_eq
  rw [hunknown code callback hcode] at heffects
  cases heffects

/-- A service with an observer and a request in its queue is closed; the radio, the worker and
another service go on. The number of a known domain is then refused as the service is closed. -/
theorem known_code_inert_after_close :
    let d := (initial .initial : Device Nat).performAll
      [.spawn 4 1 .silent, .spawn 5 2 .silent, .act 0 (.call (.addObserver 9)),
        .act 0 (.call (.request .cs 7))]
    let closed := d.performAll
      [.act 0 (.call .close), .act 0 (.message .stateChanged), .act 0 .turn,
        .act 1 (.call (.request .ps 8)), .act 1 .turn, .rebuildFamilies ["14, 3"]]
    (∃ s, d.services[0]? = some s ∧ s.slot = 4 ∧ s.queue.length = 2) ∧
      ¬ (Call.requestCode 2 6 : Call Nat).AsksUnknown ∧
      closed.Inert 0 4 (.requestCode 2 6) := by
  intro d closed
  have hservice : d.services[0]? =
      some { SlotService.initial 4 1 .silent with queue := [.addObserver 9, .request .cs 7] } := rfl
  have hknown : ¬ (Call.requestCode 2 6 : Call Nat).AsksUnknown := by
    rintro ⟨code, callback, hcall, hcode⟩
    cases hcall
    exact absurd hcode (by decide)
  refine ⟨⟨_, hservice, rfl, rfl⟩, hknown, ?_⟩
  exact (inert_after_close_iff hservice _ _).1.2 hknown

/-- A number that is no domain's reaches the client's callback after the close. -/
theorem unknown_code_heard_after_close :
    let closed := (initial .initial : Device Nat).performAll
      [.spawn 0 1 .silent, .act 0 (.call .close)]
    (closed.perform (.act 0 (.call (.requestCode 7 5)))).2 =
        (.service (.accepted (.error (.invalidDomain 7))),
          [.answered 5 (.error .invalidArgument)]) ∧
      ¬ closed.Inert 0 0 (.requestCode 7 5) := by
  intro closed
  have hheard : (closed.perform (.act 0 (.call (.requestCode 7 5)))).2 =
      (.service (.accepted (.error (.invalidDomain 7))),
        [.answered 5 (.error .invalidArgument)]) := rfl
  refine ⟨hheard, fun hinert => ?_⟩
  have heffects := hinert.effects_eq
  rw [hheard] at heffects
  cases heffects

end Device

end CellularRegistration
