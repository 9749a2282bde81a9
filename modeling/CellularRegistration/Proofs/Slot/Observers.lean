import CellularRegistration.Proofs.Slot.Closing
import Mathlib.Data.List.Induction
import Mathlib.Data.List.Nodup

namespace CellularRegistration.SlotService

variable {κ : Type}

/-- The observer that a command adds or removes, if it does either. -/
def Command.observer? : Command κ → Option κ
  | .addObserver observer => some observer
  | .removeObserver observer => some observer
  | _ => none

/-- The commands that the worker handled, in their order. -/
def handledCommands (log : List (Occurrence κ)) : List (Command κ) :=
  log.filterMap Occurrence.handled

/-- An observer joined with the command at a position: with the first that adds it after its last
removal, or with the first of all if it was never removed. -/
structure JoinedAt (commands : List (Command κ)) (observer : κ) (i : Nat) : Prop where
  added : commands[i]? = some (.addObserver observer)
  stayed : ∀ j, i < j → commands[j]? ≠ some (.removeObserver observer)
  first : ∀ k, k < i → commands[k]? = some (.addObserver observer) →
    ∃ j, k < j ∧ j < i ∧ commands[j]? = some (.removeObserver observer)

/-- One observer joined before another. -/
def JoinedBefore (commands : List (Command κ)) (earlier later : κ) : Prop :=
  ∃ i j, JoinedAt commands earlier i ∧ JoinedAt commands later j ∧ i < j

section Positions

variable {commands : List (Command κ)} {command : Command κ} {observer : κ} {i j : Nat}

theorem getElem?_snoc_of_ne {wanted : Command κ} (hne : command ≠ wanted) :
    (commands ++ [command])[j]? = some wanted ↔ commands[j]? = some wanted := by
  rw [List.getElem?_append]
  split
  · rfl
  · next hlength =>
    have hnone : commands[j]? = none := List.getElem?_eq_none (by omega)
    rw [hnone, List.getElem?_singleton]
    split <;> simp [hne]

theorem lt_length_of_getElem? (h : commands[i]? = some command) : i < commands.length :=
  (List.getElem?_eq_some_iff.1 h).1

theorem JoinedAt.le (hi : JoinedAt commands observer i) (hj : JoinedAt commands observer j) :
    i ≤ j := by
  by_contra hlt
  obtain ⟨k, hjk, -, hremoved⟩ := hi.first j (by omega) hj.added
  exact hj.stayed k hjk hremoved

/-- An observer joins only once after its last removal. -/
theorem JoinedAt.eq (hi : JoinedAt commands observer i) (hj : JoinedAt commands observer j) :
    i = j :=
  Nat.le_antisymm (hi.le hj) (hj.le hi)

/-- A command that does not remove an observer leaves it where it is. -/
theorem JoinedAt.snoc (h : JoinedAt commands observer i) (hkept : command ≠ .removeObserver observer) :
    JoinedAt (commands ++ [command]) observer i where
  added := by rw [List.getElem?_append_left (lt_length_of_getElem? h.added), h.added]
  stayed j hij hremoved := h.stayed j hij ((getElem?_snoc_of_ne hkept).1 hremoved)
  first k hki hadded := by
    have hlength := lt_length_of_getElem? h.added
    rw [List.getElem?_append_left (by omega)] at hadded
    obtain ⟨j, hkj, hji, hremoved⟩ := h.first k hki hadded
    exact ⟨j, hkj, hji, (getElem?_snoc_of_ne hkept).2 hremoved⟩

theorem pairwise_joinedBefore_snoc {observers : List κ}
    (h : observers.Pairwise (JoinedBefore commands))
    (hkept : ∀ observer ∈ observers, command ≠ .removeObserver observer) :
    observers.Pairwise (JoinedBefore (commands ++ [command])) := by
  refine h.imp_of_mem ?_
  rintro a b ha hb ⟨i, j, hi, hj, hlt⟩
  exact ⟨i, j, hi.snoc (hkept a ha), hj.snoc (hkept b hb), hlt⟩

end Positions

variable [DecidableEq κ]

/-- The last of some commands that adds or removes an observer. -/
def latestAbout (observer : κ) (commands : List (Command κ)) : Option (Command κ) :=
  (commands.filter fun command => command.observer? = some observer).getLast?

/-- Those who are to hear of changes after some commands, in the order in which they are told. -/
structure IsRoster (commands : List (Command κ)) (observers : List κ) : Prop where
  nodup : observers.Nodup
  mem_iff : ∀ observer, observer ∈ observers ↔
    latestAbout observer commands = some (.addObserver observer)
  ordered : observers.Pairwise (JoinedBefore commands)

section Latest

variable {commands : List (Command κ)} {command : Command κ} {observer : κ}

theorem latestAbout_snoc :
    latestAbout observer (commands ++ [command]) =
      if command.observer? = some observer then some command
      else latestAbout observer commands := by
  by_cases h : command.observer? = some observer <;>
    simp [latestAbout, List.filter_append, h]

/-- An observer that is not to be told has been removed since each time that it was added. -/
theorem exists_removal_of_latestAbout_ne {k : Nat}
    (hlatest : latestAbout observer commands ≠ some (.addObserver observer))
    (hadded : commands[k]? = some (.addObserver observer)) :
    ∃ j, k < j ∧ commands[j]? = some (.removeObserver observer) := by
  induction commands using List.reverseRecOn with
  | nil => simp at hadded
  | append_singleton commands command ih =>
    have hne : command ≠ .addObserver observer := by
      rintro rfl
      simp [latestAbout_snoc, Command.observer?] at hlatest
    rw [getElem?_snoc_of_ne hne] at hadded
    -- The last command removes the observer, or is about none or another one.
    by_cases hremove : command = .removeObserver observer
    · subst hremove
      exact ⟨commands.length, lt_length_of_getElem? hadded, List.getElem?_concat_length⟩
    · have hother : command.observer? ≠ some observer := by
        cases command <;> simp_all [Command.observer?]
      rw [latestAbout_snoc, if_neg hother] at hlatest
      obtain ⟨j, hkj, hremoved⟩ := ih hlatest hadded
      exact ⟨j, hkj, (getElem?_snoc_of_ne hremove).2 hremoved⟩

/-- Whoever is not to be told joins when it is added. -/
theorem joinedAt_length (hlatest : latestAbout observer commands ≠ some (.addObserver observer)) :
    JoinedAt (commands ++ [.addObserver observer]) observer commands.length where
  added := List.getElem?_concat_length
  stayed j hlt hremoved := by
    have hlength := lt_length_of_getElem? hremoved
    rw [List.length_append, List.length_singleton] at hlength
    omega
  first k hlt hadded := by
    rw [List.getElem?_append_left hlt] at hadded
    obtain ⟨j, hkj, hremoved⟩ := exists_removal_of_latestAbout_ne hlatest hadded
    have hlength := lt_length_of_getElem? hremoved
    exact ⟨j, hkj, hlength, by rw [List.getElem?_append_left hlength, hremoved]⟩

/-- Whoever is to be told has joined at some time. -/
theorem exists_joinedAt (hlatest : latestAbout observer commands = some (.addObserver observer)) :
    ∃ i, JoinedAt commands observer i := by
  induction commands using List.reverseRecOn with
  | nil => simp [latestAbout] at hlatest
  | append_singleton commands command ih =>
    by_cases hbefore : latestAbout observer commands = some (.addObserver observer)
    · obtain ⟨i, hi⟩ := ih hbefore
      refine ⟨i, hi.snoc ?_⟩
      rintro rfl
      simp [latestAbout_snoc, Command.observer?] at hlatest
    · have hadd : command = .addObserver observer := by
        rw [latestAbout_snoc] at hlatest
        split at hlatest
        · exact Option.some.inj hlatest
        · exact absurd hlatest hbefore
      subst hadd
      exact ⟨commands.length, joinedAt_length hbefore⟩

end Latest

namespace IsRoster

variable {commands : List (Command κ)} {observers : List κ}

/-- The commands leave no choice of whom to tell, nor of the order. -/
theorem eq {other : List κ} (h : IsRoster commands observers) (hother : IsRoster commands other) :
    observers = other := by
  have hperm : observers.Perm other := by
    rw [List.perm_ext_iff_of_nodup h.nodup hother.nodup]
    intro observer
    rw [h.mem_iff, hother.mem_iff]
  refine hperm.eq_of_pairwise ?_ h.ordered hother.ordered
  rintro a b - - ⟨i, j, hi, hj, hlt⟩ ⟨j', i', hj', hi', hgt⟩
  rw [hi.eq hi', hj.eq hj'] at hlt
  omega

theorem nil : IsRoster ([] : List (Command κ)) [] where
  nodup := List.nodup_nil
  mem_iff := by simp [latestAbout]
  ordered := List.Pairwise.nil

theorem of_other (h : IsRoster commands observers) {command : Command κ}
    (hother : command.observer? = none) : IsRoster (commands ++ [command]) observers where
  nodup := h.nodup
  mem_iff observer := by rw [latestAbout_snoc, hother, if_neg (by simp), h.mem_iff]
  ordered := by
    refine pairwise_joinedBefore_snoc h.ordered ?_
    rintro observer - rfl
    cases hother

theorem add_again (h : IsRoster commands observers) {observer : κ} (hmem : observer ∈ observers) :
    IsRoster (commands ++ [.addObserver observer]) observers where
  nodup := h.nodup
  mem_iff other := by
    rw [latestAbout_snoc, h.mem_iff]
    split
    next heq =>
      obtain rfl := Option.some.inj heq
      simpa using (h.mem_iff observer).1 hmem
    next => rfl
  ordered := pairwise_joinedBefore_snoc h.ordered (by simp)

theorem add (h : IsRoster commands observers) {observer : κ} (hnew : observer ∉ observers) :
    IsRoster (commands ++ [.addObserver observer]) (observers ++ [observer]) where
  nodup := by simpa only [List.concat_eq_append] using List.Nodup.concat hnew h.nodup
  mem_iff other := by
    rw [latestAbout_snoc, List.mem_append, List.mem_singleton, h.mem_iff]
    by_cases heq : other = observer
    · simp [heq, Command.observer?]
    · simp [heq, Ne.symm heq, Command.observer?]
  ordered := by
    have hjoins := joinedAt_length fun hlatest => hnew ((h.mem_iff observer).2 hlatest)
    refine List.pairwise_append.2 ⟨pairwise_joinedBefore_snoc h.ordered (by simp),
      List.pairwise_singleton _ _, ?_⟩
    -- Whoever is listed already joined with one of the commands before this one.
    intro other hmem new hsingle
    obtain rfl := List.mem_singleton.1 hsingle
    obtain ⟨i, hi⟩ := exists_joinedAt ((h.mem_iff other).1 hmem)
    exact ⟨i, commands.length, hi.snoc (by simp), hjoins, lt_length_of_getElem? hi.added⟩

theorem remove (h : IsRoster commands observers) (observer : κ) :
    IsRoster (commands ++ [.removeObserver observer]) (observers.filter (· ≠ observer)) where
  nodup := h.nodup.filter _
  mem_iff other := by
    rw [latestAbout_snoc, List.mem_filter, h.mem_iff]
    by_cases heq : other = observer
    · simp [heq, Command.observer?]
    · simp [heq, Ne.symm heq, Command.observer?]
  ordered := by
    refine pairwise_joinedBefore_snoc (h.ordered.filter _) ?_
    rintro other hmem heq
    obtain rfl := Command.removeObserver.inj heq
    simp at hmem

end IsRoster

section Actions

variable (s : SlotService κ)

theorem phase_handle (command : Command κ) : (s.handle command).1.phase = s.phase := by
  cases command with
  | message message =>
    cases message with
    | completed completion => rw [handle, s.complete_fst completion]
    | stateChanged => rfl
  | addObserver observer =>
    simp only [handle]
    split <;> rfl
  | _ => rfl

theorem observers_handle {command : Command κ} (hother : command.observer? = none) :
    (s.handle command).1.observers = s.observers := by
  cases command with
  | message message =>
    cases message with
    | completed completion => rw [handle, s.complete_fst completion]
    | stateChanged => rfl
  | addObserver observer => cases hother
  | removeObserver observer => cases hother
  | _ => rfl

theorem notified_not_mem_handle {command : Command κ} (hother : command ≠ .message .stateChanged)
    (observer : κ) : .notified observer ∉ (s.handle command).2 := by
  cases command with
  | message message =>
    cases message with
    | completed completion =>
      simp only [handle, complete]
      split <;> simp
    | stateChanged => exact absurd rfl hother
  | _ => simp [handle, issue]

/-- All that an action can do to the observers: it has a command handled, or notifies nobody and
either leaves them or ends the worker. -/
theorem act_cases (action : Action κ) :
    (∃ command queue, s.handledBy action = some command ∧ s.phase = .running ∧
      s.act action = (({ s with queue }.handle command).1, .nothing,
        ({ s with queue }.handle command).2)) ∨
    (s.handledBy action = none ∧ (∀ observer, .notified observer ∉ (s.act action).2.2) ∧
      ((s.act action).1.observers = s.observers ∧
          ((s.act action).1.phase = .stopped ↔ s.phase = .stopped) ∨
        (s.act action).1.observers = [] ∧ (s.act action).1.phase = .stopped)) := by
  cases action with
  | call call =>
    refine .inr ⟨rfl, ?_⟩
    obtain ⟨command, -, hact⟩ | ⟨-, hact⟩ | ⟨code, callback, -, -, hact⟩ := act_call_cases s call <;>
      rw [hact]
    · have haccept : (s.accept command).1.observers = s.observers ∧
          (s.accept command).1.phase = s.phase := by
        unfold accept
        split <;> exact ⟨rfl, rfl⟩
      exact ⟨by simp, .inl ⟨haccept.1, by rw [haccept.2]⟩⟩
    · cases hphase : s.phase <;> simp [beginClose, isClosed, turn, stop, hphase]
    · simp
  | message message =>
    refine .inr ⟨rfl, by simp [act], .inl ?_⟩
    simp only [act, deliver]
    split <;> exact ⟨rfl, Iff.rfl⟩
  | replaceRadio radio => exact .inr ⟨rfl, by simp [act], .inl ⟨rfl, Iff.rfl⟩⟩
  | beginClose =>
    refine .inr ⟨rfl, ?_⟩
    cases hphase : s.phase <;> simp [act, beginClose, isClosed, hphase]
  | turn =>
    cases hphase : s.phase with
    | running =>
      cases hqueue : s.queue with
      | nil => simp [handledBy, act, turn, hphase, hqueue]
      | cons command queue =>
        exact .inl ⟨command, queue, by simp [handledBy, hphase, hqueue], rfl,
          by simp [act, turn, hphase, hqueue]⟩
    | closing => simp [handledBy, act, turn, stop, hphase]
    | stopped => simp [handledBy, act, turn, hphase]

end Actions

theorem IsRoster.handle {s : SlotService κ} {commands : List (Command κ)}
    (h : IsRoster commands s.observers) (command : Command κ) :
    IsRoster (commands ++ [command]) (s.handle command).1.observers := by
  cases command with
  | addObserver observer =>
    simp only [SlotService.handle]
    split
    next hmem => exact h.add_again hmem
    next hnew => exact h.add hnew
  | removeObserver observer => exact h.remove observer
  | _ =>
    rw [s.observers_handle rfl]
    exact h.of_other rfl

/-- How the observers of a service follow the commands that it has handled. -/
structure Follows (commands : List (Command κ)) (s : SlotService κ) : Prop where
  isRoster : s.phase ≠ .stopped → IsRoster commands s.observers
  nobody : s.phase = .stopped → s.observers = []

namespace Follows

variable {commands : List (Command κ)} {s : SlotService κ}

theorem initial (slot : Nat) (subId : Int32) (radio : Radio) :
    Follows [] (SlotService.initial slot subId radio : SlotService κ) where
  isRoster _ := .nil
  nobody hstopped := by cases hstopped

theorem nodup (h : Follows commands s) : s.observers.Nodup := by
  by_cases hstopped : s.phase = .stopped
  · rw [h.nobody hstopped]
    exact List.nodup_nil
  · exact (h.isRoster hstopped).nodup

theorem act (h : Follows commands s) (action : Action κ) :
    Follows (commands ++ (s.handledBy action).toList) (s.act action).1 := by
  obtain ⟨command, queue, hhandled, hphase, hact⟩ |
      ⟨hhandled, -, ⟨hobservers, hphase⟩ | ⟨hobservers, hphase⟩⟩ := s.act_cases action
  · have hrunning : ({ s with queue }.handle command).1.phase = .running :=
      (phase_handle _ command).trans hphase
    rw [hhandled, hact]
    refine ⟨fun _ => ?_, fun hstopped => ?_⟩
    · exact IsRoster.handle (s := { s with queue }) (h.isRoster (by simp [hphase])) command
    · rw [hrunning] at hstopped
      cases hstopped
  · rw [hhandled, Option.toList_none, List.append_nil]
    exact ⟨fun hlive => hobservers ▸ h.isRoster (mt hphase.2 hlive),
      fun hstopped => hobservers.trans (h.nobody (hphase.1 hstopped))⟩
  · exact ⟨fun hlive => absurd hphase hlive, fun _ => hobservers⟩

/-- The observers follow the commands through any actions. -/
theorem actAll (h : Follows commands s) (actions : List (Action κ)) :
    Follows (commands ++ handledCommands (s.occurrences actions)) (s.actAll actions) := by
  induction actions generalizing s commands with
  | nil => simpa [occurrences, handledCommands, SlotService.actAll] using h
  | cons action actions ih =>
    have hlog : handledCommands (s.occurrences (action :: actions)) =
        (s.handledBy action).toList ++ handledCommands ((s.act action).1.occurrences actions) := by
      cases hhandled : s.handledBy action <;>
        simp [occurrences, handledCommands, occurrence, hhandled]
    rw [hlog, ← List.append_assoc]
    exact ih (h.act action)

end Follows

/-- What the observers of a service are after some handled commands, and what an action means for
them. -/
structure Broadcast (commands : List (Command κ)) (s : SlotService κ) (action : Action κ) : Prop where
  /-- Until its worker has ended, a service lists those who are to hear of changes. No other list
  would do. -/
  isRoster_iff : s.phase ≠ .stopped → ∀ observers,
    IsRoster commands observers ↔ observers = s.observers
  nodup : s.observers.Nodup
  /-- A change of registration that is handled is told to each of them once, in their order. -/
  notified : s.handledBy action = some (.message .stateChanged) →
    IsRoster commands s.observers ∧ (s.act action).2.2 = s.observers.map .notified
  /-- Nothing else is told to anyone. -/
  not_notified : s.handledBy action ≠ some (.message .stateChanged) →
    ∀ observer, .notified observer ∉ (s.act action).2.2
  /-- Only adding and removing observers changes them, as long as the worker has not ended. -/
  unchanged : (s.act action).1.phase ≠ .stopped →
    (∀ command ∈ s.handledBy action, command.observer? = none) →
      (s.act action).1.observers = s.observers

/-- Whatever was done to a service since its start, changes are told to those whose latest handled
command added them, in the order in which they joined. -/
theorem broadcast_after (slot : Nat) (subId : Int32) (radio : Radio) (actions : List (Action κ))
    (action : Action κ) :
    Broadcast (handledCommands ((initial slot subId radio).occurrences actions))
      ((initial slot subId radio).actAll actions) action := by
  have h := (Follows.initial (κ := κ) slot subId radio).actAll actions
  rw [List.nil_append] at h
  generalize (initial slot subId radio : SlotService κ).actAll actions = s at h ⊢
  refine
    { isRoster_iff := ?_
      nodup := h.nodup
      notified := ?_
      not_notified := ?_
      unchanged := ?_ }
  · intro hlive observers
    constructor
    · exact fun hroster => hroster.eq (h.isRoster hlive)
    · rintro rfl
      exact h.isRoster hlive
  · intro hchanged
    obtain ⟨command, queue, hhandled, hphase, hact⟩ | ⟨hhandled, -⟩ := s.act_cases action
    · obtain rfl := Option.some.inj (hhandled.symm.trans hchanged)
      exact ⟨h.isRoster (by simp [hphase]), by rw [hact]; rfl⟩
    · rw [hhandled] at hchanged
      cases hchanged
  · intro hother observer
    obtain ⟨command, queue, hhandled, hphase, hact⟩ | ⟨-, hquiet, -⟩ := s.act_cases action
    · rw [hact]
      refine notified_not_mem_handle _ ?_ observer
      rintro rfl
      exact hother hhandled
    · exact hquiet observer
  · intro hlive hothers
    obtain ⟨command, queue, hhandled, hphase, hact⟩ | ⟨-, -, ⟨hobservers, -⟩ | ⟨-, hstopped⟩⟩ :=
      s.act_cases action
    · rw [hact]
      exact observers_handle _ (hothers command hhandled)
    · exact hobservers
    · exact absurd hstopped hlive

/-- An observer that is removed and added again is told last. -/
example : ((initial 0 1 .silent : SlotService Nat).actAll
    [.call (.addObserver 1), .call (.addObserver 2), .call (.removeObserver 1),
      .call (.addObserver 1), .call (.addObserver 2), .turn, .turn, .turn, .turn, .turn]).observers =
    [2, 1] := by decide

end CellularRegistration.SlotService
