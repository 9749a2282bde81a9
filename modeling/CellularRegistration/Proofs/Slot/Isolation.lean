import CellularRegistration.Proofs.Slot.Inert

namespace CellularRegistration

open SlotService

variable {κ : Type}

namespace Device

namespace Operation

/-- How many services there are after an operation, if there were so many before it. -/
def startedAfter (started : Nat) : Operation κ → Nat
  | .spawn _ _ _ => started + 1
  | _ => started

/-- The start of the service with an index, or an action on it, as it would be on a device without
other services. There are so many services before the operation. -/
def own? (index started : Nat) : Operation κ → Option (Operation κ)
  | .spawn slot subId radio => if started = index then some (.spawn slot subId radio) else none
  | .act other action => if other = index then some (.act 0 action) else none
  | _ => none

end Operation

/-- The operations that are a service's own, as they would be on a device without other services. -/
def own (index : Nat) : (started : Nat) → List (Operation κ) → List (Operation κ)
  | _, [] => []
  | started, operation :: operations =>
    (operation.own? index started).toList ++ own index (operation.startedAfter started) operations

variable [DecidableEq κ]

/-- What operations answer, each with the effects that it has. -/
def shown (d : Device κ) : List (Operation κ) → List (Reply × List (Effect κ))
  | [] => []
  | operation :: operations => (d.perform operation).2 :: shown (d.perform operation).1 operations

/-- What the operations of a service answer, among others, each with the effects that it has. -/
def shownBy (index : Nat) (d : Device κ) : List (Operation κ) → List (Reply × List (Effect κ))
  | [] => []
  | operation :: operations =>
    ((operation.own? index d.services.length).map fun _ => (d.perform operation).2).toList ++
      shownBy index (d.perform operation).1 operations

/-- A device on which a service of another device is alone, or is not there either. -/
def Alone (index : Nat) (d e : Device κ) : Prop :=
  e.services = d.services[index]?.toList

section Operation

variable {index : Nat} {d e : Device κ} {operation : Operation κ}

theorem length_services_perform (d : Device κ) (operation : Operation κ) :
    (d.perform operation).1.services.length = operation.startedAfter d.services.length := by
  obtain ⟨slot, subId, radio, rfl, hservices⟩ | ⟨other, action, s, rfl, -, hservices⟩ |
    ⟨hstart, hservices⟩ := d.services_perform_cases operation <;> rw [hservices]
  · rw [List.length_append]
    rfl
  · rw [List.length_set]
    rfl
  · cases operation with
    | spawn slot subId radio => exact absurd rfl (hstart slot subId radio)
    | _ => rfl

theorem perform_act_of_none (hservice : d.services[index]? = none) (action : Action κ) :
    d.perform (.act index action) = (d, .noService, []) := by
  simp only [perform, Device.act, hservice]

/-- An operation that is not a service's own does nothing to the service. -/
theorem service_perform_of_other (hother : operation.own? index d.services.length = none) :
    (d.perform operation).1.services[index]? = d.services[index]? := by
  obtain ⟨slot, subId, radio, rfl, hservices⟩ | ⟨other, action, s, rfl, hget, hservices⟩ |
    ⟨-, hservices⟩ := d.services_perform_cases operation <;> rw [hservices]
  · have hne : d.services.length ≠ index := by
      intro heq
      rw [Operation.own?, if_pos heq] at hother
      cases hother
    obtain hlt | hgt := Nat.lt_or_gt_of_ne hne
    · have hlength : (d.services ++ [SlotService.initial slot subId radio]).length ≤ index := by
        rw [List.length_append]
        exact hlt
      rw [List.getElem?_eq_none hlength, List.getElem?_eq_none (Nat.le_of_lt hlt)]
    · rw [List.getElem?_append_left hgt]
  · have hne : other ≠ index := by
      intro heq
      rw [Operation.own?, if_pos heq] at hother
      cases hother
    rw [List.getElem?_set_ne hne]

/-- A service's own operation shows the same where the service is alone, and leaves it alone. -/
theorem perform_own (halone : Alone index d e) {own : Operation κ}
    (hown : operation.own? index d.services.length = some own) :
    (e.perform own).2 = (d.perform operation).2 ∧
      Alone index (d.perform operation).1 (e.perform own).1 := by
  cases operation with
  | spawn slot subId radio =>
    obtain ⟨hindex, hsame⟩ := Option.ite_none_right_eq_some.1 hown
    obtain rfl := Option.some.inj hsame
    have hnone : d.services[index]? = none := List.getElem?_eq_none (Nat.le_of_eq hindex)
    have hempty : e.services = [] := by rw [halone, hnone]; rfl
    refine ⟨rfl, ?_⟩
    change e.services ++ [SlotService.initial slot subId radio] =
      (d.services ++ [SlotService.initial slot subId radio])[index]?.toList
    rw [hempty, ← hindex, List.getElem?_concat_length]
    rfl
  | act other action =>
    obtain ⟨rfl, hsame⟩ := Option.ite_none_right_eq_some.1 hown
    obtain rfl := Option.some.inj hsame
    cases hservice : d.services[other]? with
    | none =>
      have hempty : e.services = [] := by rw [halone, hservice]; rfl
      have hnone : e.services[0]? = none := by rw [hempty]; rfl
      rw [perform_act_of_none hservice, perform_act_of_none hnone]
      exact ⟨rfl, halone⟩
    | some s =>
      obtain ⟨hindex, -⟩ := List.getElem?_eq_some_iff.1 hservice
      have hservices : e.services = [s] := by rw [halone, hservice]; rfl
      have hfirst : e.services[0]? = some s := by rw [hservices]; rfl
      rw [perform_act hservice, perform_act hfirst]
      refine ⟨rfl, ?_⟩
      change e.services.set 0 (s.act action).1 =
        (d.services.set other (s.act action).1)[other]?.toList
      rw [hservices, List.getElem?_set_self hindex]
      rfl
  | _ => cases hown

end Operation

section Runs

variable {index : Nat} {d e : Device κ}

/-- Among any operations a service shows what it shows alone, and becomes what it becomes alone. -/
theorem shown_own (halone : Alone index d e) (operations : List (Operation κ)) :
    e.shown (own index d.services.length operations) = d.shownBy index operations ∧
      Alone index (d.performAll operations)
        (e.performAll (own index d.services.length operations)) := by
  induction operations generalizing d e with
  | nil => exact ⟨rfl, halone⟩
  | cons operation operations ih =>
    have hlength := d.length_services_perform operation
    cases hown : operation.own? index d.services.length with
    | none =>
      have hkept : Alone index (d.perform operation).1 e := by
        rw [Alone, service_perform_of_other hown]
        exact halone
      have hrest := ih hkept
      rw [hlength] at hrest
      simp only [own, shownBy, hown, Option.toList_none, Option.map_none, List.nil_append]
      exact hrest
    | some first =>
      obtain ⟨hfirst, hkept⟩ := perform_own halone hown
      obtain ⟨hshown, hrest⟩ := ih hkept
      rw [hlength] at hshown hrest
      simp only [own, shownBy, hown, Option.toList_some, Option.map_some, List.singleton_append,
        shown, hfirst, hshown, true_and]
      exact hrest

/-- What a service shows among some operations on a device, and what becomes of it, is what it is
where the service is alone from the start. -/
structure Isolated (index : Nat) (d : Device κ) (operations : List (Operation κ)) : Prop where
  /-- Its own operations have the same answers and effects, in their order. -/
  shown_eq : ∀ e : Device κ, e.services = [] →
    d.shownBy index operations = e.shown (own index 0 operations)
  /-- What it keeps is the same. -/
  service_eq : ∀ e : Device κ, e.services = [] →
    (d.performAll operations).services[index]? =
      (e.performAll (own index 0 operations)).services[0]?
  /-- An action on another service, a message of its radio for one, leaves it as it is. -/
  untouched : ∀ other action, other ≠ index →
    ((d.performAll operations).perform (.act other action)).1.services[index]? =
      (d.performAll operations).services[index]?

/-- Whatever is done to a device and its services, and in whatever order, each service is isolated
from the others, and from the configurations and families that it shares with them. -/
theorem run_isolated (configs : ConfigStore) (families : LiveTable) (operations : List (Operation κ))
    (index : Nat) : Isolated index ⟨configs, families, []⟩ operations where
  shown_eq e hempty := by
    have halone : Alone index ⟨configs, families, []⟩ e := hempty
    exact (shown_own halone operations).1.symm
  service_eq e hempty := by
    have halone : Alone index ⟨configs, families, []⟩ e := hempty
    have hservices : (e.performAll (own index 0 operations)).services = _ :=
      (shown_own halone operations).2
    rw [hservices]
    cases (performAll ⟨configs, families, []⟩ operations).services[index]? <;> rfl
  untouched other action hother := service_perform_of_other (if_neg hother)

/-- Both services ask their radios with the token one, and an answer to one of them is none to the
other. -/
example :
    let completion : RadioMessage := .completed ⟨1, .error ⟨"busy"⟩⟩
    (initial .initial : Device Nat).shownBy 1
      [.spawn 4 1 .silent, .act 0 (.call (.request .cs 7)), .spawn 5 2 .silent,
        .act 1 (.call (.request .ps 8)), .act 0 .turn, .act 1 .turn, .act 0 (.message completion),
        .act 0 .turn, .act 1 .turn] =
      [(.nothing, [.reloaded 2, .subscribed]), (.service (.accepted (.ok ())), []),
        (.service .nothing, [.asked .ps 1]), (.service .nothing, [])] := by rfl

end Runs

end Device

end CellularRegistration
