import CellularRegistration.Carrier.LiveTable
import CellularRegistration.Slot.Service

namespace CellularRegistration

/-- The services of a device and what they share. -/
structure Device (κ : Type) where
  configs : ConfigStore
  families : LiveTable
  /-- The services, in the order of their start. -/
  services : List (SlotService κ)

namespace Device

variable {κ : Type}

/-- A device on which nothing runs yet. -/
def initial (families : LiveTable) : Device κ :=
  ⟨.empty, families, []⟩

/-- What can be done with a device. -/
inductive Operation (κ : Type) where
  | insertConfig (subId : Int32) (config : CarrierConfig)
  /-- Stores the configuration in a TOML document. -/
  | insertToml (subId : Int32) (text : String)
  | removeConfig (subId : Int32)
  | rebuildFamilies (groups : List String)
  | reloadFamilies (subId : Int32)
  | clearFamilies
  /-- Starts the service of a slot. -/
  | spawn (slot : Nat) (subId : Int32) (radio : Radio)
  /-- Acts on the service that was started as the `index`-th, counted from zero. -/
  | act (index : Nat) (action : SlotService.Action κ)

/-- What an operation answers. -/
inductive Reply where
  | nothing
  | failed (error : RegistrationError)
  /-- The faults in the groups of which a family table was built. -/
  | faults (faults : List RegistrationError)
  | service (reply : SlotService.Reply)
  /-- There is no such service. -/
  | noService

/-- Carries out what an effect means for the device: a reload takes the configuration that is stored
at that moment. -/
def apply (d : Device κ) : SlotService.Effect κ → Device κ
  | .reloaded subId => { d with families := (d.families.reload d.configs subId).1 }
  | _ => d

/-- Carries out effects one after the other. -/
def applyAll (d : Device κ) (effects : List (SlotService.Effect κ)) : Device κ :=
  effects.foldl apply d

/-- Acts on a service, and carries out its effects. -/
def act [DecidableEq κ] (d : Device κ) (index : Nat) (action : SlotService.Action κ) :
    Device κ × Reply × List (SlotService.Effect κ) :=
  match d.services[index]? with
  | none => (d, .noService, [])
  | some service =>
    let (service, reply, effects) := service.act action
    ({ d.applyAll effects with services := d.services.set index service }, .service reply, effects)

/-- Carries out an operation, on what is shared or on one service. Returned are what it answers and
the effects of the service, in order. -/
def perform [DecidableEq κ] (d : Device κ) :
    Operation κ → Device κ × Reply × List (SlotService.Effect κ)
  | .insertConfig subId config =>
    ({ d with configs := d.configs.insert subId config }, .nothing, [])
  | .insertToml subId text =>
    match d.configs.insertToml subId text with
    | .ok configs => ({ d with configs }, .nothing, [])
    | .error error => (d, .failed error, [])
  | .removeConfig subId => ({ d with configs := d.configs.erase subId }, .nothing, [])
  | .rebuildFamilies groups =>
    let (families, faults) := d.families.rebuild groups
    ({ d with families }, .faults faults, [])
  | .reloadFamilies subId =>
    match d.families.reload d.configs subId with
    | (families, .ok faults) => ({ d with families }, .faults faults, [])
    | (families, .error error) => ({ d with families }, .failed error, [])
  | .clearFamilies => ({ d with families := d.families.clear }, .nothing, [])
  | .spawn slot subId radio =>
    let effects := SlotService.startEffects subId
    ({ d.applyAll effects with services := d.services ++ [.initial slot subId radio] }, .nothing,
      effects)
  | .act index action => d.act index action

/-- Lets the worker of a service take some turns. -/
def turns [DecidableEq κ] (index : Nat) :
    Nat → Device κ → Device κ × List (SlotService.Effect κ)
  | 0, d => (d, [])
  | n + 1, d =>
    let (d, _, effects) := d.act index .turn
    let (d, later) := turns index n d
    (d, effects ++ later)

/-- The number of commands that wait for the worker of a service. -/
def waiting (d : Device κ) (index : Nat) : Nat :=
  ((d.services[index]?).map fun service => service.queue.length).getD 0

/-- Lets the worker of a service handle everything. What radios send while they are being asked is
queued in the first round and handled in the second, which queues nothing more. -/
def settle [DecidableEq κ] (d : Device κ) (index : Nat) :
    Device κ × List (SlotService.Effect κ) :=
  let (d, effects) := turns index (d.waiting index) d
  let (d, later) := turns index (d.waiting index) d
  (d, effects ++ later)

end Device

end CellularRegistration
