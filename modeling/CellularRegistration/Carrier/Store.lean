import CellularRegistration.Carrier.Config

namespace CellularRegistration

/-- The configurations, by the number of their subscription. -/
structure ConfigStore where
  entries : List (Int32 × CarrierConfig)

namespace ConfigStore

/-- No configurations. -/
def empty : ConfigStore :=
  ⟨[]⟩

/-- The configuration of a subscription. -/
def find? (store : ConfigStore) (subId : Int32) : Option CarrierConfig :=
  store.entries.lookup subId

/-- Removes the configuration of a subscription. -/
def erase (store : ConfigStore) (subId : Int32) : ConfigStore :=
  ⟨store.entries.filter fun (key, _) => key != subId⟩

/-- Stores the configuration of a subscription, in the place of the one that it had before. -/
def insert (store : ConfigStore) (subId : Int32) (config : CarrierConfig) : ConfigStore :=
  ⟨(subId, config) :: (store.erase subId).entries⟩

/-- Stores the configuration in a TOML document. An invalid one changes nothing. -/
def insertToml (store : ConfigStore) (subId : Int32) (text : String) :
    Except RegistrationError ConfigStore :=
  (CarrierConfig.ofToml text).map fun config => store.insert subId config

@[simp]
theorem find?_empty (subId : Int32) : empty.find? subId = none :=
  rfl

@[simp]
theorem find?_erase (store : ConfigStore) (subId other : Int32) :
    (store.erase subId).find? other = if other = subId then none else store.find? other := by
  obtain ⟨entries⟩ := store
  simp only [erase, find?]
  induction entries with
  | nil => simp
  | cons entry entries ih =>
    obtain ⟨key, config⟩ := entry
    simp only [List.filter_cons, List.lookup_cons]
    grind

@[simp]
theorem find?_insert (store : ConfigStore) (subId other : Int32) (config : CarrierConfig) :
    (store.insert subId config).find? other =
      if other = subId then some config else store.find? other := by
  have herase := find?_erase store subId other
  simp only [find?] at herase
  simp only [insert, find?, List.lookup_cons, herase]
  grind

end ConfigStore

end CellularRegistration
