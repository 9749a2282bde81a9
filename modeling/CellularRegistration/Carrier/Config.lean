import CellularRegistration.Error
import CellularRegistration.Text.Blank
import CellularRegistration.Toml.Document

namespace CellularRegistration

/-- The configuration of a carrier, from a TOML document: the groups under the one key that is
known, and the other keys as they are. -/
structure CarrierConfig where
  /-- The groups of technologies that form families. -/
  ratFamilies : List String
  /-- The other keys. -/
  other : List (String × Toml)

namespace CarrierConfig

/-- The key of the groups. -/
def familiesKey : String := "ratchet_rat_families"

/-- The platform's groups: GPRS and EDGE, the EV-DO revisions, UMTS and the HSPA variants, LTE with
and without carrier aggregation. -/
def defaultFamilies : List String :=
  ["1,2", "7,8,12", "3,11,9,10,15", "14,19"]

/-- The configuration of a carrier that says nothing, to which the platform's groups apply. -/
def default : CarrierConfig :=
  ⟨defaultFamilies, []⟩

/-- Whether a configuration is that of a carrier that says nothing. -/
def isDefault (config : CarrierConfig) : Bool :=
  config.ratFamilies == defaultFamilies && config.other.isEmpty

/-- A configuration of these groups, as they are. -/
def withFamilies (groups : List String) : CarrierConfig :=
  ⟨groups, []⟩

/-- Groups as they are kept: without the white space around them, and without empty ones. -/
def tidy (groups : List String) : List String :=
  (groups.map Text.trimmed).filter (· != "")

/-- The groups that a document configures, the platform's if it does not have the key of the groups.
There are none if the key holds anything but an array of texts. -/
def families? (entries : List (String × Toml)) : Option (List String) :=
  match entries.lookup familiesKey with
  | none => some defaultFamilies
  | some groups => groups.strings?.map tidy

/-- The configuration in a TOML document. An empty one says nothing. -/
def ofToml (text : String) : Except RegistrationError CarrierConfig :=
  if Text.trimmed text = "" then .ok default
  else
    let config : Option CarrierConfig := do
      let entries ← Toml.read? text
      let families ← families? entries
      return ⟨families, entries.filter fun (key, _) => key != familiesKey⟩
    match config with
    | some config => .ok config
    | none => .error .configInvalid

/-- The value of a key other than that of the groups. -/
def get? (config : CarrierConfig) (key : String) : Option Toml :=
  config.other.lookup key

end CarrierConfig

end CellularRegistration
