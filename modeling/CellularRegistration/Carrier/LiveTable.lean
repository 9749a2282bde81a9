import CellularRegistration.Carrier.Store
import CellularRegistration.Family.Table

namespace CellularRegistration

/-- The family table in force, which all slots share. It is never changed in place: another table
takes its place as a whole, and whoever holds the old one keeps it. The generation counts the tables
that were replaced. -/
structure LiveTable where
  table : FamilyTable
  generation : Nat
deriving DecidableEq, Repr

namespace LiveTable

/-- The empty table that is in force at first. -/
def initial : LiveTable :=
  ⟨.empty, 0⟩

/-- Puts a table in the place of the one in force. -/
def replace (live : LiveTable) (table : FamilyTable) : LiveTable :=
  ⟨table, live.generation + 1⟩

/-- Replaces the table by the one that some groups make. The faults in them are returned. -/
def rebuild (live : LiveTable) (groups : List String) : LiveTable × List RegistrationError :=
  let (table, faults) := FamilyTable.build groups
  (live.replace table, faults)

/-- Replaces the table by the empty one. -/
def clear (live : LiveTable) : LiveTable :=
  live.replace .empty

/-- Rebuilds the table from the configuration of a subscription. Without one the table is
cleared. -/
def reload (live : LiveTable) (store : ConfigStore) (subId : Int32) :
    LiveTable × Except RegistrationError (List RegistrationError) :=
  match store.find? subId with
  | some config =>
    let (live, faults) := live.rebuild config.ratFamilies
    (live, .ok faults)
  | none => (live.clear, .error (.configUnavailable subId))

end LiveTable

end CellularRegistration
