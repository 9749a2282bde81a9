import CellularRegistration.Family.Entry

namespace CellularRegistration

/-- Technologies that a device may move between, in the order of their rank, the lowest first, under
the family's number in its table. -/
structure Family where
  id : Nat
  members : List RadioTechnology
deriving DecidableEq, Repr

/-- The rank of a technology in a family, if it is a member. -/
def Family.rank (family : Family) (technology : RadioTechnology) : Option Nat :=
  family.members.idxOf? technology

/-- The families of a carrier. No technology belongs to two of them. -/
structure FamilyTable where
  families : List Family
  /-- The number of the family of each technology that belongs to one. -/
  index : List (RadioTechnology × Nat)
deriving DecidableEq, Repr

namespace FamilyTable

/-- The table without families. -/
def empty : FamilyTable :=
  ⟨[], []⟩

/-- The technologies that belong to a family. -/
def claimed (table : FamilyTable) : List RadioTechnology :=
  table.index.map Prod.fst

/-- Adds a family of these technologies; no family, if there are none. -/
def addFamily (table : FamilyTable) (members : List RadioTechnology) : FamilyTable :=
  if members = [] then table
  else
    let id := table.families.length
    { families := table.families ++ [⟨id, members⟩]
      index := table.index ++ members.map fun technology => (technology, id) }

/-- A group that lists fewer than two entries makes no family and no fault. Otherwise the entries
before the first one that is refused make a family, and the refused one makes a fault. -/
def addGroup (table : FamilyTable) (group : String) : FamilyTable × Option RegistrationError :=
  let entries := Family.entries group
  if entries.length < 2 then (table, none)
  else
    let intake := Family.takeMembers table.claimed entries
    (table.addFamily intake.members,
      intake.refused.map fun (entry, fault) =>
        .malformedFamilyGroup group (String.ofList (Text.trim entry)) fault)

/-- Adds groups one after the other, and collects their faults. -/
def addGroups (table : FamilyTable) : List String → FamilyTable × List RegistrationError
  | [] => (table, [])
  | group :: groups =>
    let (table, fault) := table.addGroup group
    let (table, faults) := table.addGroups groups
    (table, fault.toList ++ faults)

/-- The table that a list of groups makes, and the faults in them. -/
def build (groups : List String) : FamilyTable × List RegistrationError :=
  empty.addGroups groups

/-- The number of a technology's family. -/
def familyId (table : FamilyTable) (technology : RadioTechnology) : Option Nat :=
  table.index.lookup technology

/-- The family of a technology. -/
def familyOf (table : FamilyTable) (technology : RadioTechnology) : Option Family :=
  (table.familyId technology).bind fun id => table.families[id]?

/-- Whether two technologies belong to one family. -/
def sameFamily (table : FamilyTable) (a b : RadioTechnology) : Bool :=
  match table.familyId a, table.familyId b with
  | some i, some j => i == j
  | _, _ => false

/-- The number of families. -/
def size (table : FamilyTable) : Nat :=
  table.families.length

/-- Whether there are no families. -/
def isEmpty (table : FamilyTable) : Bool :=
  table.families.isEmpty

end FamilyTable

end CellularRegistration
