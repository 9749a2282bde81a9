import CellularRegistration.Error
import CellularRegistration.Technology
import CellularRegistration.Text.Blank
import CellularRegistration.Text.Numeral
import CellularRegistration.Text.Split
import CellularRegistration.Word

namespace CellularRegistration.Family

/-- The entries of a group, a text in which codes stand between commas: the pieces between the
commas, without the empty ones at the end. -/
def entries (group : String) : List (List Char) :=
  ((Text.splitAt ',' group.toList).reverse.dropWhile (· == [])).reverse

/-- The technology that an integer names. A code is a byte; an integer that does not fit into one
names nothing. -/
def technologyOf? (code : Int64) : Option RadioTechnology :=
  (Word.uint8.ofInt? code.toInt).bind fun byte => RadioTechnology.ofCode? byte.toNat

/-- The technology that an entry names. White space around its code does not count. The code is an
integer of 64 bits, and the technology must not be claimed already. -/
def readEntry (claimed : List RadioTechnology) (entry : List Char) :
    Except EntryFault RadioTechnology :=
  match (Text.signed? (Text.trim entry)).bind Word.int64.ofInt? with
  | none => .error .unparseable
  | some code =>
    match technologyOf? code with
    | none => .error .unknownTechnology
    | some technology =>
      if technology ∈ claimed then .error .duplicate else .ok technology

/-- What became of the entries of a group. -/
structure Intake where
  /-- The technologies of the entries before the first one that was refused. -/
  members : List RadioTechnology
  /-- The entry that was refused, if there was one, and why. -/
  refused : Option (List Char × EntryFault)
deriving DecidableEq

/-- Takes members from entries until one is refused. Each member is claimed for those after it. -/
def takeMembers (claimed : List RadioTechnology) : List (List Char) → Intake
  | [] => ⟨[], none⟩
  | entry :: entries =>
    match readEntry claimed entry with
    | .error fault => ⟨[], some (entry, fault)⟩
    | .ok technology =>
      let rest := takeMembers (technology :: claimed) entries
      ⟨technology :: rest.members, rest.refused⟩

end CellularRegistration.Family
