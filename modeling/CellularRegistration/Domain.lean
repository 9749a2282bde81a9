import CellularRegistration.Spelling

namespace CellularRegistration

/-- One of the two domains for which a slot registers, each on its own. -/
inductive Domain where
  /-- Circuit-switched: calls. -/
  | cs
  /-- Packet-switched: data. -/
  | ps
deriving DecidableEq, Repr

namespace Domain

/-- The number by which a client asks for a domain. -/
def code : Domain → Int32
  | cs => 1
  | ps => 2

/-- The domain with this number. -/
def ofCode? (code : Int32) : Option Domain :=
  if code = 1 then some cs else if code = 2 then some ps else none

/-- The name of a domain. -/
def name : Domain → String
  | cs => "cs"
  | ps => "ps"

theorem ofCode?_eq_some_iff (n : Int32) (d : Domain) : ofCode? n = some d ↔ d.code = n := by
  cases d <;> simp only [ofCode?, code] <;> grind

end Domain

/-- The transport of a registration. Cellular registrations have only one. -/
inductive Transport where
  | wwan
deriving DecidableEq, Repr

/-- Transports in data. -/
def Transport.spelling : Spelling Transport where
  all := [.wwan]
  name _ := "Wwan"
  mem_all a := by cases a; decide
  eq_of_name_eq a b _ := by cases a; cases b; rfl

end CellularRegistration
