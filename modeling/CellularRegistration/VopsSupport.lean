import CellularRegistration.Spelling

namespace CellularRegistration

/-- What is known of an LTE capability. -/
inductive LteStatus where
  | supported
  | notSupported
  | notAvailable
deriving DecidableEq, Repr

namespace LteStatus

/-- The status of a capability that the network has or has not. -/
def ofFlag (supported : Bool) : LteStatus :=
  if supported then .supported else .notSupported

/-- The name of a status in data. -/
def keyword : LteStatus → String
  | supported => "supported"
  | notSupported => "not_supported"
  | notAvailable => "not_available"

/-- Statuses in data. -/
def spelling : Spelling LteStatus where
  all := [supported, notSupported, notAvailable]
  name := keyword
  mem_all a := by cases a <;> decide
  eq_of_name_eq a b := by cases a <;> cases b <;> decide

end LteStatus

/-- The two capabilities of LTE for calls: calls over packet switching (VoPS), and an emergency
bearer. -/
structure VopsSupport where
  vops : LteStatus
  emergencyBearer : LteStatus
deriving DecidableEq, Repr

namespace VopsSupport

/-- Nothing was said. -/
def notAvailable : VopsSupport :=
  ⟨.notAvailable, .notAvailable⟩

/-- What the network said. -/
def ofFlags (vops emergencyBearer : Bool) : VopsSupport :=
  ⟨.ofFlag vops, .ofFlag emergencyBearer⟩

end VopsSupport

end CellularRegistration
