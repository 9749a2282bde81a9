import CellularRegistration.Domain

namespace CellularRegistration

/-- Where a slot stands with the network. -/
inductive RegistrationState where
  | notRegisteredNotSearching
  | home
  | notRegisteredSearching
  | denied
  | unknown
  | roaming
deriving DecidableEq, Repr

namespace RegistrationState

/-- The name of a state in data. -/
def keyword : RegistrationState → String
  | notRegisteredNotSearching => "not_registered_not_searching"
  | home => "home"
  | notRegisteredSearching => "not_registered_searching"
  | denied => "denied"
  | unknown => "unknown"
  | roaming => "roaming"

/-- States in data. -/
def spelling : Spelling RegistrationState where
  all := [notRegisteredNotSearching, home, notRegisteredSearching, denied, unknown, roaming]
  name := keyword
  mem_all a := by cases a <;> decide
  eq_of_name_eq a b := by cases a <;> cases b <;> decide

/-- Registered, at home or abroad. -/
def isInService : RegistrationState → Bool
  | home | roaming => true
  | _ => false

/-- The state that a modem means by a number. The numbers from 10 repeat those from 0 for a slot
that may place emergency calls; an unlisted number means that nothing is registered or sought. -/
def ofReported (code : Int32) : RegistrationState :=
  match code.toInt with
  | 0 | 10 => notRegisteredNotSearching
  | 1 => home
  | 2 | 12 => notRegisteredSearching
  | 3 | 13 => denied
  | 4 | 14 => unknown
  | 5 => roaming
  | _ => notRegisteredNotSearching

/-- Whether a modem's number means that only emergency calls are possible. -/
def isEmergencyOnly (code : Int32) : Bool :=
  match code.toInt with
  | 10 | 12 | 13 | 14 => true
  | _ => false

end RegistrationState

/-- What a registered slot can be used for. -/
inductive ServiceKind where
  | voice
  | data
  | sms
  | video
  | emergency
deriving DecidableEq, Repr

/-- The name of a service in data. -/
def ServiceKind.keyword : ServiceKind → String
  | voice => "voice"
  | data => "data"
  | sms => "sms"
  | video => "video"
  | emergency => "emergency"

/-- Services in data. -/
def ServiceKind.spelling : Spelling ServiceKind where
  all := [.voice, .data, .sms, .video, .emergency]
  name := ServiceKind.keyword
  mem_all a := by cases a <;> decide
  eq_of_name_eq a b := by cases a <;> cases b <;> decide

/-- The services of a slot: emergency calls alone where nothing else is allowed, none out of
service, and otherwise those of the domain. -/
def availableServices (state : RegistrationState) (domain : Domain) (emergencyOnly : Bool) :
    List ServiceKind :=
  if emergencyOnly then [.emergency]
  else if state.isInService then
    match domain with
    | .ps => [.data]
    | .cs => [.voice, .sms, .video]
  else []

end CellularRegistration
