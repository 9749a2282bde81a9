import CellularRegistration.Domain
import CellularRegistration.Payload.Revision
import CellularRegistration.Text.Quoted

namespace CellularRegistration

/-- Why an entry of a family group is refused. -/
inductive EntryFault where
  /-- The entry is no integer of 64 bits. -/
  | unparseable
  /-- The integer is no code of a radio technology. -/
  | unknownTechnology
  /-- The technology belongs to a family already. -/
  | duplicate
deriving DecidableEq, Repr

/-- The wording of an entry's fault. -/
def EntryFault.message : EntryFault → String
  | unparseable => "not an integer"
  | unknownTechnology => "not a known radio technology code"
  | duplicate => "already listed in another family"

/-- The causes of failure. -/
inductive RegistrationError where
  /-- A client asked for a domain that does not exist. -/
  | invalidDomain (code : Int32)
  /-- A report of this revision does not answer a request for this domain. -/
  | unrecognizedPayload (revision : Payload.Revision) (domain : Domain)
  /-- A carrier configuration is no TOML document, or its groups are not an array of texts. -/
  | configInvalid
  /-- No carrier configuration is stored for a subscription. -/
  | configUnavailable (subId : Int32)
  /-- An entry of a family group was refused. -/
  | malformedFamilyGroup (group entry : String) (reason : EntryFault)
  /-- The service of a slot has been closed. -/
  | serviceClosed (slot : Nat)
deriving DecidableEq, Repr

/-- The wording of a failure. -/
def RegistrationError.message : RegistrationError → String
  | invalidDomain code => "invalid registration domain code " ++ toString code.toInt
  | unrecognizedPayload revision domain =>
    "unrecognized " ++ revision.displayName ++ " payload for " ++ domain.name ++ " registration"
  | configInvalid => "Invalid carrier config TOML"
  | configUnavailable subId =>
    "carrier config unavailable for subscription " ++ toString subId.toInt ++
      ": no carrier config bundle"
  | malformedFamilyGroup group entry reason =>
    "malformed RAT family group " ++ Text.quoted group ++ " at entry " ++ Text.quoted entry ++
      ": " ++ reason.message
  | serviceClosed slot => "network service for slot " ++ toString slot ++ " is closed"

/-- The domain that a client's number stands for. -/
def Domain.ofCode (code : Int32) : Except RegistrationError Domain :=
  match Domain.ofCode? code with
  | some domain => .ok domain
  | none => .error (.invalidDomain code)

/-- What a request's callback hears instead of a record. -/
inductive RequestFailure where
  /-- The radio failed, or its report does not answer the request. -/
  | failed
  /-- The request named no domain. -/
  | invalidArgument
deriving DecidableEq, Repr

/-- The wording of a request's failure. -/
def RequestFailure.message : RequestFailure → String
  | failed => "request failed"
  | invalidArgument => "invalid argument"

/-- The radio's own account of why a request failed. -/
structure RadioFailure where
  reason : String
deriving DecidableEq, Repr

/-- The wording of a radio's failure. -/
def RadioFailure.message (failure : RadioFailure) : String :=
  "radio request failed: " ++ failure.reason

end CellularRegistration
