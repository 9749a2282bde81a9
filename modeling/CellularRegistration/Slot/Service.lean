import CellularRegistration.Record.Normalize

namespace CellularRegistration

/-- What the radio answers to a request. -/
abbrev RadioAnswer := Except RadioFailure Payload

/-- An answer, with the token of the request that it is for. -/
structure Completion where
  token : Nat
  answer : RadioAnswer

/-- A radio, as far as the service depends on it: the completions that it sends while it is being
asked. Whatever it sends later arrives as a command of its own. -/
structure Radio where
  replies : (domain : Domain) → (token : Nat) → List Completion

/-- A radio that answers later. -/
def Radio.silent : Radio where
  replies _ _ := []

/-- A radio that answers every request at once, with one payload for each domain. -/
def Radio.scripted (payload : Domain → Payload) : Radio where
  replies domain token := [⟨token, .ok (payload domain)⟩]

namespace SlotService

/-- What the radio sends to a service. -/
inductive RadioMessage where
  /-- An answer, sent through the reply that the radio was given with the request. -/
  | completed (completion : Completion)
  /-- The registration changed, unasked. -/
  | stateChanged

/-- What the worker of a service handles. Callbacks and observers are told apart by `κ`. -/
inductive Command (κ : Type) where
  | request (domain : Domain) (callback : κ)
  | message (message : RadioMessage)
  | addObserver (observer : κ)
  | removeObserver (observer : κ)
  | configChanged
  /-- Nothing but the sign that all before it has been handled. -/
  | flush

/-- What a service does to the world around it. -/
inductive Effect (κ : Type) where
  /-- It subscribes to the radio's changes of registration. -/
  | subscribed
  | unsubscribed
  /-- It asks the radio for the registration of a domain. -/
  | asked (domain : Domain) (token : Nat)
  /-- It answers a request. -/
  | answered (callback : κ) (result : Except RequestFailure RegistrationRecord)
  /-- It tells an observer that the registration changed. -/
  | notified (observer : κ)
  /-- It has the shared families reloaded for its subscription. -/
  | reloaded (subId : Int32)

/-- A request that the radio has not answered. -/
structure PendingRequest (κ : Type) where
  domain : Domain
  callback : κ

/-- Whether a service works. -/
inductive Phase where
  | running
  /-- It has been closed, and its worker has not noticed yet. -/
  | closing
  /-- Its worker has ended. -/
  | stopped
deriving DecidableEq, Repr

end SlotService

/-- The registration service of a slot. Clients' requests and what the radio sends wait in a queue
of commands, which a worker handles one at a time in the order of their arrival. A service does not
act on the world itself: each operation returns its effects, in order. -/
structure SlotService (κ : Type) where
  slot : Nat
  subId : Int32
  radio : Radio
  phase : SlotService.Phase
  /-- The requests that the radio has not answered, by their tokens. -/
  pending : List (Nat × SlotService.PendingRequest κ)
  /-- Those who are told of changes, in the order in which they are told. -/
  observers : List κ
  /-- The token of the next request, which is the number of that request counted from one. It is an
  unbounded number: a counter of 64 bits gives the same tokens to the first `2 ^ 64 - 1` requests,
  and only then has no next value. -/
  nextToken : Nat
  queue : List (SlotService.Command κ)

namespace SlotService

variable {κ : Type}

/-- The service of a slot, at its start. -/
def initial (slot : Nat) (subId : Int32) (radio : Radio) : SlotService κ where
  slot
  subId
  radio
  phase := .running
  pending := []
  observers := []
  nextToken := 1
  queue := []

/-- What starting a service does: the families are reloaded, then the radio is subscribed to. -/
def startEffects (subId : Int32) : List (Effect κ) :=
  [.reloaded subId, .subscribed]

/-- Whether the service has been closed. -/
def isClosed (s : SlotService κ) : Bool :=
  s.phase != .running

/-- What a request's callback hears of the radio's answer. -/
def resultOf (domain : Domain) (answer : RadioAnswer) :
    Except RequestFailure RegistrationRecord :=
  match answer with
  | .error _ => .error .failed
  | .ok payload =>
    match payload.normalize domain with
    | .error _ => .error .failed
    | .ok record => .ok record

/-- Puts a command at the end of the queue. -/
def enqueue (s : SlotService κ) (command : Command κ) : SlotService κ :=
  { s with queue := s.queue ++ [command] }

/-- Gives a request a token and asks the radio. What the radio sends meanwhile goes into the queue.
The counter of tokens goes on without a bound, so it parts from one of 64 bits after request number
`2 ^ 64 - 1`. -/
def issue (s : SlotService κ) (domain : Domain) (callback : κ) : SlotService κ × List (Effect κ) :=
  let token := s.nextToken
  ({ s with
      pending := s.pending ++ [(token, ⟨domain, callback⟩)]
      nextToken := token + 1
      queue := s.queue ++ (s.radio.replies domain token).map fun c => .message (.completed c) },
    [.asked domain token])

/-- Answers the request that a completion is for, if it is still pending. A completion whose token
is not pending is dropped. -/
def complete (s : SlotService κ) (completion : Completion) : SlotService κ × List (Effect κ) :=
  match s.pending.lookup completion.token with
  | none => (s, [])
  | some request =>
    ({ s with pending := s.pending.filter fun (token, _) => token != completion.token },
      [.answered request.callback (resultOf request.domain completion.answer)])

/-- Handles a command. -/
def handle [DecidableEq κ] (s : SlotService κ) : Command κ → SlotService κ × List (Effect κ)
  | .request domain callback => s.issue domain callback
  | .message (.completed completion) => s.complete completion
  | .message .stateChanged => (s, s.observers.map .notified)
  | .addObserver observer =>
    (if observer ∈ s.observers then s else { s with observers := s.observers ++ [observer] }, [])
  | .removeObserver observer =>
    ({ s with observers := s.observers.filter (· ≠ observer) }, [])
  | .configChanged => (s, [.reloaded s.subId])
  | .flush => (s, [])

/-- The service after its worker has ended: whatever was queued or pending is discarded. -/
def stop (s : SlotService κ) : SlotService κ :=
  { s with phase := .stopped, pending := [], observers := [], queue := [] }

/-- A turn of the worker: it handles the first command of the queue, or ends if the service has been
closed. -/
def turn [DecidableEq κ] (s : SlotService κ) : SlotService κ × List (Effect κ) :=
  match s.phase, s.queue with
  | .running, command :: queue => handle { s with queue } command
  | .running, [] => (s, [])
  | .closing, _ => (s.stop, [])
  | .stopped, _ => (s, [])

/-- Delivers what the radio sends, and says whether anyone is left to take it. -/
def deliver (s : SlotService κ) (message : RadioMessage) : SlotService κ × Bool :=
  if s.phase = .stopped then (s, false) else (s.enqueue (.message message), true)

/-- Passes on a client's command, unless the service has been closed. -/
def accept (s : SlotService κ) (command : Command κ) :
    SlotService κ × Except RegistrationError Unit :=
  if s.isClosed then (s, .error (.serviceClosed s.slot)) else (s.enqueue command, .ok ())

/-- Marks the service as closed. Only the first time does the radio hear of it. -/
def beginClose (s : SlotService κ) : SlotService κ × List (Effect κ) :=
  if s.isClosed then (s, []) else ({ s with phase := .closing }, [.unsubscribed])

/-- What a client may ask of a service. -/
inductive Call (κ : Type) where
  | request (domain : Domain) (callback : κ)
  /-- Asks for a domain by its number. -/
  | requestCode (code : Int32) (callback : κ)
  | addObserver (observer : κ)
  | removeObserver (observer : κ)
  | configChanged
  | flush
  | close

/-- Takes a client's call. A number that is no domain is answered at once, and nothing is queued. A
close returns when the worker has ended. -/
def call [DecidableEq κ] (s : SlotService κ) :
    Call κ → SlotService κ × Except RegistrationError Unit × List (Effect κ)
  | .request domain callback =>
    let (s, answer) := s.accept (.request domain callback)
    (s, answer, [])
  | .requestCode code callback =>
    match Domain.ofCode code with
    | .ok domain =>
      let (s, answer) := s.accept (.request domain callback)
      (s, answer, [])
    | .error error => (s, .error error, [.answered callback (.error .invalidArgument)])
  | .addObserver observer =>
    let (s, answer) := s.accept (.addObserver observer)
    (s, answer, [])
  | .removeObserver observer =>
    let (s, answer) := s.accept (.removeObserver observer)
    (s, answer, [])
  | .configChanged =>
    let (s, answer) := s.accept .configChanged
    (s, answer, [])
  | .flush =>
    let (s, answer) := s.accept .flush
    (s, answer, [])
  | .close =>
    let (s, effects) := s.beginClose
    let (s, later) := s.turn
    (s, .ok (), effects ++ later)

/-- What can happen to a service. -/
inductive Action (κ : Type) where
  | call (call : Call κ)
  /-- The radio sends something. -/
  | message (message : RadioMessage)
  /-- The radio changes its ways. -/
  | replaceRadio (radio : Radio)
  /-- A close begins while the worker is busy. -/
  | beginClose
  /-- The worker takes a turn. -/
  | turn

/-- What is said in return to whoever acts on a service. -/
inductive Reply where
  | nothing
  /-- Whether a client's call was accepted. -/
  | accepted (answer : Except RegistrationError Unit)
  /-- Whether anyone was left to take a message. -/
  | sent (taken : Bool)

/-- What becomes of a service by an action. -/
def act [DecidableEq κ] (s : SlotService κ) :
    Action κ → SlotService κ × Reply × List (Effect κ)
  | .call call =>
    let (s, answer, effects) := s.call call
    (s, .accepted answer, effects)
  | .message message =>
    let (s, taken) := s.deliver message
    (s, .sent taken, [])
  | .replaceRadio radio => ({ s with radio }, .nothing, [])
  | .beginClose =>
    let (s, effects) := s.beginClose
    (s, .nothing, effects)
  | .turn =>
    let (s, effects) := s.turn
    (s, .nothing, effects)

end SlotService

end CellularRegistration
