import CellularRegistration.Text.Numeral
import CellularRegistration.Word

namespace CellularRegistration.Replay

/-- What the replay command is asked to do. -/
structure Arguments where
  trace : String
  config : Option String
  subId : Int32
deriving DecidableEq, Repr

/-- What the arguments of the replay command come to. -/
inductive Invocation where
  | help
  /-- The arguments make no sense. -/
  | misuse (reason : String)
  | replay (arguments : Arguments)
deriving DecidableEq, Repr

/-- A 32-bit integer, written with an optional sign. -/
def subId? (text : String) : Option Int32 :=
  (Text.signed? text.toList).bind Word.int32.ofInt?

/-- The arguments as far as they have been read. -/
structure Arguments.Draft where
  trace : Option String
  config : Option String
  subId : Option Int32

namespace Arguments.Draft

/-- Before the first argument. -/
def empty : Draft :=
  ⟨none, none, none⟩

/-- Takes the path of the trace. -/
def setTrace (draft : Draft) (path : String) : Except Invocation Draft :=
  if draft.trace.isSome then .error (.misuse ("unexpected argument " ++ path))
  else .ok { draft with trace := some path }

/-- Takes the value of an option. -/
def setOption (draft : Draft) (option value : String) : Except Invocation Draft :=
  if option = "--carrier-config" then
    if draft.config.isSome then .error (.misuse (option ++ " is given twice"))
    else .ok { draft with config := some value }
  else if option = "--sub-id" then
    if draft.subId.isSome then .error (.misuse (option ++ " is given twice"))
    else
      match subId? value with
      | some subId => .ok { draft with subId := some subId }
      | none => .error (.misuse ("invalid value " ++ value ++ " for " ++ option))
  else .error (.misuse ("unexpected argument " ++ option))

/-- Takes arguments that are not options. -/
def takePaths (draft : Draft) : List String → Except Invocation Draft
  | [] => .ok draft
  | path :: paths => do takePaths (← draft.setTrace path) paths

/-- An option and its value, if an argument joins them by an equals sign. -/
def joined? (argument : String) : Option (String × String) :=
  let option := argument.toList.takeWhile (· ≠ '=')
  match argument.toList.drop option.length with
  | [] => none
  | _ :: value => some (String.ofList option, String.ofList value)

/-- Whether an argument looks like an option. A hyphen on its own is a path. -/
def isOption (argument : String) : Bool :=
  argument.startsWith "-" && argument != "-"

/-- Takes all arguments. The value of an option follows it or is joined to it, and after two hyphens
on their own nothing counts as an option. -/
def takeAll (draft : Draft) : List String → Except Invocation Draft
  | [] => .ok draft
  | "--" :: paths => draft.takePaths paths
  | [argument] =>
    if argument = "--help" ∨ argument = "-h" then .error .help
    else if isOption argument then
      match joined? argument with
      | some (option, value) => draft.setOption option value
      | none => .error (.misuse ("a value is missing for " ++ argument))
    else draft.setTrace argument
  | argument :: next :: arguments =>
    if argument = "--help" ∨ argument = "-h" then .error .help
    else if isOption argument then
      match joined? argument with
      | some (option, value) => do takeAll (← draft.setOption option value) (next :: arguments)
      | none =>
        if isOption next then .error (.misuse ("a value is missing for " ++ argument))
        else do takeAll (← draft.setOption argument next) arguments
    else do takeAll (← draft.setTrace argument) (next :: arguments)

end Arguments.Draft

/-- What the arguments of the replay command come to. Without a number, the subscription is the
first. -/
def Invocation.ofArguments (arguments : List String) : Invocation :=
  match Arguments.Draft.empty.takeAll arguments with
  | .error invocation => invocation
  | .ok draft =>
    match draft.trace with
    | none => .misuse "the path of a trace is missing"
    | some trace => .replay ⟨trace, draft.config, draft.subId.getD 1⟩

end CellularRegistration.Replay
