import CellularRegistration.Json.Literal
import CellularRegistration.Json.Numeral

namespace CellularRegistration

/-- A JSON text that follows the grammar of RFC 8259. Whether a part of it stands for a value only
matters where the part is looked at. -/
inductive Draft where
  /-- A part that stands for no value: a number too large for a double, a string with a surrogate on
  its own, or what is nested too deep. -/
  | unreadable
  /-- A part that is neither array nor object. -/
  | scalar (value : Json)
  | arr (items : List Draft)
  | obj (members : List (String × Draft))

namespace Draft

mutual

/-- The value of a draft all of whose parts stand for values. -/
def value? : Draft → Option Json
  | unreadable => none
  | scalar value => some value
  | arr items => (valueItems? items).map .arr
  | obj members => (valueMembers? members).map .obj

/-- The values of the items of an array. -/
def valueItems? : List Draft → Option (List Json)
  | [] => some []
  | item :: items => do return (← value? item) :: (← valueItems? items)

/-- The values of the members of an object. -/
def valueMembers? : List (String × Draft) → Option (List (String × Json))
  | [] => some []
  | (name, draft) :: members => do return (name, ← value? draft) :: (← valueMembers? members)

end

/-- Drops the blanks that may stand between the parts of a text. -/
def skipBlank (s : List Char) : List Char :=
  s.dropWhile fun c => c == ' ' || c == '\t' || c == '\n' || c == '\r'

/-- How deep arrays and objects may be nested. -/
def maxDepth : Nat := 127

/-- A string as a draft. -/
def ofPieces (pieces : List Json.Piece) : Draft :=
  match Json.textOf? pieces with
  | some text => scalar (.str (String.ofList text))
  | none => unreadable

/-- An object as a draft. A name that is no text leaves the whole object without a value. -/
def ofMembers (members : List (List Json.Piece × Draft)) : Draft :=
  let named := members.mapM fun (name, draft) =>
    (Json.textOf? name).map fun text => (String.ofList text, draft)
  match named with
  | some members => obj members
  | none => unreadable

/-- A literal word or a numeral at the front of a text. -/
def readPlain? (s : List Char) : Option (Draft × List Char) :=
  match s with
  | 'n' :: 'u' :: 'l' :: 'l' :: s => some (scalar .null, s)
  | 't' :: 'r' :: 'u' :: 'e' :: s => some (scalar (.bool true), s)
  | 'f' :: 'a' :: 'l' :: 's' :: 'e' :: s => some (scalar (.bool false), s)
  | s => do
    let (numeral, s) ← Json.Numeral.read? s
    match numeral.value? with
    | some value => return (scalar value, s)
    | none => return (unreadable, s)

mutual

/-- The part at the front of a text, with room for `room` more levels of nesting. The fuel bounds
the number of calls within calls. -/
def read? : (fuel room : Nat) → List Char → Option (Draft × List Char)
  | 0, _, _ => none
  | fuel + 1, room, s =>
    match skipBlank s with
    | '[' :: s => do
      let (items, s) ←
        match skipBlank s with
        | ']' :: s => some ([], s)
        | s => readItems? fuel (room - 1) s
      return (if room = 0 then unreadable else arr items, s)
    | '\x7b' :: s => do
      let (members, s) ←
        match skipBlank s with
        | '\x7d' :: s => some ([], s)
        | s => readMembers? fuel (room - 1) s
      return (if room = 0 then unreadable else ofMembers members, s)
    | '"' :: s => do
      let (pieces, s) ← Json.pieces? s
      return (ofPieces pieces, s)
    | s => readPlain? s

/-- The items of an array up to its end. -/
def readItems? : (fuel room : Nat) → List Char → Option (List Draft × List Char)
  | 0, _, _ => none
  | fuel + 1, room, s => do
    let (item, s) ← read? fuel room s
    match skipBlank s with
    | ',' :: s =>
      let (items, s) ← readItems? fuel room s
      return (item :: items, s)
    | ']' :: s => return ([item], s)
    | _ => none

/-- The members of an object up to its end. -/
def readMembers? : (fuel room : Nat) → List Char →
    Option (List (List Json.Piece × Draft) × List Char)
  | 0, _, _ => none
  | fuel + 1, room, s => do
    match skipBlank s with
    | '"' :: s =>
      let (name, s) ← Json.pieces? s
      match skipBlank s with
      | ':' :: s =>
        let (draft, s) ← read? fuel room s
        match skipBlank s with
        | ',' :: s =>
          let (members, s) ← readMembers? fuel room s
          return ((name, draft) :: members, s)
        | '\x7d' :: s => return ([(name, draft)], s)
        | _ => none
      | _ => none
    | _ => none

end

/-- The draft of a text. A call uses up a character or is the first call within one that did, so
twice the length of the text is fuel enough. -/
def ofText? (text : String) : Option Draft :=
  let s := text.toList
  match read? (2 * s.length + 2) maxDepth s with
  | some (draft, rest) => if skipBlank rest = [] then some draft else none
  | none => none

end Draft

/-- The value of a JSON text. -/
def Json.ofText? (text : String) : Option Json :=
  (Draft.ofText? text).bind Draft.value?

end CellularRegistration
