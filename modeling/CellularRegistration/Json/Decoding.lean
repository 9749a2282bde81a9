import CellularRegistration.Json.Shape

namespace CellularRegistration

/-- How a value comes to its reader. -/
inductive Reading where
  /-- As it stands in the text. -/
  | direct
  /-- As part of what was gathered to be looked at later: a tagged object before its tag is known,
  or the members of an inner structure. In it a tag may be the position of its variant, and the data
  of a bare name may be an empty object. -/
  | gathered
deriving DecidableEq

/-- What holds the fields of a structure. -/
inductive Body where
  /-- An object's members. -/
  | keyed (members : List (String × Json))
  /-- An array's items. -/
  | positional (items : List Json)

/-- The body in a value, if it is an object or an array. -/
def Body.ofJson? : Json → Option Body
  | .obj members => some (.keyed members)
  | .arr items => some (.positional items)
  | _ => none

/-- What picks a variant. -/
inductive Tag where
  | name (text : String)
  | position (index : Nat)

namespace Tag

/-- The tag in a value. -/
def ofJson? (reading : Reading) : Json → Option Tag
  | .str text => some (name text)
  | .int n => if reading = .gathered ∧ 0 ≤ n then some (position n.toNat) else none
  | _ => none

/-- Whether a tag picks the first of some variants, which has this name. -/
def picks (first : String) : Tag → Bool
  | name text => text == first
  | position index => index == 0

/-- The same tag, for the variants after the first. -/
def next : Tag → Tag
  | name text => name text
  | position index => position (index - 1)

end Tag

/-- Whether a value may stand as the data of a bare name. -/
def Json.isNothing (reading : Reading) : Json → Bool
  | null => true
  | obj [] => reading = .gathered
  | _ => false

/-- The name in a value that is a name, or an object that gives a name no data. -/
def Json.bareName? (reading : Reading) : Json → Option String
  | str name => some name
  | obj [(name, data)] => if data.isNothing reading then some name else none
  | _ => none

/-- The value of a member that is left out and has no default. -/
def Shape.absent? {α : Type} : Shape α → Option α
  | .nullable _ => some none
  | _ => none

mutual

/-- The value that a JSON value stands for. Besides what `Shape.write` writes, an object may hold
members that the shape does not know, a member may be left out if it has a default or may be null, a
structure may stand as the array of its values, and a name as an object with one member. A known
member or tag that is given twice is refused, and nothing is converted. -/
def Shape.read {α : Type} : Shape α → Reading → Json → Option α
  | .flag, _, .bool b => some b
  | .flag, _, _ => none
  | .int word, _, .int n => word.ofInt? n
  | .int _, _, _ => none
  | .text, _, .str s => some s
  | .text, _, _ => none
  | .keyword spelling, reading, j => (j.bareName? reading).bind spelling.find?
  | .nullable _, _, .null => some none
  | .nullable item, reading, j => (item.read reading j).map some
  | .list item, reading, .arr js => js.mapM fun j => item.read reading j
  | .list _, _, _ => none
  | .struct fields, reading, j => (Body.ofJson? j).bind fun body => fields.read reading body
  | .merged own inner, reading, .obj members => do
    let a ← own.read reading (.keyed members)
    let b ← inner.read .gathered (.keyed members)
    return (a, b)
  | .merged _ _, _, _ => none
  | .tagged tag variants, reading, .obj members =>
    match Json.occurrences members tag with
    | [j] => (Tag.ofJson? reading j).bind fun t => variants.read t (.keyed members)
    | _ => none
  | .tagged _ variants, reading, .arr (j :: items) =>
    (Tag.ofJson? reading j).bind fun t => variants.read t (.positional items)
  | .tagged _ _, _, _ => none
  | .union cases, reading, .str name => cases.read reading name .null
  | .union cases, reading, .obj [(name, data)] => cases.read reading name data
  | .union _, _, _ => none
  | .assembled shape assembly, reading, j => (shape.read reading j).map assembly.build

/-- The structure that a body stands for. -/
def Fields.read {α : Type} : Fields α → Reading → Body → Option α
  | .empty, _, .keyed _ => some ()
  | .empty, _, .positional [] => some ()
  | .empty, _, .positional (_ :: _) => none
  | .field name shape default rest, reading, .keyed members => do
    let a ←
      match Json.occurrences members name with
      | [] => default <|> shape.absent?
      | [j] => shape.read reading j
      | _ => none
    let b ← rest.read reading (.keyed members)
    return (a, b)
  | .field _ _ default rest, reading, .positional [] => do
    let a ← default
    let b ← rest.read reading (.positional [])
    return (a, b)
  | .field _ shape _ rest, reading, .positional (j :: items) => do
    let a ← shape.read reading j
    let b ← rest.read reading (.positional items)
    return (a, b)
  | .assembled fields assembly, reading, body => (fields.read reading body).map assembly.build

/-- The variant that a tag picks, with the fields in a body. -/
def Variants.read {α : Type} : Variants α → Tag → Body → Option α
  | .empty, _, _ => none
  | .variant name fields rest, tag, body =>
    if tag.picks name then (fields.read .gathered body).map .inl
    else (rest.read tag.next body).map .inr
  | .assembled variants assembly, tag, body => (variants.read tag body).map assembly.build

/-- The case of this name, with this data. A name on its own has the data null. -/
def Cases.read {α : Type} : Cases α → Reading → String → Json → Option α
  | .empty, _, _, _ => none
  | .bare first rest, reading, name, data =>
    if name == first then
      if data.isNothing reading then some (.inl ()) else none
    else (rest.read reading name data).map .inr
  | .data first fields rest, reading, name, data =>
    if name == first then
      (Body.ofJson? data).bind fun body => (fields.read reading body).map .inl
    else (rest.read reading name data).map .inr
  | .assembled cases assembly, reading, name, data =>
    (cases.read reading name data).map assembly.build

end

/-- The value that a JSON value stands for, as it stands in a text. -/
def Shape.decode {α : Type} (shape : Shape α) (j : Json) : Option α :=
  shape.read .direct j

end CellularRegistration
