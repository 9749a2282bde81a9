namespace CellularRegistration

/-- A JSON value. An object is the list of its members as they were written, so that their order and
repeated names can be seen. -/
inductive Json where
  | null
  | bool (value : Bool)
  /-- A number written as an integer, from `-2 ^ 63` to `2 ^ 64 - 1`. Minus zero is none. -/
  | int (value : Int)
  /-- Any other number, by its numeral. -/
  | real (numeral : String)
  | str (text : String)
  | arr (items : List Json)
  | obj (members : List (String × Json))
deriving Inhabited, BEq

namespace Json

/-- The values that an object gives a name, in order. -/
def occurrences (members : List (String × Json)) (name : String) : List Json :=
  (members.filter fun (key, _) => key == name).map Prod.snd

/-- A member of an object; the first one, if the name is repeated. -/
def get? (j : Json) (name : String) : Option Json :=
  match j with
  | obj members => (occurrences members name).head?
  | _ => none

end Json

end CellularRegistration
