namespace CellularRegistration

/-- A TOML value. A date or time is kept as its normal text, a floating-point number by its IEEE 754
bits, so that not-a-numbers and signed zeros stay apart. -/
inductive Toml where
  | string (text : String)
  | integer (value : Int64)
  | float (bits : UInt64)
  | boolean (value : Bool)
  | datetime (text : String)
  | array (items : List Toml)
  | table (entries : List (String × Toml))
deriving Inhabited

namespace Toml

/-- A text, if the value is one. -/
def string? : Toml → Option String
  | string text => some text
  | _ => none

/-- The texts of an array that holds texts only. -/
def strings? : Toml → Option (List String)
  | array items => items.mapM string?
  | _ => none

end Toml

end CellularRegistration
