import CellularRegistration.Toml.Datetime
import CellularRegistration.Toml.Value

namespace CellularRegistration.Toml

/-- The date, time of day or moment that a whole text stands for. -/
def Datetime.ofText? (text : String) : Option Datetime :=
  match read? text.toList with
  | some (d, []) => some d
  | _ => none

/-- The key that is reserved for the text of a date or time, in a table that has no other key. -/
def datetimeKey : String := "$__toml_private_datetime"

/-- Whether the reserved key is the first one of a table in the order of the keys. If so, the table
has to stand for a date or time; where another key comes first, the reserved one is ordinary. -/
def leadsWithDatetime (entries : List (String × Toml)) : Bool :=
  entries.any (fun (key, _) => key == datetimeKey) &&
    entries.all fun (key, _) => !decide (key < datetimeKey)

/-- The date or time that a table led by the reserved key stands for. -/
def datetimeOf? : List (String × Toml) → Option Toml
  | [(_, string text)] => (Datetime.ofText? text).map fun d => datetime d.render
  | _ => none

mutual

/-- A value with a date or time in the place of each table that stands for one. -/
def settle? : Toml → Option Toml
  | array items => (settleItems? items).map array
  | table entries =>
    if leadsWithDatetime entries then datetimeOf? entries else (settleEntries? entries).map table
  | value => some value

/-- The items of an array, each settled. -/
def settleItems? : List Toml → Option (List Toml)
  | [] => some []
  | item :: items => do return (← settle? item) :: (← settleItems? items)

/-- The entries of a table, each with its value settled. -/
def settleEntries? : List (String × Toml) → Option (List (String × Toml))
  | [] => some []
  | (key, value) :: entries => do return (key, ← settle? value) :: (← settleEntries? entries)

end

end CellularRegistration.Toml
