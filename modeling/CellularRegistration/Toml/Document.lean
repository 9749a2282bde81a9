import CellularRegistration.Toml.Grammar
import CellularRegistration.Toml.Reserved

namespace CellularRegistration.Toml

/-- How a table came to be. -/
inductive Opening where
  /-- By a header of its own. -/
  | header
  /-- On the way to the table of some header. -/
  | onTheWay
  /-- By a dotted key. -/
  | dottedKey
deriving DecidableEq

/-- A part of a document that is being read. -/
inductive Node where
  /-- A value that nothing can be added to. -/
  | closed (value : Toml)
  | table (opening : Opening) (entries : List (String × Node))
  /-- An array of tables; headers go on with its last element. -/
  | tables (elements : List (List (String × Node)))

/-- The entries of a table that is being read. -/
abbrev Entries := List (String × Node)

mutual

/-- The value of a part of a document. -/
def Node.value : Node → Toml
  | .closed value => value
  | .table _ entries => .table (Entries.values entries)
  | .tables elements => .array (Entries.elementValues elements)

/-- The values of the entries of a table. -/
def Entries.values : List (String × Node) → List (String × Toml)
  | [] => []
  | (name, node) :: entries => (name, node.value) :: Entries.values entries

/-- The values of the elements of an array of tables. -/
def Entries.elementValues : List (List (String × Node)) → List Toml
  | [] => []
  | entries :: elements => .table (Entries.values entries) :: Entries.elementValues elements

end

namespace Entries

/-- The part of a table with this name. -/
def find? (entries : Entries) (name : String) : Option Node :=
  (List.find? (fun (key, _) => key == name) entries).map Prod.snd

/-- Puts a part in the place of the one that has its name. -/
def replace (entries : Entries) (name : String) (node : Node) : Entries :=
  entries.map fun (key, old) => if key == name then (key, node) else (key, old)

/-- Changes the last of some tables. -/
def updateLast? (f : Entries → Option Entries) : List Entries → Option (List Entries)
  | [] => none
  | [entries] => (f entries).map fun entries => [entries]
  | entries :: elements => (updateLast? f elements).map (entries :: ·)

/-- Assigns a value to a dotted key. The tables on the way are opened by dotted keys; a table that a
header opened is passed only if its header was for a table within, and does not take the value. -/
def assign? (name : String) (value : Toml) : (parents : List String) → Entries → Option Entries
  | [], entries =>
    if (entries.find? name).isSome then none else some (entries ++ [(name, .closed value)])
  | parent :: parents, entries =>
    match entries.find? parent with
    | none => do
      let inner ← assign? name value parents []
      return entries ++ [(parent, .table .dottedKey inner)]
    | some (.table opening inner) => do
      guard (opening ≠ .header ∧ (parents = [] → opening = .dottedKey))
      let inner ← assign? name value parents inner
      return entries.replace parent (.table opening inner)
    | some (.tables elements) => do
      guard (parents ≠ [])
      let elements ← updateLast? (assign? name value parents) elements
      return entries.replace parent (.tables elements)
    | some (.closed _) => none

/-- Changes the entries of the table that a header's parents lead to. Tables on the way that are
missing are opened. -/
def descend? (change : Entries → Option Entries) :
    (parents : List String) → Entries → Option Entries
  | [], entries => change entries
  | parent :: parents, entries =>
    match entries.find? parent with
    | none => do
      let inner ← descend? change parents []
      return entries ++ [(parent, .table .onTheWay inner)]
    | some (.table opening inner) => do
      let inner ← descend? change parents inner
      return entries.replace parent (.table opening inner)
    | some (.tables elements) => do
      let elements ← updateLast? (descend? change parents) elements
      return entries.replace parent (.tables elements)
    | some (.closed _) => none

/-- Opens the table of a header and fills it. -/
def openTable? (name : String) (fill : Entries → Option Entries) (entries : Entries) :
    Option Entries :=
  match entries.find? name with
  | none => do return entries ++ [(name, .table .header (← fill []))]
  | some (.table .onTheWay inner) => do
    return entries.replace name (.table .header (← fill inner))
  | _ => none

/-- Adds an element to an array of tables and fills it. -/
def openElement? (name : String) (fill : Entries → Option Entries) (entries : Entries) :
    Option Entries :=
  match entries.find? name with
  | none => do return entries ++ [(name, .tables [← fill []])]
  | some (.tables elements) => do
    return entries.replace name (.tables (elements ++ [← fill []]))
  | _ => none

end Entries

mutual

/-- The value of an expression. -/
def Expr.evaluate? : Expr → Option Toml
  | .plain value => some value
  | .array items => (Expr.evaluateItems? items).map .array
  | .inlineTable assignments =>
    (Expr.assignAll? assignments []).map fun entries => .table (Entries.values entries)

/-- The values of the items of an array. -/
def Expr.evaluateItems? : List Expr → Option (List Toml)
  | [] => some []
  | item :: items => do return (← item.evaluate?) :: (← Expr.evaluateItems? items)

/-- Carries out assignments in a table, one after the other. -/
def Expr.assignAll? : List (Key × Expr) → Entries → Option Entries
  | [], entries => some entries
  | (key, value) :: assignments, entries => do
    let value ← value.evaluate?
    let entries ← entries.assign? key.name value key.parents
    Expr.assignAll? assignments entries

end

/-- Adds a section to a document. -/
def Section.addTo? (part : Section) (document : Entries) : Option Entries :=
  let fill := Expr.assignAll? part.assignments
  match part.header with
  | .root => fill document
  | .table key => document.descend? (Entries.openTable? key.name fill) key.parents
  | .element key => document.descend? (Entries.openElement? key.name fill) key.parents

/-- The top-level entries of a TOML document, if it is one, with dates and times in either spelling.
Headers and dotted keys open tables on their way, but a table is defined only once: a second header
for it, a dotted key into a table that a header opened, and anything that would reach into an array
or an inline table are refused. -/
def read? (text : String) : Option (List (String × Toml)) := do
  let parts ← Section.readAll? text
  let document ← parts.foldlM (fun document part => part.addTo? document) ([] : Entries)
  settleEntries? (Entries.values document)

end CellularRegistration.Toml
