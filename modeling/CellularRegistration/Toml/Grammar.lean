import CellularRegistration.Toml.Datetime
import CellularRegistration.Toml.Number
import CellularRegistration.Toml.Quoted

namespace CellularRegistration.Toml

/-- A dotted key: the tables that lead to it, and its own name. -/
structure Key where
  parents : List String
  name : String

/-- A value as it is written. What dotted keys mean for each other is not a matter of grammar, so an
inline table lists its assignments. -/
inductive Expr where
  | plain (value : Toml)
  | array (items : List Expr)
  | inlineTable (assignments : List (Key × Expr))

/-- What a section's assignments are for. -/
inductive Header where
  /-- The document itself. -/
  | root
  | table (key : Key)
  /-- A new last element of an array of tables. -/
  | element (key : Key)

/-- A header and the assignments after it. -/
structure Section where
  header : Header
  assignments : List (Key × Expr)

/-- The text after a comment, if one stands at the front; it ends before the line break. -/
def skipComment? (s : List Char) : Option (List Char) :=
  match s with
  | '#' :: s =>
    let rest := s.dropWhile isPlain
    if rest = [] ∨ (lineBreak? rest).isSome then some rest else none
  | s => some s

/-- The text after white space, comments and line breaks. Every call uses up a character. -/
def skipFiller? : (fuel : Nat) → List Char → Option (List Char)
  | 0, s => some s
  | fuel + 1, s => do
    let s ← skipComment? (s.dropWhile isSpace)
    match lineBreak? s with
    | some s => skipFiller? fuel s
    | none => some s

/-- The text at the start of the next line, if nothing but a comment stands on this one. -/
def endLine? (s : List Char) : Option (List Char) := do
  let s ← skipComment? (s.dropWhile isSpace)
  if s = [] then some [] else lineBreak? s

/-- The text after `c`, before which there may be white space. -/
def expectMark? (c : Char) (s : List Char) : Option (List Char) :=
  Datetime.expect? c (s.dropWhile isSpace)

/-- Whether a character may stand in a key without quotes. -/
def isBare (c : Char) : Bool :=
  c.isAlphanum || c == '_' || c == '-'

/-- A key without dots at the front of a text. -/
def readSimpleKey? (s : List Char) : Option (String × List Char) :=
  match readLine? s with
  | some (text, s) => some (String.ofList text, s)
  | none =>
    let name := s.takeWhile isBare
    if name = [] then none else some (String.ofList name, s.dropWhile isBare)

/-- How many names a dotted key may have. -/
def maxNames : Nat := 80

/-- A dotted key of at most `room` names at the front of a text, and the text after it. -/
def readKey? : (room : Nat) → List Char → Option (Key × List Char)
  | 0, _ => none
  | room + 1, s => do
    let (name, s) ← readSimpleKey? (s.dropWhile isSpace)
    match expectMark? '.' s with
    | some s =>
      let (key, s) ← readKey? room s
      return (⟨name :: key.parents, key.name⟩, s)
    | none => return (⟨[], name⟩, s)

/-- A value that holds no others, at the front of a text. -/
def readScalar? (s : List Char) : Option (Toml × List Char) :=
  match s with
  | 't' :: 'r' :: 'u' :: 'e' :: s => some (.boolean true, s)
  | 'f' :: 'a' :: 'l' :: 's' :: 'e' :: s => some (.boolean false, s)
  | '"' :: _ | '\x27' :: _ => (readString? s).map fun (text, s) => (.string (String.ofList text), s)
  | s =>
    if Datetime.beginsDate s || Datetime.beginsTime s then
      (Datetime.read? s).map fun (d, s) => (.datetime d.render, s)
    else readNumber? s

/-- How deep arrays and inline tables may be nested. -/
def maxDepth : Nat := 80

mutual

/-- A value at the front of a text, with room for `room` more levels of nesting. The fuel bounds
the number of calls within calls. -/
def readExpr? : (fuel room : Nat) → List Char → Option (Expr × List Char)
  | 0, _, _ => none
  | fuel + 1, room, s =>
    match s with
    | '[' :: s => do
      guard (0 < room)
      let (items, s) ← readItems? fuel (room - 1) s
      return (.array items, s)
    | '\x7b' :: s => do
      guard (0 < room)
      let (assignments, s) ← readAssignments? fuel (room - 1) s
      return (.inlineTable assignments, s)
    | s => (readScalar? s).map fun (v, s) => (.plain v, s)

/-- The items of an array up to its end. A comma may follow the last one. -/
def readItems? : (fuel room : Nat) → List Char → Option (List Expr × List Char)
  | 0, _, _ => none
  | fuel + 1, room, s => do
    match ← skipFiller? s.length s with
    | ']' :: s => return ([], s)
    | s =>
      let (item, s) ← readExpr? fuel room s
      match ← skipFiller? s.length s with
      | ',' :: s =>
        let (items, s) ← readItems? fuel room s
        return (item :: items, s)
      | ']' :: s => return ([item], s)
      | _ => none

/-- The assignments of an inline table up to its end. A comma may follow the last one. Between the
parts of an assignment, though not within its key, there may be line breaks. -/
def readAssignments? : (fuel room : Nat) → List Char → Option (List (Key × Expr) × List Char)
  | 0, _, _ => none
  | fuel + 1, room, s => do
    match ← skipFiller? s.length s with
    | '\x7d' :: s => return ([], s)
    | s =>
      let (key, s) ← readKey? maxNames s
      let s ← Datetime.expect? '=' (← skipFiller? s.length s)
      let (value, s) ← readExpr? fuel room (← skipFiller? s.length s)
      match ← skipFiller? s.length s with
      | ',' :: s =>
        let (assignments, s) ← readAssignments? fuel room s
        return ((key, value) :: assignments, s)
      | '\x7d' :: s => return ([(key, value)], s)
      | _ => none

end

/-- A key, an equals sign and a value, which fill a line. -/
def readAssignment? (s : List Char) : Option ((Key × Expr) × List Char) := do
  let (key, s) ← readKey? maxNames s
  let s ← expectMark? '=' s
  let (value, s) ← readExpr? (2 * s.length + 2) maxDepth (s.dropWhile isSpace)
  return ((key, value), ← endLine? s)

/-- A header whose first bracket has been read, which fills the line. -/
def readHeader? (s : List Char) : Option (Header × List Char) :=
  match s with
  | '[' :: s => do
    let (key, s) ← readKey? maxNames s
    let s ← Datetime.expect? ']' (← expectMark? ']' s)
    return (.element key, ← endLine? s)
  | s => do
    let (key, s) ← readKey? maxNames s
    let s ← expectMark? ']' s
    return (.table key, ← endLine? s)

/-- The section under a header, and those after it. Every call uses up a character or is the last
one. -/
def readSections? (header : Header) (assignments : List (Key × Expr)) :
    (fuel : Nat) → List Char → Option (List Section)
  | 0, _ => none
  | fuel + 1, s => do
    match ← skipFiller? s.length s with
    | [] => return [⟨header, assignments⟩]
    | '[' :: s =>
      let (next, s) ← readHeader? s
      return ⟨header, assignments⟩ :: (← readSections? next [] fuel s)
    | s =>
      let (assignment, s) ← readAssignment? s
      readSections? header (assignments ++ [assignment]) fuel s

/-- The sections of a document: the assignments before the first header, and for each header those
after it. A byte order mark may stand at the front. -/
def Section.readAll? (text : String) : Option (List Section) :=
  let s := text.toList
  let s := if s.head? = some '\uFEFF' then s.tail else s
  readSections? .root [] (s.length + 1) s

end CellularRegistration.Toml
