import CellularRegistration.Text.Hexadecimal

namespace CellularRegistration.Toml

/-- Whether a character may stand in a comment or, unless it closes the string, in a string. -/
def isPlain (c : Char) : Bool :=
  c == '\t' || (0x20 ≤ c.toNat && c.toNat != 0x7F)

/-- Whether a character separates the parts of a line. -/
def isSpace (c : Char) : Bool :=
  c == ' ' || c == '\t'

/-- The text after a line break that stands at the front. -/
def lineBreak? : List Char → Option (List Char)
  | '\n' :: s => some s
  | '\r' :: '\n' :: s => some s
  | _ => none

/-- The text after a line break, if one stands at the front. -/
def skipLineBreak (s : List Char) : List Char :=
  (lineBreak? s).getD s

/-- The character with a number, if there is one. -/
def scalar? (n : Nat) : Option Char :=
  if n < 0xD800 ∨ (0xDFFF < n ∧ n < 0x110000) then some (Char.ofNat n) else none

/-- A number of exactly `width` hexadecimal digits at the front of a text. -/
def readHex? : (width value : Nat) → List Char → Option (Nat × List Char)
  | 0, value, s => some (value, s)
  | _ + 1, _, [] => none
  | width + 1, value, c :: s => do readHex? width (16 * value + (← Text.hexDigit? c)) s

/-- An escape whose backslash has been read. -/
def readEscape? : List Char → Option (Char × List Char)
  | 'b' :: s => some ('\x08', s)
  | 't' :: s => some ('\t', s)
  | 'n' :: s => some ('\n', s)
  | 'f' :: s => some ('\x0c', s)
  | 'r' :: s => some ('\r', s)
  | 'e' :: s => some ('\x1b', s)
  | '"' :: s => some ('"', s)
  | '\\' :: s => some ('\\', s)
  | 'x' :: s => do
    let (n, s) ← readHex? 2 0 s
    return (← scalar? n, s)
  | 'u' :: s => do
    let (n, s) ← readHex? 4 0 s
    return (← scalar? n, s)
  | 'U' :: s => do
    let (n, s) ← readHex? 8 0 s
    return (← scalar? n, s)
  | _ => none

/-- White space and line breaks at the front of a text, dropped. -/
def skipFold : List Char → List Char
  | ' ' :: s | '\t' :: s | '\n' :: s => skipFold s
  | '\r' :: '\n' :: s => skipFold s
  | s => s

/-- The text after a fold whose backslash has been read: nothing but white space may stand before
the end of the line. -/
def fold? (s : List Char) : Option (List Char) :=
  (lineBreak? (s.dropWhile isSpace)).map skipFold

/-- The rest of a basic string on one line. Every call uses up a character. -/
def readBasic? : (fuel : Nat) → List Char → Option (List Char × List Char)
  | 0, _ => none
  | fuel + 1, s =>
    match s with
    | [] => none
    | '"' :: s => some ([], s)
    | '\\' :: s => do
      let (c, s) ← readEscape? s
      let (text, s) ← readBasic? fuel s
      return (c :: text, s)
    | c :: s => do
      guard (isPlain c)
      let (text, s) ← readBasic? fuel s
      return (c :: text, s)

/-- The rest of a basic string over several lines. Up to two quotes may stand before the closing
ones. Every call uses up a character. -/
def readMultilineBasic? : (fuel : Nat) → List Char → Option (List Char × List Char)
  | 0, _ => none
  | fuel + 1, s =>
    match s with
    | [] => none
    | '"' :: '"' :: '"' :: '"' :: '"' :: s => some (['"', '"'], s)
    | '"' :: '"' :: '"' :: '"' :: s => some (['"'], s)
    | '"' :: '"' :: '"' :: s => some ([], s)
    | '\\' :: s =>
      match fold? s with
      | some s => readMultilineBasic? fuel s
      | none => do
        let (c, s) ← readEscape? s
        let (text, s) ← readMultilineBasic? fuel s
        return (c :: text, s)
    | '\r' :: '\n' :: s => do
      let (text, s) ← readMultilineBasic? fuel s
      return ('\r' :: '\n' :: text, s)
    | c :: s => do
      guard (isPlain c ∨ c = '\n')
      let (text, s) ← readMultilineBasic? fuel s
      return (c :: text, s)

/-- The rest of a literal string on one line. -/
def readLiteral? : List Char → Option (List Char × List Char)
  | [] => none
  | '\x27' :: s => some ([], s)
  | c :: s => do
    guard (isPlain c)
    let (text, s) ← readLiteral? s
    return (c :: text, s)

/-- The rest of a literal string over several lines. Up to two apostrophes may stand before the
closing ones. -/
def readMultilineLiteral? : List Char → Option (List Char × List Char)
  | [] => none
  | '\x27' :: '\x27' :: '\x27' :: '\x27' :: '\x27' :: s => some (['\x27', '\x27'], s)
  | '\x27' :: '\x27' :: '\x27' :: '\x27' :: s => some (['\x27'], s)
  | '\x27' :: '\x27' :: '\x27' :: s => some ([], s)
  | '\r' :: '\n' :: s => do
    let (text, s) ← readMultilineLiteral? s
    return ('\r' :: '\n' :: text, s)
  | c :: s => do
    guard (isPlain c ∨ c = '\n')
    let (text, s) ← readMultilineLiteral? s
    return (c :: text, s)

/-- A string on one line at the front of a text. -/
def readLine? : List Char → Option (List Char × List Char)
  | '"' :: s => readBasic? s.length s
  | '\x27' :: s => readLiteral? s
  | _ => none

/-- A string at the front of a text. A basic one stands between double quotes and knows escapes, a
literal one stands between apostrophes and knows none. With three quotes either may run over several
lines, and a line break right after the opening ones does not count. -/
def readString? : List Char → Option (List Char × List Char)
  | '"' :: '"' :: '"' :: s =>
    let s := skipLineBreak s
    readMultilineBasic? s.length s
  | '\x27' :: '\x27' :: '\x27' :: s => readMultilineLiteral? (skipLineBreak s)
  | s => readLine? s

end CellularRegistration.Toml
