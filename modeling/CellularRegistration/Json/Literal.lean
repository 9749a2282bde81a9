import CellularRegistration.Text.Hexadecimal

namespace CellularRegistration.Json

/-- A piece of a string literal. -/
inductive Piece where
  /-- A character, bare or escaped by a letter. -/
  | char (c : Char)
  /-- An escape by the number of a UTF-16 code unit. -/
  | unit (n : Nat)

/-- The character that a letter stands for after a backslash. -/
def unescape? : Char → Option Char
  | '"' => some '"'
  | '\\' => some '\\'
  | '/' => some '/'
  | 'b' => some '\x08'
  | 'f' => some '\x0c'
  | 'n' => some '\n'
  | 'r' => some '\r'
  | 't' => some '\t'
  | _ => none

/-- The number written by four hexadecimal digits. -/
def codeUnit? (a b c d : Char) : Option Nat := do
  let a ← Text.hexDigit? a
  let b ← Text.hexDigit? b
  let c ← Text.hexDigit? c
  let d ← Text.hexDigit? d
  return ((a * 16 + b) * 16 + c) * 16 + d

/-- The pieces of a literal whose first quote has been read, and the text after its last. -/
def pieces? : List Char → Option (List Piece × List Char)
  | [] => none
  | '"' :: s => some ([], s)
  | '\\' :: 'u' :: a :: b :: c :: d :: s => do
    let n ← codeUnit? a b c d
    let (pieces, s) ← pieces? s
    return (.unit n :: pieces, s)
  | '\\' :: c :: s => do
    let c ← unescape? c
    let (pieces, s) ← pieces? s
    return (.char c :: pieces, s)
  | c :: s => do
    guard (0x20 ≤ c.toNat ∧ c ≠ '\\')
    let (pieces, s) ← pieces? s
    return (.char c :: pieces, s)

/-- Whether a code unit opens a surrogate pair. -/
def isLeading (n : Nat) : Bool :=
  0xD800 ≤ n && n < 0xDC00

/-- Whether a code unit closes a surrogate pair. -/
def isTrailing (n : Nat) : Bool :=
  0xDC00 ≤ n && n < 0xE000

/-- The character of a surrogate pair. -/
def pairedChar (leading trailing : Nat) : Char :=
  Char.ofNat (0x10000 + (leading - 0xD800) * 0x400 + (trailing - 0xDC00))

/-- The text of a literal. Two numbered escapes that form a surrogate pair are one character; a
literal in which a surrogate stands alone has no text. -/
def textOf? : List Piece → Option (List Char)
  | [] => some []
  | .char c :: pieces => (textOf? pieces).map (c :: ·)
  | .unit n :: pieces =>
    if isLeading n then
      match pieces with
      | .unit m :: pieces =>
        if isTrailing m then (textOf? pieces).map (pairedChar n m :: ·) else none
      | _ => none
    else if isTrailing n then none
    else (textOf? pieces).map (Char.ofNat n :: ·)

end CellularRegistration.Json
