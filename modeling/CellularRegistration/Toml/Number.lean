import CellularRegistration.Text.Hexadecimal
import CellularRegistration.Text.Numeral
import CellularRegistration.Toml.Value
import CellularRegistration.Word

namespace CellularRegistration.Toml

/-- The digits at the front of a text, with single underscores between them dropped. There is none
if an underscore does not stand between two digits. -/
def readGrouped (isDigit : Char → Bool) : List Char → Option (List Char × List Char)
  | [] => none
  | c :: s =>
    if isDigit c then
      match s with
      | '_' :: s => (readGrouped isDigit s).map fun (digits, s) => (c :: digits, s)
      | d :: s =>
        if isDigit d then (readGrouped isDigit (d :: s)).map fun (digits, s) => (c :: digits, s)
        else some ([c], d :: s)
      | [] => some ([c], [])
    else none

/-- The value of digits in a base. -/
def valueInBase (base : Nat) (digits : List Char) : Nat :=
  digits.foldl (fun n c => base * n + (Text.hexDigit? c).getD 0) 0

/-- The integer with this value, if it fits 64 bits. -/
def integer? (n : Int) : Option Toml :=
  (Word.int64.ofInt? n).map .integer

/-- An integer in another base than ten, whose mark has been read. -/
def readInBase? (base : Nat) (s : List Char) : Option (Toml × List Char) := do
  let (digits, s) ← readGrouped (fun c => (Text.hexDigit? c).any (· < base)) s
  return (← integer? (valueInBase base digits), s)

/-- Where the sign stands in the bits of a double. -/
def signBit : UInt64 := 0x8000000000000000

/-- The bits of a double with this sign. -/
def signed (negative : Bool) (bits : UInt64) : UInt64 :=
  if negative then bits ||| signBit else bits

/-- The bits of infinity. -/
def infinityBits : UInt64 := 0x7ff0000000000000

/-- The bits of not-a-number. -/
def nanBits : UInt64 := 0x7ff8000000000000

/-- The bits of the double nearest to a number of digits scaled by a power of ten, if it is not too
large for one. Powers so large or small that no double comes near are not computed. -/
def nearestBits? (digits : List Char) (scale : Int) : Option UInt64 :=
  let significant := digits.dropWhile (· == '0')
  let size : Int := significant.length + scale
  if significant = [] ∨ size < -400 then some 0
  else if 400 < size then none
  else
    let n := Text.digitsValue significant
    let x := Float.ofScientific n (scale < 0) scale.natAbs
    if x.isInf then none else some x.toBits

/-- The fraction at the front of a text, or no digits if there is none. -/
def readFractionPart? : List Char → Option (List Char × List Char)
  | '.' :: s => readGrouped Char.isDigit s
  | s => some ([], s)

/-- The exponent at the front of a text, if there is one. -/
def readExponentPart? (s : List Char) : Option (Option Int × List Char) :=
  match s with
  | c :: s =>
    if c = 'e' ∨ c = 'E' then
      let (negative, s) :=
        match s with
        | '-' :: s => (true, s)
        | '+' :: s => (false, s)
        | s => (false, s)
      (readGrouped Char.isDigit s).map fun (digits, s) =>
        let n : Int := Text.digitsValue digits
        (some (if negative then -n else n), s)
    else some (none, c :: s)
  | [] => some (none, [])

/-- A decimal number, whose sign has been read. -/
def readDecimal? (negative : Bool) (s : List Char) : Option (Toml × List Char) := do
  let (whole, s) ← readGrouped Char.isDigit s
  guard (whole.head? = some '0' → whole = ['0'])
  let (fraction, s) ← readFractionPart? s
  let (exponent, s) ← readExponentPart? s
  if fraction = [] ∧ exponent = none then
    let n : Int := Text.digitsValue whole
    return (← integer? (if negative then -n else n), s)
  else
    let scale : Int := exponent.getD 0 - fraction.length
    let bits ← nearestBits? (whole ++ fraction) scale
    return (.float (signed negative bits), s)

/-- A number after its sign, which may also be infinity or not-a-number. -/
def readUnsigned? (negative : Bool) (s : List Char) : Option (Toml × List Char) :=
  match s with
  | 'i' :: 'n' :: 'f' :: s => some (.float (signed negative infinityBits), s)
  | 'n' :: 'a' :: 'n' :: s => some (.float (signed negative nanBits), s)
  | s => readDecimal? negative s

/-- A number at the front of a text. An integer is decimal with an optional sign and no leading
zero, or hexadecimal, octal or binary without a sign, and has to fit 64 bits. A decimal number with
a fraction or an exponent is the double nearest to it, and must not be too large for one. -/
def readNumber? (s : List Char) : Option (Toml × List Char) :=
  match s with
  | '0' :: 'x' :: s => readInBase? 16 s
  | '0' :: 'o' :: s => readInBase? 8 s
  | '0' :: 'b' :: s => readInBase? 2 s
  | '-' :: s => readUnsigned? true s
  | '+' :: s => readUnsigned? false s
  | s => readUnsigned? false s

end CellularRegistration.Toml
