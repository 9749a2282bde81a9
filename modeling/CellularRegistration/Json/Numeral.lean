import CellularRegistration.Json.Value
import CellularRegistration.Text.Numeral

namespace CellularRegistration.Json

/-- A numeral, as it is written. -/
structure Numeral where
  negative : Bool
  whole : List Char
  /-- The digits after the point; none if there is no point. -/
  fraction : List Char
  /-- The exponent, if there is one. -/
  exponent : Option Int

namespace Numeral

/-- The fraction at the front of a text. A point needs a digit after it. -/
def readFraction? : List Char → Option (List Char × List Char)
  | '.' :: s =>
    let digits := s.takeWhile Char.isDigit
    if digits = [] then none else some (digits, s.dropWhile Char.isDigit)
  | s => some ([], s)

/-- The digits of an exponent. -/
def readExponentDigits? (negative : Bool) (s : List Char) : Option (Option Int × List Char) :=
  (Text.natural? (s.takeWhile Char.isDigit)).map fun n =>
    (some (if negative then -(n : Int) else n), s.dropWhile Char.isDigit)

/-- The exponent at the front of a text. Its mark needs a digit after it. -/
def readExponent? : List Char → Option (Option Int × List Char)
  | c :: s =>
    if c = 'e' ∨ c = 'E' then
      match s with
      | '-' :: s => readExponentDigits? true s
      | '+' :: s => readExponentDigits? false s
      | s => readExponentDigits? false s
    else some (none, c :: s)
  | [] => some (none, [])

/-- The numeral at the front of a text, whose sign has been read. A zero in front stands alone. -/
def readUnsigned? (negative : Bool) (s : List Char) : Option (Numeral × List Char) := do
  let whole := s.takeWhile Char.isDigit
  guard (whole ≠ [] ∧ (whole.head? = some '0' → whole = ['0']))
  let (fraction, s) ← readFraction? (s.dropWhile Char.isDigit)
  let (exponent, s) ← readExponent? s
  return (⟨negative, whole, fraction, exponent⟩, s)

/-- The numeral at the front of a text, and the text after it. -/
def read? : List Char → Option (Numeral × List Char)
  | '-' :: s => readUnsigned? true s
  | s => readUnsigned? false s

/-- Appends digits to a number for as long as it fits 64 bits, and counts the digits left over. -/
def significand (n : Nat) : List Char → Nat × Nat
  | [] => (n, 0)
  | c :: digits =>
    let next := 10 * n + (c.toNat - 48)
    if next < UInt64.size then significand next digits else (n, digits.length + 1)

/-- Whether a numeral is too large for a double. Its first digits, as many as fit 64 bits, are
scaled by a power of ten; digits that do not fit count only through that power. -/
def overflows (n : Numeral) : Bool :=
  let (whole, wholeLeft) := significand 0 n.whole
  let (digits, fractionLeft) := significand whole n.fraction
  let scale : Int := wholeLeft + fractionLeft - n.fraction.length + n.exponent.getD 0
  digits != 0 && decide (0 < scale) &&
    (decide (308 < scale) ||
      (digits.toUInt64.toFloat * Float.ofScientific 1 false scale.toNat).isInf)

/-- The integer that a numeral stands for, if it is written as one and fits 64 bits. -/
def integer? (n : Numeral) : Option Int :=
  if n.fraction = [] ∧ n.exponent = none then
    let size := Text.digitsValue n.whole
    if n.negative then
      if 0 < size ∧ size ≤ 9223372036854775808 then some (-(size : Int)) else none
    else
      if size < UInt64.size then some size else none
  else none

/-- A numeral as text, with its exponent, if any, in plain form. -/
def render (n : Numeral) : String :=
  let sign := if n.negative then "-" else ""
  let fraction := if n.fraction = [] then "" else "." ++ String.ofList n.fraction
  let exponent :=
    match n.exponent with
    | some e => "e" ++ toString e
    | none => ""
  sign ++ String.ofList n.whole ++ fraction ++ exponent

/-- The number that a numeral stands for: an integer only if it is written as one and fits 64 bits,
and none if it is too large for a double. -/
def value? (n : Numeral) : Option Json :=
  match n.integer? with
  | some k => some (.int k)
  | none => if n.overflows then none else some (.real n.render)

end Numeral

end CellularRegistration.Json
