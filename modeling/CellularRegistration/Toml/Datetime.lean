import CellularRegistration.Text.Numeral

namespace CellularRegistration.Toml

/-- A day. -/
structure Date where
  year : Nat
  month : Nat
  day : Nat

/-- A time of day. -/
structure Time where
  hour : Nat
  minute : Nat
  second : Nat
  nanosecond : Nat

/-- The distance from universal time, or `Z`, which stands for none. -/
inductive Offset where
  | zulu
  | minutes (count : Int)

/-- A date, a time of day, or a moment. -/
inductive Datetime where
  | localDate (date : Date)
  | localTime (time : Time)
  | moment (date : Date) (time : Time) (offset : Option Offset)

namespace Datetime

/-- A number of exactly `width` digits at the front of a text. -/
def readDigits? (width : Nat) (s : List Char) : Option (Nat × List Char) :=
  let digits := s.take width
  if digits.length = width ∧ digits.all Char.isDigit then
    some (Text.digitsValue digits, s.drop width)
  else none

/-- The text after a character that has to stand at the front. -/
def expect? (c : Char) : List Char → Option (List Char)
  | d :: s => if c = d then some s else none
  | [] => none

/-- Whether a year has a 29th of February. -/
def isLeap (year : Nat) : Bool :=
  year % 4 == 0 && (year % 100 != 0 || year % 400 == 0)

/-- The number of days in a month. -/
def daysIn (year month : Nat) : Nat :=
  if month = 2 then (if isLeap year then 29 else 28)
  else if month = 4 ∨ month = 6 ∨ month = 9 ∨ month = 11 then 30
  else 31

/-- A date at the front of a text. Months have their lengths, and the 29th of February exists in
leap years only. -/
def readDate? (s : List Char) : Option (Date × List Char) := do
  let (year, s) ← readDigits? 4 s
  let s ← expect? '-' s
  let (month, s) ← readDigits? 2 s
  let s ← expect? '-' s
  let (day, s) ← readDigits? 2 s
  guard (1 ≤ month ∧ month ≤ 12 ∧ 1 ≤ day ∧ day ≤ daysIn year month)
  return (⟨year, month, day⟩, s)

/-- The fraction of a second at the front of a text, in nanoseconds. What is smaller is cut off. -/
def readFraction? : List Char → Option (Nat × List Char)
  | '.' :: s =>
    let digits := s.takeWhile Char.isDigit
    if digits = [] then none
    else
      some (Text.digitsValue ((digits ++ List.replicate 9 '0').take 9), s.dropWhile Char.isDigit)
  | s => some (0, s)

/-- The second after a minute and its fraction in nanoseconds. Without a colon both are 0. -/
def readSecond? : List Char → Option ((Nat × Nat) × List Char)
  | ':' :: s => do
    let (second, s) ← readDigits? 2 s
    let (nanosecond, s) ← readFraction? s
    return ((second, nanosecond), s)
  | s => some ((0, 0), s)

/-- A time of day at the front of a text. The second may be 60. -/
def readTime? (s : List Char) : Option (Time × List Char) := do
  let (hour, s) ← readDigits? 2 s
  let s ← expect? ':' s
  let (minute, s) ← readDigits? 2 s
  let ((second, nanosecond), s) ← readSecond? s
  guard (hour ≤ 23 ∧ minute ≤ 59 ∧ second ≤ 60)
  return (⟨hour, minute, second, nanosecond⟩, s)

/-- The hours and minutes of an offset at the front of a text, in minutes. -/
def readOffsetMinutes? (s : List Char) : Option (Nat × List Char) := do
  let (hour, s) ← readDigits? 2 s
  let s ← expect? ':' s
  let (minute, s) ← readDigits? 2 s
  guard (hour ≤ 23 ∧ minute ≤ 59)
  return (60 * hour + minute, s)

/-- The offset at the front of a text, if there is one. -/
def readOffset? : List Char → Option (Option Offset × List Char)
  | 'Z' :: s | 'z' :: s => some (some .zulu, s)
  | '+' :: s => (readOffsetMinutes? s).map fun (n, s) => (some (.minutes n), s)
  | '-' :: s => (readOffsetMinutes? s).map fun (n, s) => (some (.minutes (-(n : Int))), s)
  | s => some (none, s)

/-- The time and offset of a moment. -/
def readMoment? (date : Date) (s : List Char) : Option (Datetime × List Char) := do
  let (time, s) ← readTime? s
  let (offset, s) ← readOffset? s
  return (moment date time offset, s)

/-- What a date at the front of a text begins. A blank goes with the date only if a time follows. -/
def readDated? (s : List Char) : Option (Datetime × List Char) := do
  let (day, s) ← readDate? s
  match s with
  | 'T' :: s | 't' :: s => readMoment? day s
  | ' ' :: c :: s =>
    if c.isDigit then readMoment? day (c :: s) else some (localDate day, ' ' :: c :: s)
  | s => some (localDate day, s)

/-- Whether a text begins like a date. -/
def beginsDate (s : List Char) : Bool :=
  (s.take 4).all Char.isDigit && s[4]? == some '-'

/-- Whether a text begins like a time of day. -/
def beginsTime (s : List Char) : Bool :=
  (s.take 2).all Char.isDigit && s[2]? == some ':'

/-- A date, a time of day or a moment at the front of a text that begins like one. -/
def read? (s : List Char) : Option (Datetime × List Char) :=
  if beginsDate s then readDated? s else (readTime? s).map fun (t, s) => (localTime t, s)

/-- A number with leading zeros up to a width. -/
def padded (width n : Nat) : String :=
  let digits := toString n
  String.ofList (List.replicate (width - digits.length) '0') ++ digits

/-- The normal text of a date. -/
def renderDate (d : Date) : String :=
  padded 4 d.year ++ "-" ++ padded 2 d.month ++ "-" ++ padded 2 d.day

/-- The normal text of a time of day. It always has the second, and keeps up to nine digits of its
fraction without trailing zeros. -/
def renderTime (t : Time) : String :=
  let fraction :=
    if t.nanosecond = 0 then ""
    else
      let digits := (padded 9 t.nanosecond).toList
      "." ++ String.ofList (digits.reverse.dropWhile (· == '0')).reverse
  padded 2 t.hour ++ ":" ++ padded 2 t.minute ++ ":" ++ padded 2 t.second ++ fraction

/-- The normal text of an offset. -/
def renderOffset : Offset → String
  | .zulu => "Z"
  | .minutes n =>
    let sign := if n < 0 then "-" else "+"
    sign ++ padded 2 (n.natAbs / 60) ++ ":" ++ padded 2 (n.natAbs % 60)

/-- The normal text of a date, a time of day or a moment, with date and time joined by `T`. -/
def render : Datetime → String
  | localDate day => renderDate day
  | localTime t => renderTime t
  | moment day t offset =>
    renderDate day ++ "T" ++ renderTime t ++ (offset.map renderOffset).getD ""

end Datetime

end CellularRegistration.Toml
