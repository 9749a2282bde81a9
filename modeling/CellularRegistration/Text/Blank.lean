namespace CellularRegistration.Text

/-- The characters with the Unicode property White_Space, which are more than the four of
`Char.isWhitespace`. -/
def isBlank (c : Char) : Bool :=
  let n := c.toNat
  (9 ≤ n && n ≤ 13) || n == 0x20 || n == 0x85 || n == 0xA0 || n == 0x1680 ||
    (0x2000 ≤ n && n ≤ 0x200A) || n == 0x2028 || n == 0x2029 || n == 0x202F || n == 0x205F ||
    n == 0x3000

/-- Drops the leading white space. -/
def trimStart (s : List Char) : List Char :=
  s.dropWhile isBlank

/-- Drops the trailing white space. -/
def trimEnd (s : List Char) : List Char :=
  (s.reverse.dropWhile isBlank).reverse

/-- Drops the white space at both ends. -/
def trim (s : List Char) : List Char :=
  trimEnd (trimStart s)

/-- The text without the white space at its ends. -/
def trimmed (s : String) : String :=
  String.ofList (trim s.toList)

end CellularRegistration.Text
