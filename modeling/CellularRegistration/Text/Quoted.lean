import CellularRegistration.Text.Hexadecimal
import CellularRegistration.Text.Unprinted

namespace CellularRegistration.Text

/-- How a character stands between quotes. Quotes and backslashes get a backslash; NUL, tab, newline
and carriage return have letters of their own; any other character without a printed form is written
by its number. -/
def quoteChar (c : Char) : List Char :=
  match c with
  | '\x00' => ['\\', '0']
  | '\t' => ['\\', 't']
  | '\n' => ['\\', 'n']
  | '\r' => ['\\', 'r']
  | '"' => ['\\', '"']
  | '\\' => ['\\', '\\']
  | c => if isUnprinted c then ['\\', 'u', '\x7b'] ++ hexDigits c.toNat ++ ['\x7d'] else [c]

/-- A text between quotes. -/
def quoted (s : String) : String :=
  String.ofList ('"' :: s.toList.flatMap quoteChar ++ ['"'])

end CellularRegistration.Text
