import Spreadsheet.Text.Unprintable
import Spreadsheet.Text.Combining

/-!
Text as messages quote it: between quotes, with every character that could not be seen, or
would join the one before it, written by its code point.
-/

namespace Spreadsheet.Text

/-- A character by its code point, in lower-case hexadecimal. -/
def codePoint (c : Char) : List Char :=
  ['\\', 'u', '\x7b'] ++ Nat.toDigits 16 c.toNat ++ ['\x7d']

def visibleChar (c : Char) : List Char :=
  if c = '\x00' then ['\\', '0']
  else if c = '\t' then ['\\', 't']
  else if c = '\r' then ['\\', 'r']
  else if c = '\n' then ['\\', 'n']
  else if c = '"' ∨ c = '\\' then ['\\', c]
  else if isCombining c ∨ isUnprintable c then codePoint c
  else [c]

def visible (s : String) : String :=
  "\"" ++ String.ofList (s.toList.flatMap visibleChar) ++ "\""

end Spreadsheet.Text
