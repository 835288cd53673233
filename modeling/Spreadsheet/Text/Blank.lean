import Spreadsheet.Text.Edges

/-!
The characters with the property White_Space, and text without those at its ends.
-/

namespace Spreadsheet.Text

def blankEdges : List Nat :=
  [0x9, 0xe, 0x20, 0x21, 0x85, 0x86, 0xa0, 0xa1, 0x1680, 0x1681, 0x2000, 0x200b, 0x2028, 0x202a,
   0x202f, 0x2030, 0x205f, 0x2060, 0x3000, 0x3001]

def isBlank (c : Char) : Bool := isBetweenEdges blankEdges c

def trimEnd (cs : List Char) : List Char :=
  (cs.reverse.dropWhile isBlank).reverse

def trim (s : String) : String :=
  String.ofList (trimEnd (s.toList.dropWhile isBlank))

/-- A line without the carriage returns and line feeds at its end. -/
def dropLineEnd (s : String) : String :=
  String.ofList (s.toList.reverse.dropWhile fun c => c == '\r' || c == '\n').reverse

end Spreadsheet.Text
