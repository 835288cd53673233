import Spreadsheet.Record

/-!
Records read in one pass, character by character. The reader holds the fields that are complete,
the field that it is in, and two flags: that it is inside quoted text, and that the character
before was an escape there, so that the next one is taken as it is.
-/

namespace Spreadsheet.Record

structure Reader where
  fields : List String := []
  field : String := ""
  inText : Bool := false
  escaped : Bool := false

namespace Reader

def keep (r : Reader) (c : Char) : Reader := { r with field := r.field.push c }

def step (r : Reader) (c : Char) : Reader :=
  if r.inText then
    if r.escaped then { r.keep c with escaped := false }
    else if c = Text.escape then { r.keep c with escaped := true }
    else if c = Text.quote then { r.keep c with inText := false }
    else r.keep c
  else if c = delimiter then { r with fields := r.fields ++ [r.field], field := "" }
  else if c = ' ' ∨ c = '\t' then r
  else if c = Text.quote then { r.keep c with inText := true }
  else r.keep c

def finish (r : Reader) : List String := r.fields ++ [r.field]

end Reader

/-- The raw fields of a line, in one pass. -/
def read (line : String) : List String := (line.toList.foldl Reader.step {}).finish

end Spreadsheet.Record
