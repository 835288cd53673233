import Spreadsheet.Grid
import Spreadsheet.Output
import Spreadsheet.Record
import Spreadsheet.Value.Reader

/-!
Grids as text. A line is a row, and its fields are the tokens of its cells; a token without a
value loads as the empty text and is reported. Saving writes the record of each row as a line.
-/

namespace Spreadsheet

/-- A token that was skipped on loading, where it stood, and why. -/
structure Rejection where
  coord : Coord
  token : String
  error : TokenError
  deriving DecidableEq, Repr

/-- A line about the rejection, after a verb for what was done. -/
def Rejection.message (verb : String) (r : Rejection) : String :=
  verb ++ " " ++ r.token ++ " at " ++ r.coord.text ++ ": " ++ r.error.message ++ "\n"

/-- A loaded grid, with the tokens that were replaced by empty texts. -/
structure Loaded where
  grid : Grid
  rejections : List Rejection

namespace Storage

/-- A line without the carriage return that comes before its line feed. -/
def dropReturn (line : List Char) : List Char :=
  if line.getLast? = some '\r' then line.dropLast else line

/-- The lines of a text. What follows the last line feed is a line when it is not empty. -/
def lines (cs : List Char) : List (List Char) :=
  let pieces := cs.splitOn '\n'
  let last := pieces.getLast?.getD []
  pieces.dropLast.map dropReturn ++ if last.isEmpty then [] else [last]

def cellOfToken (token : String) : Value :=
  match Value.ofToken token with
  | .ok v => v
  | .error _ => .empty

def rejection? (coord : Coord) (token : String) : Option Rejection :=
  match Value.ofToken token with
  | .ok _ => none
  | .error e => some ⟨coord, token, e⟩

def ofTokens (rows : List (List String)) : Loaded where
  grid := .ofRows (rows.map fun row => row.map cellOfToken)
  rejections := rows.zipIdx.flatMap fun (row, r) =>
    row.zipIdx.filterMap fun (token, c) => rejection? (Coord.ofNat r c) token

def ofText (text : String) : Loaded :=
  ofTokens ((lines text.toList).map fun line => Record.fields (String.ofList line))

/-- The grid of a file's contents, which must be UTF-8. -/
def ofBytes? (bytes : ByteArray) : Option Loaded :=
  (String.fromUTF8? bytes).map ofText

end Storage

def Grid.line (row : List Value) : String := Record.join row ++ "\n"

def Grid.text (g : Grid) : String := String.join (g.rows.map Grid.line)

/-- Write a grid row by row, each in two pieces. -/
def Grid.writeTo (g : Grid) : Output Unit :=
  g.rows.forM fun row => do
    Output.put (Record.join row)
    Output.put "\n"

end Spreadsheet
