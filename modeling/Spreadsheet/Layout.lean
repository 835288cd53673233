import Spreadsheet.Display
import Spreadsheet.Output

/-!
Tables as text. Each cell is a bar and its text, filled with spaces up to the widest text of its
column; a bar closes each row, and an empty line follows the last. Widths count characters. There
is a widest column that can be filled up, and at a wider one a program that prints is broken off.
-/

namespace Spreadsheet

structure Layout where
  rows : List (List String)
  widths : List Nat
  deriving DecidableEq, Repr

namespace Layout

/-- The widest text of each of `cols` columns. -/
def columnWidths (cols : Nat) (rows : List (List String)) : List Nat :=
  rows.foldl (fun widths row => widths.zipWith (fun width text => max width text.length) row)
    (List.replicate cols 0)

def padded (width : Nat) (text : String) : List Char :=
  text.toList ++ List.replicate (width - text.length) ' '

def rowText (widths : List Nat) (row : List String) : List Char :=
  (row.zip widths).flatMap (fun (text, width) => '|' :: padded width text) ++ ['|', '\n']

def text (t : Layout) : String :=
  String.ofList (t.rows.flatMap (rowText t.widths) ++ ['\n'])

/-! Printing, with columns up to a widest one that can be filled up, if there is one. -/

def CanFill (widest : Option Nat) (width : Nat) : Prop := ∀ limit ∈ widest, width ≤ limit

instance (widest : Option Nat) (width : Nat) : Decidable (CanFill widest width) :=
  inferInstanceAs (Decidable (∀ limit ∈ widest, width ≤ limit))

def cellPieces (width : Nat) (text : String) : List String :=
  "|" :: text :: List.replicate (width - text.length) " "

/-- Write a cell in pieces: a bar, the text, and the spaces that fill it up. In a column that is
too wide the program is broken off before the bar. -/
def writeCell (widest : Option Nat) (width : Nat) (text : String) : Output Unit :=
  if CanFill widest width then (cellPieces width text).forM Output.put else throw .tooWide

def writeRow (widest : Option Nat) (widths : List Nat) (row : List String) : Output Unit := do
  (row.zip widths).forM fun (text, width) => writeCell widest width text
  Output.put "|\n"

def writeTo (t : Layout) (widest : Option Nat) : Output Unit := do
  t.rows.forM (writeRow widest t.widths)
  Output.put "\n"

/-- Every column with a text in it can be filled up. -/
def Fillable (t : Layout) (widest : Option Nat) : Prop :=
  ∀ row ∈ t.rows, ∀ cell ∈ row.zip t.widths, CanFill widest cell.2

instance (t : Layout) (widest : Option Nat) : Decidable (t.Fillable widest) :=
  inferInstanceAs (Decidable (∀ row ∈ t.rows, ∀ cell ∈ row.zip t.widths, CanFill widest cell.2))

/-- The widest column that can be filled up. -/
def widestColumn : Nat := 65535

/-- The text of a table, if it can be printed. -/
def text? (t : Layout) : Option String :=
  if t.Fillable (some widestColumn) then some t.text else none

def cell? (t : Layout) (row col : Nat) : Option String :=
  t.rows[row]?.bind fun cells => cells[col]?

end Layout

def Source.layout (s : Source) (limit : Nat) : Layout :=
  let rows := (List.range s.rows).map fun r =>
    (List.range s.cols).map fun c => (s.displayCell limit (Coord.ofNat r c)).getD ""
  ⟨rows, Layout.columnWidths s.cols rows⟩

end Spreadsheet
