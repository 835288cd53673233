/-!
Positions of cells. Rows and columns are counted from zero and fit 32 bits, which is what a
formula can name; the extent of a table is a plain pair of naturals.
-/

namespace Spreadsheet

structure Coord where
  row : UInt32
  col : UInt32
  deriving DecidableEq, Repr

namespace Coord

/-- The position lies among the first `rows` rows and the first `cols` columns. -/
def Within (c : Coord) (rows cols : Nat) : Prop :=
  c.row.toNat < rows ∧ c.col.toNat < cols

instance (c : Coord) (rows cols : Nat) : Decidable (c.Within rows cols) :=
  inferInstanceAs (Decidable (_ ∧ _))

def ofNat (row col : Nat) : Coord :=
  ⟨UInt32.ofNat row, UInt32.ofNat col⟩

/-- The notation of formulas: `R3C12` is column 12 of row 3. -/
def text (c : Coord) : String :=
  "R" ++ toString c.row.toNat ++ "C" ++ toString c.col.toNat

theorem not_within_zero_rows (c : Coord) (cols : Nat) : ¬c.Within 0 cols :=
  fun h => Nat.not_lt_zero _ h.1

end Coord
end Spreadsheet
