import Spreadsheet.Source

/-!
Grids: rectangles of cells, kept row by row. Every row has as many cells as the grid has columns,
also after a cell is replaced, so a position has a value exactly when it lies inside the bounds.
-/

namespace Spreadsheet

structure Grid where
  rows : List (List Value)
  cols : Nat
  rectangular : ∀ row ∈ rows, row.length = cols

/-- A position that is not in a grid of this extent. -/
structure OutOfBounds where
  coord : Coord
  rows : Nat
  cols : Nat
  deriving DecidableEq, Repr

def OutOfBounds.message (e : OutOfBounds) : String :=
  "cell " ++ e.coord.text ++ " is outside the " ++ toString e.rows ++ "x" ++ toString e.cols ++
    " grid"

namespace Grid

def rowCount (g : Grid) : Nat := g.rows.length

def new (rows cols : Nat) : Grid where
  rows := List.replicate rows (List.replicate cols .empty)
  cols := cols
  rectangular := by
    intro row h
    simp [List.eq_of_mem_replicate h]

instance : Inhabited Grid := ⟨new 0 0⟩

def padRow (cols : Nat) (row : List Value) : List Value :=
  row ++ List.replicate (cols - row.length) .empty

def widest (rows : List (List Value)) : Nat :=
  rows.foldr (fun row width => max row.length width) 0

theorem length_le_widest {rows : List (List Value)} {row : List Value} (h : row ∈ rows) :
    row.length ≤ widest rows := by
  induction rows with
  | nil => cases h
  | cons first rest ih =>
    simp only [widest, List.foldr_cons] at ih ⊢
    rcases List.mem_cons.1 h with rfl | h
    · exact Nat.le_max_left _ _
    · exact Nat.le_trans (ih h) (Nat.le_max_right _ _)

/-- A grid of rows of any length, each filled up to the longest with empty texts. -/
def ofRows (rows : List (List Value)) : Grid where
  rows := rows.map (padRow (widest rows))
  cols := widest rows
  rectangular := by
    intro row h
    obtain ⟨short, hmem, rfl⟩ := List.mem_map.1 h
    have := length_le_widest hmem
    simp only [padRow, List.length_append, List.length_replicate]
    omega

def isEmpty (g : Grid) : Bool := g.rows.isEmpty || g.cols == 0

def get? (g : Grid) (c : Coord) : Option Value :=
  g.rows[c.row.toNat]?.bind fun row => row[c.col.toNat]?

def replace (g : Grid) (c : Coord) (v : Value) : Grid where
  rows := g.rows.modify c.row.toNat fun row => row.set c.col.toNat v
  cols := g.cols
  rectangular := by
    intro row h
    obtain ⟨i, hi, rfl⟩ := List.mem_iff_getElem.1 h
    rw [List.getElem_modify]
    split <;> simp [g.rectangular _ (List.getElem_mem _)]

/-- Another value at a position, with the value that was there. -/
def set (g : Grid) (c : Coord) (v : Value) : Except OutOfBounds (Value × Grid) :=
  match g.get? c with
  | some previous => .ok (previous, g.replace c v)
  | none => .error ⟨c, g.rowCount, g.cols⟩

/-- The grid with the values at two positions exchanged, if both have one. -/
def exchange? (g : Grid) (c d : Coord) : Option Grid :=
  match g.get? c, g.get? d with
  | some v, some w => some ((g.replace c w).replace d v)
  | _, _ => none

def cells (g : Grid) : List (Coord × Value) :=
  g.rows.zipIdx.flatMap fun (row, r) => row.zipIdx.map fun (v, c) => (Coord.ofNat r c, v)

def formulas (g : Grid) : List (Coord × Value) :=
  g.cells.filter fun (_, v) => v.isFormula

/-- The same extent, and values that agree. -/
def agrees (g h : Grid) : Bool :=
  g.cols == h.cols && g.rowCount == h.rowCount &&
    (g.rows.zip h.rows).all fun (row, other) =>
      (row.zip other).all fun (v, w) => v.agrees w

def source (g : Grid) : Source := ⟨g.rowCount, g.cols, g.get?⟩

theorem ext_rows {g h : Grid} (rows : g.rows = h.rows) (cols : g.cols = h.cols) : g = h := by
  cases g; cases h; cases rows; cases cols; rfl

@[simp] theorem rowCount_replace (g : Grid) (c : Coord) (v : Value) :
    (g.replace c v).rowCount = g.rowCount := by
  simp [rowCount, replace]

@[simp] theorem cols_replace (g : Grid) (c : Coord) (v : Value) :
    (g.replace c v).cols = g.cols := rfl

/-- A position has a value exactly when it lies in the grid. -/
theorem get?_isSome {g : Grid} {c : Coord} :
    (g.get? c).isSome = true ↔ c.Within g.rowCount g.cols := by
  simp only [get?, Coord.Within, rowCount]
  by_cases h : c.row.toNat < g.rows.length
  · simp [h, g.rectangular _ (List.getElem_mem h)]
  · simp [h]

end Grid
end Spreadsheet
