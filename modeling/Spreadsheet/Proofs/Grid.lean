import Spreadsheet.Grid
import Spreadsheet.Proofs.Value.Token

/-!
Grids as lists of rows. Filling rows that already have one length changes nothing, so a grid with
a cell is the grid of its rows; a grid agrees with itself when its numbers are finite.
-/

namespace Spreadsheet

theorem Operand.Storable.agrees_self {o : Operand} (h : o.Storable) : o.agrees o = true := by
  cases o with
  | number x => exact Decimal.beq_self x h.1
  | cell c => exact beq_self_eq_true c

theorem Value.Storable.agrees_self {v : Value} (h : v.Storable) : v.agrees v = true := by
  cases v with
  | integer i => exact beq_self_eq_true i
  | double x => exact Decimal.beq_self x h
  | text s => exact beq_self_eq_true s
  | formula f =>
      simp [Value.agrees, Formula.agrees, h.left.agrees_self, h.right.agrees_self]

namespace Grid

theorem widest_of_rectangular (rows : List (List Value)) (cols : Nat) (hne : rows ≠ [])
    (h : ∀ row ∈ rows, row.length = cols) : widest rows = cols := by
  induction rows with
  | nil => exact absurd rfl hne
  | cons row rows ih =>
      have hrow := h row List.mem_cons_self
      cases rows with
      | nil => rw [widest, List.foldr_cons, List.foldr_nil, hrow, Nat.max_zero]
      | cons next rows =>
          have htail := ih (by simp) fun r hr => h r (List.mem_cons_of_mem _ hr)
          rw [widest, List.foldr_cons, hrow]
          change max cols (widest (next :: rows)) = cols
          rw [htail, Nat.max_self]

theorem padRow_eq_self (cols : Nat) (row : List Value) (h : row.length = cols) :
    padRow cols row = row := by
  rw [padRow, h, Nat.sub_self, List.replicate_zero, List.append_nil]

/-- A grid is the grid of its rows, unless columns are all that it has. -/
theorem ofRows_rows (g : Grid) (h : g.rows ≠ [] ∨ g.cols = 0) : ofRows g.rows = g := by
  have hcols : widest g.rows = g.cols := by
    by_cases hne : g.rows = []
    · obtain h | h := h
      · exact absurd hne h
      · rw [hne, h]
        rfl
    · exact widest_of_rectangular g.rows g.cols hne g.rectangular
  refine ext_rows ?_ hcols
  change g.rows.map (padRow (widest g.rows)) = g.rows
  rw [hcols, List.map_congr_left fun row hrow => padRow_eq_self g.cols row (g.rectangular row hrow),
    List.map_id']

@[simp] theorem rowCount_ofRows (rows : List (List Value)) : (ofRows rows).rowCount = rows.length :=
  List.length_map _

theorem widest_eq_max? (rows : List (List Value)) :
    widest rows = (rows.map List.length).max?.getD 0 := by
  induction rows with
  | nil => rfl
  | cons row rows ih =>
      change max row.length (widest rows) = _
      rw [ih, List.map_cons, List.max?_cons, Option.getD_some]
      cases (rows.map List.length).max? <;> simp

theorem getElem?_padRow {cols i : Nat} (row : List Value) (h : i < cols) :
    (padRow cols row)[i]? = some (row[i]?.getD .empty) := by
  rw [padRow, List.getElem?_append]
  split
  case isTrue hi => simp [hi]
  case isFalse hi =>
    rw [List.getElem?_replicate, if_pos (by omega), List.getElem?_eq_none (by omega)]
    rfl

/-- Rows give each cell its value, and a row that is too short gives the empty text. -/
theorem get?_ofRows {rows : List (List Value)} {c : Coord} (hrow : c.row.toNat < rows.length)
    (hcol : c.col.toNat < widest rows) :
    (ofRows rows).get? c =
      some ((rows[c.row.toNat]?.bind fun row => row[c.col.toNat]?).getD .empty) := by
  simp [ofRows, get?, hrow, getElem?_padRow _ hcol]

theorem mem_zip_self {α : Type} (xs : List α) (p : α × α) (h : p ∈ xs.zip xs) :
    p.1 = p.2 ∧ p.1 ∈ xs := by
  rw [List.zip, List.zipWith_self] at h
  obtain ⟨x, hx, rfl⟩ := List.mem_map.1 h
  exact ⟨rfl, hx⟩

theorem agrees_self (g : Grid) (h : ∀ row ∈ g.rows, ∀ v ∈ row, v.Storable) :
    g.agrees g = true := by
  simp only [agrees, beq_self_eq_true, Bool.true_and, List.all_eq_true]
  intro rows hrows
  obtain ⟨hrow, hmem⟩ := mem_zip_self g.rows rows hrows
  intro values hvalues
  rw [← hrow] at hvalues
  obtain ⟨hvalue, hv⟩ := mem_zip_self rows.1 values hvalues
  rw [← hvalue]
  exact (h rows.1 hmem values.1 hv).agrees_self

theorem agrees_extent {g h : Grid} (hagrees : g.agrees h = true) :
    g.cols = h.cols ∧ g.rowCount = h.rowCount := by
  simp only [agrees, Bool.and_eq_true, beq_iff_eq] at hagrees
  exact hagrees.1

end Grid
end Spreadsheet
