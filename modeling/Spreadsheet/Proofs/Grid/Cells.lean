import Spreadsheet.Grid

/-!
The cells of a grid when some are replaced. A replaced cell holds the new value and no other cell
changes; a write outside the grid changes nothing, so a run of writes keeps every cell that none
of them names.
-/

namespace Spreadsheet.Grid

theorem get?_replace_self {g : Grid} {c : Coord} (v : Value)
    (h : c.Within g.rowCount g.cols) : (g.replace c v).get? c = some v := by
  obtain ⟨hrow, hcol⟩ := h
  change c.row.toNat < g.rows.length at hrow
  have hlength := g.rectangular _ (List.getElem_mem hrow)
  simp [get?, replace, hrow, hlength, hcol]

theorem get?_replace_of_ne (g : Grid) {c d : Coord} (v : Value) (h : d ≠ c) :
    (g.replace c v).get? d = g.get? d := by
  simp only [get?, replace, List.getElem?_modify]
  by_cases hrow : c.row.toNat = d.row.toNat
  · have hcol : c.col.toNat ≠ d.col.toNat := by
      intro hcol
      cases c
      cases d
      simp_all [UInt32.toNat_inj]
    cases g.rows[d.row.toNat]? <;> simp [hrow, hcol]
  · simp [hrow]

theorem get?_replace {g : Grid} {c : Coord} (v : Value) (h : c.Within g.rowCount g.cols)
    (d : Coord) : (g.replace c v).get? d = if d = c then some v else g.get? d := by
  split
  case isTrue hd => rw [hd, get?_replace_self v h]
  case isFalse hd => exact get?_replace_of_ne g v hd

theorem get?_eq_none_iff {g : Grid} {c : Coord} :
    g.get? c = none ↔ ¬c.Within g.rowCount g.cols := by
  rw [← get?_isSome, Option.not_isSome_iff_eq_none]

/-- A write inside the grid gives the value that was there and replaces it. -/
theorem set_of_within {g : Grid} {c : Coord} (v : Value) (h : c.Within g.rowCount g.cols) :
    ∃ previous, g.get? c = some previous ∧ g.set c v = .ok (previous, g.replace c v) := by
  obtain ⟨previous, hprevious⟩ := Option.isSome_iff_exists.1 (get?_isSome.2 h)
  exact ⟨previous, hprevious, by simp only [set, hprevious]⟩

/-- The grid after a write, which changes nothing when it fails. -/
def afterSet (g : Grid) (write : Coord × Value) : Grid :=
  match g.set write.1 write.2 with
  | .ok (_, after) => after
  | .error _ => g

def afterSets (g : Grid) (writes : List (Coord × Value)) : Grid := writes.foldl afterSet g

theorem afterSet_eq (g : Grid) (c : Coord) (v : Value) :
    g.afterSet (c, v) = if c.Within g.rowCount g.cols then g.replace c v else g := by
  by_cases h : c.Within g.rowCount g.cols
  · obtain ⟨previous, -, hset⟩ := set_of_within v h
    simp only [afterSet, hset, if_pos h]
  · simp only [afterSet, set, get?_eq_none_iff.2 h, if_neg h]

@[simp] theorem rowCount_afterSet (g : Grid) (write : Coord × Value) :
    (g.afterSet write).rowCount = g.rowCount := by
  rw [afterSet_eq]
  split <;> simp

@[simp] theorem cols_afterSet (g : Grid) (write : Coord × Value) :
    (g.afterSet write).cols = g.cols := by
  rw [afterSet_eq]
  split <;> simp

theorem get?_afterSet_of_ne (g : Grid) {c : Coord} {write : Coord × Value} (h : write.1 ≠ c) :
    (g.afterSet write).get? c = g.get? c := by
  rw [afterSet_eq]
  split
  · exact get?_replace_of_ne g write.2 h.symm
  · rfl

theorem extent_afterSets (g : Grid) (writes : List (Coord × Value)) :
    (g.afterSets writes).rowCount = g.rowCount ∧ (g.afterSets writes).cols = g.cols := by
  induction writes generalizing g with
  | nil => exact ⟨rfl, rfl⟩
  | cons write writes ih =>
      obtain ⟨hrows, hcols⟩ := ih (g.afterSet write)
      exact ⟨hrows.trans (rowCount_afterSet g write), hcols.trans (cols_afterSet g write)⟩

theorem get?_afterSets_of_forall_ne (g : Grid) {c : Coord} (writes : List (Coord × Value))
    (h : ∀ write ∈ writes, write.1 ≠ c) : (g.afterSets writes).get? c = g.get? c := by
  induction writes generalizing g with
  | nil => rfl
  | cons write writes ih =>
      obtain ⟨hfirst, hrest⟩ := List.forall_mem_cons.1 h
      exact (ih (g.afterSet write) hrest).trans (get?_afterSet_of_ne g hfirst)

theorem afterSets_append (g : Grid) (before after : List (Coord × Value)) :
    g.afterSets (before ++ after) = (g.afterSets before).afterSets after :=
  List.foldl_append

/-- The value that the last write to a position gives it. -/
def lastWrite? (writes : List (Coord × Value)) (c : Coord) : Option Value :=
  (writes.filter fun write => write.1 = c).getLast?.map Prod.snd

theorem lastWrite?_cons (write : Coord × Value) (writes : List (Coord × Value)) (c : Coord) :
    lastWrite? (write :: writes) c =
      (lastWrite? writes c).or (if write.1 = c then some write.2 else none) := by
  by_cases h : write.1 = c
  · simp only [lastWrite?, h, decide_true, List.filter_cons_of_pos, List.getLast?_cons, if_true]
    cases (writes.filter fun write => write.1 = c).getLast? <;> rfl
  · simp [lastWrite?, h]

/-- The last write to a cell wins, and a cell without one keeps its value. -/
theorem get?_afterSets (g : Grid) {c : Coord} (writes : List (Coord × Value))
    (h : c.Within g.rowCount g.cols) :
    (g.afterSets writes).get? c = (lastWrite? writes c).or (g.get? c) := by
  induction writes generalizing g with
  | nil => rfl
  | cons write writes ih =>
      have hrest := ih (g.afterSet write) (by simpa using h)
      change ((g.afterSet write).afterSets writes).get? c = _
      rw [hrest, lastWrite?_cons, Option.or_assoc]
      by_cases hc : write.1 = c
      · rw [if_pos hc, Option.some_or, afterSet_eq, hc, if_pos h, get?_replace_self write.2 h]
      · rw [if_neg hc, Option.none_or, get?_afterSet_of_ne g hc]

end Spreadsheet.Grid
