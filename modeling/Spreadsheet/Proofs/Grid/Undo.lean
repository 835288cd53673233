import Spreadsheet.Proofs.Grid
import Spreadsheet.Proofs.Grid.Cells

/-!
Writes to a grid one after another, and how they are taken back. A write answers with the value
that it replaced, and only the extent decides whether it fails; so the answers of a run are enough
to undo it from its end, down to the grid that it began with.
-/

namespace Spreadsheet.Grid

/-- How a grid begins: with nothing in its cells, or with rows of any length. -/
inductive Start where
  | blank (rows cols : Nat)
  | ofRows (rows : List (List Value))

namespace Start

def grid : Start → Grid
  | .blank rows cols => .new rows cols
  | .ofRows rows => .ofRows rows

def rowCount : Start → Nat
  | .blank rows _ => rows
  | .ofRows rows => rows.length

/-- The length of the longest row. -/
def cols : Start → Nat
  | .blank _ cols => cols
  | .ofRows rows => (rows.map List.length).max?.getD 0

/-- The value that the rows have at a position, or else the empty text. -/
def value : Start → Coord → Value
  | .blank _ _, _ => .empty
  | .ofRows rows, c => (rows[c.row.toNat]?.bind fun row => row[c.col.toNat]?).getD .empty

end Start

namespace Start

theorem rowCount_grid (start : Start) : start.grid.rowCount = start.rowCount := by
  cases start with
  | blank rows cols => exact List.length_replicate
  | ofRows rows => exact rowCount_ofRows rows

theorem cols_grid (start : Start) : start.grid.cols = start.cols := by
  cases start with
  | blank rows cols => rfl
  | ofRows rows => exact widest_eq_max? rows

theorem get?_grid (start : Start) {c : Coord} (h : c.Within start.rowCount start.cols) :
    start.grid.get? c = some (start.value c) := by
  obtain ⟨hrow, hcol⟩ := h
  cases start with
  | blank rows cols =>
      change c.row.toNat < rows at hrow
      change c.col.toNat < cols at hcol
      simp [grid, new, get?, value, hrow, hcol]
  | ofRows rows =>
      change c.col.toNat < (rows.map List.length).max?.getD 0 at hcol
      rw [← widest_eq_max?] at hcol
      exact get?_ofRows hrow hcol

end Start

/-- A write in place: what it answers, and the grid after it. -/
def put (g : Grid) (write : Coord × Value) : Except OutOfBounds Value × Grid :=
  match g.set write.1 write.2 with
  | .ok (previous, after) => (.ok previous, after)
  | .error e => (.error e, g)

/-- Writes in place, one after another. -/
def puts (g : Grid) : List (Coord × Value) → List (Except OutOfBounds Value) × Grid
  | [] => ([], g)
  | write :: rest =>
    let (answer, g) := g.put write
    let (answers, g) := g.puts rest
    (answer :: answers, g)

/-- The writes that put back what was replaced, the last replacement first. -/
def undo (writes : List (Coord × Value)) (answers : List (Except OutOfBounds Value)) :
    List (Coord × Value) :=
  ((writes.zip answers).filterMap fun (write, answer) =>
    answer.toOption.map (write.1, ·)).reverse

variable {g : Grid} {c : Coord} {v previous : Value}

theorem put_of_get? (h : g.get? c = some previous) :
    g.put (c, v) = (.ok previous, g.replace c v) := by
  simp only [put, set, h]

theorem put_of_none (h : g.get? c = none) :
    g.put (c, v) = (.error ⟨c, g.rowCount, g.cols⟩, g) := by
  simp only [put, set, h]

theorem snd_put (g : Grid) (write : Coord × Value) : (g.put write).2 = g.afterSet write := by
  rw [put, afterSet]
  cases g.set write.1 write.2 <;> rfl

theorem snd_puts (g : Grid) (writes : List (Coord × Value)) :
    (g.puts writes).2 = g.afterSets writes := by
  induction writes generalizing g with
  | nil => rfl
  | cons write rest ih =>
      change ((g.put write).2.puts rest).2 = (g.afterSet write).afterSets rest
      rw [ih, snd_put]

/-- A write in a run answers as it would alone, after the writes before it. -/
theorem getElem?_puts (g : Grid) (writes : List (Coord × Value)) (i : Nat) :
    (g.puts writes).1[i]? =
      writes[i]?.map fun write => ((g.afterSets (writes.take i)).put write).1 := by
  induction writes generalizing g i with
  | nil => rfl
  | cons write rest ih =>
      cases i with
      | zero => rfl
      | succ i =>
          change ((g.put write).2.puts rest).1[i]? = _
          rw [ih, snd_put]
          rfl

theorem replace_replace (g : Grid) (c : Coord) (v w : Value) :
    (g.replace c v).replace c w = g.replace c w := by
  refine ext_rows ?_ rfl
  simp only [replace, List.modify_modify_eq, Function.comp_def, List.set_set]

theorem replace_self (h : g.get? c = some v) : g.replace c v = g := by
  refine ext_rows ?_ rfl
  obtain ⟨row, hrow, hv⟩ := Option.bind_eq_some_iff.1 h
  apply List.ext_getElem?
  intro i
  simp only [replace, List.getElem?_modify]
  by_cases hi : c.row.toNat = i
  · subst hi
    obtain ⟨hlt, rfl⟩ := List.getElem?_eq_some_iff.1 hv
    simp [hrow]
  · simp [hi]

/-- A write inside the grid is taken back by the value that it answered. -/
theorem afterSet_undone (v : Value) (h : g.get? c = some previous) :
    (g.replace c v).afterSet (c, previous) = g := by
  have hwithin : c.Within g.rowCount g.cols := get?_isSome.1 (Option.isSome_of_mem h)
  rw [afterSet_eq, if_pos (by simpa using hwithin), replace_replace, replace_self h]

theorem afterSets_undo (g : Grid) (writes : List (Coord × Value)) :
    (g.afterSets writes).afterSets (undo writes (g.puts writes).1) = g := by
  induction writes generalizing g with
  | nil => rfl
  | cons write rest ih =>
      obtain ⟨c, v⟩ := write
      change ((g.afterSet (c, v)).afterSets rest).afterSets
        (undo ((c, v) :: rest) ((g.put (c, v)).1 :: ((g.put (c, v)).2.puts rest).1)) = g
      rw [snd_put]
      cases hc : g.get? c with
      | none =>
          have hafter : g.afterSet (c, v) = g := by rw [← snd_put, put_of_none hc]
          rw [put_of_none hc, hafter]
          exact ih g
      | some previous =>
          have hafter : g.afterSet (c, v) = g.replace c v := by rw [← snd_put, put_of_get? hc]
          have hundo : undo ((c, v) :: rest) (.ok previous :: ((g.replace c v).puts rest).1) =
              undo rest ((g.replace c v).puts rest).1 ++ [(c, previous)] := by
            simp [undo, Except.toOption]
          rw [put_of_get? hc, hafter, hundo, afterSets_append, ih]
          exact afterSet_undone v hc

theorem fst_put_eq_ok_iff :
    (∃ previous, (g.put (c, v)).1 = .ok previous) ↔ c.Within g.rowCount g.cols := by
  rw [← get?_isSome]
  cases hc : g.get? c with
  | none => simp [put_of_none hc]
  | some previous => simp [put_of_get? hc]

/-- A write that fails changes nothing. -/
theorem snd_put_of_error {e : OutOfBounds} (h : (g.put (c, v)).1 = .error e) :
    (g.put (c, v)).2 = g := by
  cases hc : g.get? c with
  | none => rw [put_of_none hc]
  | some previous =>
      rw [put_of_get? hc] at h
      cases h

/-- In a run, too, a write succeeds exactly inside the grid that the run began with. -/
theorem exists_ok_of_getElem?_puts {writes : List (Coord × Value)} {i : Nat}
    {write : Coord × Value} {answer : Except OutOfBounds Value} (hwrite : writes[i]? = some write)
    (hanswer : (g.puts writes).1[i]? = some answer) :
    (∃ v, answer = .ok v) ↔ write.1.Within g.rowCount g.cols := by
  rw [getElem?_puts, hwrite, Option.map_some] at hanswer
  obtain rfl := Option.some.inj hanswer
  obtain ⟨hrows, hcols⟩ := g.extent_afterSets (writes.take i)
  rw [fst_put_eq_ok_iff, hrows, hcols]

/-- Only what a write inside replaced is written back. -/
theorem within_of_mem_undo {writes : List (Coord × Value)} {write : Coord × Value}
    (h : write ∈ undo writes (g.puts writes).1) : write.1.Within g.rowCount g.cols := by
  obtain ⟨⟨written, answer⟩, hmem, hback⟩ := List.mem_filterMap.1 (List.mem_reverse.1 h)
  obtain ⟨i, hi⟩ := List.mem_iff_getElem?.1 hmem
  obtain ⟨hwritten, hanswer⟩ := List.getElem?_zip_eq_some.1 hi
  cases answer with
  | error e => cases hback
  | ok previous =>
      cases hback
      exact (exists_ok_of_getElem?_puts hwritten hanswer).1 ⟨previous, rfl⟩

theorem exists_ok_of_mem_puts {writes : List (Coord × Value)}
    (h : ∀ write ∈ writes, write.1.Within g.rowCount g.cols) :
    ∀ answer ∈ (g.puts writes).1, ∃ v, answer = .ok v := by
  intro answer hmem
  obtain ⟨i, hanswer⟩ := List.mem_iff_getElem?.1 hmem
  have hput := (getElem?_puts g writes i).symm.trans hanswer
  obtain ⟨write, hwrite, -⟩ := Option.map_eq_some_iff.1 hput
  exact (exists_ok_of_getElem?_puts hwrite hanswer).2 (h write (List.mem_of_getElem? hwrite))

namespace Start

/-- The position lies in the grid that was there in the beginning. -/
def Inside (start : Start) (c : Coord) : Prop := c.Within start.rowCount start.cols

instance (start : Start) (c : Coord) : Decidable (start.Inside c) :=
  inferInstanceAs (Decidable (c.Within _ _))

/-- The last value that was written to a cell, or else its first. -/
def held (start : Start) (writes : List (Coord × Value)) (c : Coord) : Value :=
  (lastWrite? writes c).getD (start.value c)

/-- What a write answers after others: the value it replaces, unless it lies outside. -/
def answer (start : Start) (before : List (Coord × Value)) (c : Coord) :
    Except OutOfBounds Value :=
  if start.Inside c then .ok (start.held before c)
  else .error ⟨c, start.rowCount, start.cols⟩

variable (start : Start) (writes : List (Coord × Value))

theorem extent_afterSets : (start.grid.afterSets writes).rowCount = start.rowCount ∧
    (start.grid.afterSets writes).cols = start.cols := by
  obtain ⟨hrows, hcols⟩ := start.grid.extent_afterSets writes
  exact ⟨hrows.trans start.rowCount_grid, hcols.trans start.cols_grid⟩

theorem get?_afterSets {c : Coord} (h : start.Inside c) :
    (start.grid.afterSets writes).get? c = some (start.held writes c) := by
  have hwithin : c.Within start.grid.rowCount start.grid.cols := by
    rw [rowCount_grid, cols_grid]
    exact h
  rw [Grid.get?_afterSets _ _ hwithin, get?_grid start h, held]
  cases lastWrite? writes c <;> rfl

theorem isSome_get?_afterSets (c : Coord) :
    ((start.grid.afterSets writes).get? c).isSome = true ↔ start.Inside c := by
  obtain ⟨hrows, hcols⟩ := start.extent_afterSets writes
  rw [get?_isSome, hrows, hcols]
  rfl

theorem fst_put_afterSets (c : Coord) (v : Value) :
    ((start.grid.afterSets writes).put (c, v)).1 = start.answer writes c := by
  rw [answer]
  by_cases h : start.Inside c
  · rw [put_of_get? (start.get?_afterSets writes h), if_pos h]
  · obtain ⟨hrows, hcols⟩ := start.extent_afterSets writes
    have hnone := Option.not_isSome_iff_eq_none.1 (mt (start.isSome_get?_afterSets writes c).1 h)
    rw [put_of_none hnone, if_neg h, hrows, hcols]

end Start

/-- From any beginning and after any writes, a grid has the extent that it began with, and in each
cell the last value that was written there, or else the first one. Every write of the run answered
with the value that it replaced, or failed for lying outside, and one that fails changes nothing.
What was answered, written back from the end, is written without a failure and gives the grid that
was there in the beginning. -/
theorem writes_are_kept_and_undone (start : Start) (writes : List (Coord × Value)) :
    let answers := (start.grid.puts writes).1
    let g := (start.grid.puts writes).2
    let back := undo writes answers
    (g.rowCount = start.rowCount ∧ g.cols = start.cols ∧
        ∀ row ∈ g.rows, row.length = start.cols) ∧
      (∀ c, ((g.get? c).isSome = true ↔ start.Inside c) ∧
        (g.source.Contains c ↔ start.Inside c)) ∧
      (∀ c, start.Inside c → g.get? c = some (start.held writes c)) ∧
      (∀ (i : Nat) c v, writes[i]? = some (c, v) →
        answers[i]? = some (start.answer (writes.take i) c)) ∧
      (∀ c v, ((∃ e, (g.put (c, v)).1 = .error e) ↔ ¬start.Inside c) ∧
        ∀ e, (g.put (c, v)).1 = .error e → (g.put (c, v)).2 = g) ∧
      (∀ answer ∈ (g.puts back).1, ∃ v, answer = .ok v) ∧ (g.puts back).2 = start.grid := by
  intro answers g back
  have hg : g = start.grid.afterSets writes := snd_puts start.grid writes
  obtain ⟨hrows, hcols⟩ := start.extent_afterSets writes
  rw [← hg] at hrows hcols
  refine ⟨⟨hrows, hcols, fun row hrow => (g.rectangular row hrow).trans hcols⟩, ?_, ?_, ?_, ?_, ?_,
    ?_⟩
  · intro c
    refine ⟨hg ▸ start.isSome_get?_afterSets writes c, ?_⟩
    simp only [Source.Contains, source, hrows, hcols, Start.Inside]
  · exact fun c hc => hg ▸ start.get?_afterSets writes hc
  · intro i c v hwrite
    rw [getElem?_puts, hwrite, Option.map_some, start.fst_put_afterSets]
  · intro c v
    refine ⟨?_, fun e => snd_put_of_error⟩
    rw [Start.Inside, ← hrows, ← hcols, ← fst_put_eq_ok_iff]
    cases (g.put (c, v)).1 <;> simp
  · apply exists_ok_of_mem_puts
    intro write hwrite
    rw [hrows, hcols, ← start.rowCount_grid, ← start.cols_grid]
    exact within_of_mem_undo hwrite
  · rw [snd_puts, hg]
    exact afterSets_undo start.grid writes

end Spreadsheet.Grid
