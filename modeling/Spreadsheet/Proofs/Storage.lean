import Spreadsheet.Storage
import Spreadsheet.Proofs.Grid
import Spreadsheet.Proofs.Record
import Mathlib.Data.List.Basic

/-!
Saving and loading. The lines of a saved text are the records of the rows when no record has a
line feed of its own, and more than the rows otherwise. So a grid is loaded as it was saved when
it has a cell or nothing at all, when its texts have no line feed, and when its numbers have
tokens; each condition can be read off a load that gives the grid back.
-/

namespace Spreadsheet

/-- The grids that saving keeps. -/
structure Grid.Storable (g : Grid) : Prop where
  extent : (0 < g.rowCount ∧ 0 < g.cols) ∨ (g.rowCount = 0 ∧ g.cols = 0)
  texts : ∀ row ∈ g.rows, ∀ s, Value.text s ∈ row → '\n' ∉ s.toList
  values : ∀ row ∈ g.rows, ∀ v ∈ row, v.Storable

theorem Grid.ne_nil_of_mem_rows (g : Grid) (h : 0 < g.cols) (row : List Value)
    (hrow : row ∈ g.rows) : row ≠ [] := by
  intro hnil
  have hlength := g.rectangular row hrow
  rw [hnil, List.length_nil] at hlength
  omega

namespace Storage

theorem splitOn_flatMap_newline (ls : List (List Char)) :
    (ls.flatMap (· ++ ['\n'])).splitOn '\n' = ls.flatMap (·.splitOn '\n') ++ [[]] := by
  induction ls with
  | nil => rfl
  | cons l ls ih =>
      rw [List.flatMap_cons, List.append_assoc, List.singleton_append,
        List.splitOn_append_cons_self, ih, List.flatMap_cons, List.append_assoc]

/-- Every line that ends with a line feed is a line, and one more for each line feed in it. -/
theorem lines_flatMap_newline (ls : List (List Char)) :
    lines (ls.flatMap (· ++ ['\n'])) = (ls.flatMap (·.splitOn '\n')).map dropReturn := by
  simp only [lines, splitOn_flatMap_newline, List.getLast?_concat, List.dropLast_concat,
    Option.getD_some, List.isEmpty_nil, if_true, List.append_nil]

theorem le_length_flatMap_splitOn (ls : List (List Char)) :
    ls.length ≤ (ls.flatMap (·.splitOn '\n')).length := by
  induction ls with
  | nil => exact Nat.le_refl 0
  | cons l ls ih =>
      have hpos := List.length_pos_iff.2 (List.splitOn_ne_nil '\n' l)
      rw [List.flatMap_cons, List.length_append, List.length_cons]
      omega

theorem lt_length_flatMap_splitOn (ls : List (List Char)) (l : List Char) (h : l ∈ ls)
    (hnewline : '\n' ∈ l) : ls.length < (ls.flatMap (·.splitOn '\n')).length := by
  obtain ⟨before, after, rfl⟩ := List.append_of_mem h
  obtain ⟨front, back, rfl⟩ := List.append_of_mem hnewline
  have hbefore := le_length_flatMap_splitOn before
  have hafter := le_length_flatMap_splitOn after
  have hfront := List.length_pos_iff.2 (List.splitOn_ne_nil '\n' front)
  have hback := List.length_pos_iff.2 (List.splitOn_ne_nil '\n' back)
  rw [List.flatMap_append, List.flatMap_cons, List.splitOn_append_cons_self, List.length_append,
    List.length_append, List.length_append, List.length_append, List.length_cons]
  omega

theorem toList_text (g : Grid) :
    g.text.toList = (g.rows.map fun row => (Record.join row).toList).flatMap (· ++ ['\n']) := by
  have hnewline : "\n".toList = ['\n'] := rfl
  rw [Grid.text, String.toList_join, List.flatMap_map, List.flatMap_map]
  simp only [Grid.line, String.toList_append, hnewline]

theorem length_lines_text (g : Grid) : (lines g.text.toList).length =
    ((g.rows.map fun row => (Record.join row).toList).flatMap (·.splitOn '\n')).length := by
  rw [toList_text, lines_flatMap_newline, List.length_map]

theorem dropReturn_join (row : List Value) :
    dropReturn (Record.join row).toList = (Record.join row).toList :=
  if_neg (Record.getLast?_join row)

/-- Without line feeds in its records, a grid is saved in one line for each row. -/
theorem lines_text (g : Grid) (h : ∀ row ∈ g.rows, '\n' ∉ (Record.join row).toList) :
    lines g.text.toList = g.rows.map fun row => (Record.join row).toList := by
  have hlines : ∀ row ∈ g.rows,
      (((Record.join row).toList.splitOn '\n').map dropReturn) = [(Record.join row).toList] := by
    intro row hrow
    rw [List.splitOn_eq_singleton (h row hrow), List.map_singleton, dropReturn_join]
  rw [toList_text, lines_flatMap_newline, List.flatMap_map, List.map_flatMap,
    List.flatMap_congr hlines, List.map_eq_flatMap]

theorem ofBytes?_toUTF8 (text : String) : ofBytes? text.toUTF8 = some (ofText text) := by
  have hback : String.fromUTF8? text.toUTF8 = some text := dif_pos text.isValidUTF8
  rw [ofBytes?, hback, Option.map_some]

theorem rejection?_eq_none_iff (coord : Coord) (token : String) :
    rejection? coord token = none ↔ ∃ v, Value.ofToken token = .ok v := by
  rw [rejection?]
  cases h : Value.ofToken token with
  | ok v => simp
  | error e => simp

theorem rejections_eq_nil_iff (rows : List (List String)) :
    (ofTokens rows).rejections = [] ↔
      ∀ row ∈ rows, ∀ token ∈ row, ∃ v, Value.ofToken token = .ok v := by
  rw [ofTokens, List.flatMap_eq_nil_iff]
  constructor
  · intro h row hrow token htoken
    obtain ⟨r, hr⟩ := List.mem_iff_getElem?.1 hrow
    obtain ⟨c, hc⟩ := List.mem_iff_getElem?.1 htoken
    have hnone := h (row, r) (List.mk_mem_zipIdx_iff_getElem?.2 hr)
    rw [List.filterMap_eq_nil_iff] at hnone
    exact (rejection?_eq_none_iff _ _).1
      (hnone (token, c) (List.mk_mem_zipIdx_iff_getElem?.2 hc))
  · intro h place hplace
    obtain ⟨row, r⟩ := place
    rw [List.filterMap_eq_nil_iff]
    intro place hc
    obtain ⟨token, c⟩ := place
    have hrow := List.mem_of_getElem? (List.mk_mem_zipIdx_iff_getElem?.1 hplace)
    have htoken := List.mem_of_getElem? (List.mk_mem_zipIdx_iff_getElem?.1 hc)
    exact (rejection?_eq_none_iff _ _).2 (h row hrow token htoken)

theorem ofText_text (g : Grid) (h : ∀ row ∈ g.rows, '\n' ∉ (Record.join row).toList) :
    ofText g.text = ofTokens (g.rows.map fun row => Record.fields (Record.join row)) := by
  rw [ofText, lines_text g h, List.map_map]
  simp only [Function.comp_def, String.ofList_toList]

theorem mem_fields_join (row : List Value) (v : Value) (h : v ∈ row) :
    String.ofList v.field ∈ Record.fields (Record.join row) := by
  rw [Record.fields_join row (List.ne_nil_of_mem h)]
  exact List.mem_map_of_mem h

theorem cellOfToken_field (v : Value) (h : v.Storable) :
    cellOfToken (String.ofList v.field) = v := by
  rw [cellOfToken, Value.ofToken_field v h]

/-- The cells of a record are the row that it was made from. -/
theorem cells_fields_join (row : List Value) (hne : row ≠ []) (h : ∀ v ∈ row, v.Storable) :
    (Record.fields (Record.join row)).map cellOfToken = row := by
  rw [Record.fields_join row hne, List.map_map]
  exact (List.map_congr_left fun v hv => cellOfToken_field v (h v hv)).trans (List.map_id' row)

end Storage

namespace Grid

theorem Storable.newline_notMem {g : Grid} (h : g.Storable) :
    ∀ row ∈ g.rows, '\n' ∉ (Record.join row).toList := by
  intro row hrow hnewline
  obtain ⟨s, hs, hmem⟩ := (Record.newline_mem_join row).1 hnewline
  exact h.texts row hrow s hs hmem

theorem Storable.ne_nil_or_cols {g : Grid} (h : g.Storable) : g.rows ≠ [] ∨ g.cols = 0 := by
  obtain ⟨hrows, -⟩ | ⟨-, hcols⟩ := h.extent
  · exact .inl (List.length_pos_iff.1 hrows)
  · exact .inr hcols

theorem Storable.ne_nil {g : Grid} (h : g.Storable) (row : List Value) (hrow : row ∈ g.rows) :
    row ≠ [] := by
  obtain ⟨-, hcols⟩ | ⟨hrows, -⟩ := h.extent
  · exact g.ne_nil_of_mem_rows hcols row hrow
  · rw [List.length_eq_zero_iff.1 hrows] at hrow
    cases hrow

/-- A grid that can be stored is loaded as it was saved, down to the bits of its floats. -/
theorem Storable.ofText_text {g : Grid} (h : g.Storable) :
    (Storage.ofText g.text).grid = g ∧ (Storage.ofText g.text).rejections = [] := by
  rw [Storage.ofText_text g h.newline_notMem]
  constructor
  · have hrows : (g.rows.map fun row => Record.fields (Record.join row)).map
        (fun row => row.map Storage.cellOfToken) = g.rows := by
      rw [List.map_map]
      exact (List.map_congr_left fun row hrow => Storage.cells_fields_join row
        (h.ne_nil row hrow) (h.values row hrow)).trans (List.map_id' g.rows)
    rw [Storage.ofTokens, hrows, ofRows_rows g h.ne_nil_or_cols]
  · rw [Storage.rejections_eq_nil_iff, List.forall_mem_map]
    intro row hrow token htoken
    rw [Record.fields_join row (h.ne_nil row hrow)] at htoken
    obtain ⟨v, hv, rfl⟩ := List.mem_map.1 htoken
    exact ⟨v, Value.ofToken_field v (h.values row hrow v hv)⟩

/-- A load with as many rows as the grid found no line feed inside a record. -/
theorem newline_notMem_of_rowCount (g : Grid)
    (h : (Storage.ofText g.text).grid.rowCount = g.rowCount) :
    ∀ row ∈ g.rows, '\n' ∉ (Record.join row).toList := by
  intro row hrow hnewline
  have hlt := Storage.lt_length_flatMap_splitOn (g.rows.map fun row => (Record.join row).toList)
    (Record.join row).toList (List.mem_map_of_mem hrow) hnewline
  have hcount : (Storage.ofText g.text).grid.rowCount = (Storage.lines g.text.toList).length := by
    simp only [Storage.ofText, Storage.ofTokens, rowCount_ofRows, List.length_map]
  rw [← Storage.length_lines_text, List.length_map, ← hcount, h] at hlt
  exact absurd hlt (Nat.lt_irrefl _)

theorem cols_pos_of_load (g : Grid)
    (h : ∀ row ∈ g.rows, '\n' ∉ (Record.join row).toList)
    (hcols : (Storage.ofText g.text).grid.cols = g.cols) (row : List Value)
    (hrow : row ∈ g.rows) : 0 < g.cols := by
  have hmem : (Record.fields (Record.join row)).map Storage.cellOfToken ∈
      (g.rows.map fun row => Record.fields (Record.join row)).map
        fun row => row.map Storage.cellOfToken :=
    List.mem_map_of_mem (List.mem_map_of_mem hrow)
  have hle := length_le_widest hmem
  have hpos := List.length_pos_iff.2 (Record.fields_ne_nil (Record.join row))
  rw [Storage.ofText_text g h] at hcols
  change widest _ = g.cols at hcols
  rw [hcols, List.length_map] at hle
  omega

/-- What is loaded as it was saved could be stored. -/
theorem storable_of_load (g : Grid) (hrejections : (Storage.ofText g.text).rejections = [])
    (hagrees : (Storage.ofText g.text).grid.agrees g = true) : g.Storable := by
  obtain ⟨hcols, hrows⟩ := agrees_extent hagrees
  have hnewline := newline_notMem_of_rowCount g hrows
  refine ⟨?_, ?_, ?_⟩
  · cases hrows : g.rows with
    | nil =>
        have htext := Storage.ofText_text g hnewline
        rw [htext, hrows] at hcols
        exact .inr ⟨List.length_eq_zero_iff.2 hrows, hcols.symm⟩
    | cons row rest =>
        have hmem : row ∈ g.rows := hrows ▸ List.mem_cons_self
        exact .inl ⟨List.length_pos_of_mem hmem, cols_pos_of_load g hnewline hcols row hmem⟩
  · intro row hrow s hs hmem
    exact hnewline row hrow ((Record.newline_mem_join row).2 ⟨s, hs, hmem⟩)
  · intro row hrow v hv
    rw [Storage.ofText_text g hnewline, Storage.rejections_eq_nil_iff, List.forall_mem_map]
      at hrejections
    obtain ⟨w, hw⟩ := hrejections row hrow _ (Storage.mem_fields_join row v hv)
    exact Value.storable_of_ofToken_field v w hw

/-- Saving and loading give a grid back, with nothing rejected, exactly when it has a cell or
neither a row nor a column, no text with a line feed, only finite floats, and in its formulas only
finite numbers without a sign. -/
theorem loads_back_iff_storable (g : Grid) :
    (∃ loaded, Storage.ofBytes? g.text.toUTF8 = some loaded ∧ loaded.rejections = [] ∧
      loaded.grid.agrees g = true) ↔ g.Storable := by
  rw [Storage.ofBytes?_toUTF8]
  constructor
  · intro h
    obtain ⟨loaded, hloaded, hrejections, hagrees⟩ := h
    obtain rfl := Option.some.inj hloaded
    exact storable_of_load g hrejections hagrees
  · intro h
    obtain ⟨hgrid, hrejections⟩ := h.ofText_text
    refine ⟨_, rfl, hrejections, ?_⟩
    rw [hgrid]
    exact agrees_self g h.values

end Grid
end Spreadsheet
