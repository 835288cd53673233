import Mathlib.Algebra.GroupWithZero.Nat
import Mathlib.Data.List.Forall2
import Spreadsheet.Proofs.Output

/-!
Where the texts of a table stand. The texts fill the extent of the source, each column is as wide
as its widest text, and so every row of the printed table takes the same number of characters, in
which each column begins at the same bar. So a table can be printed exactly when each of its texts
could fill a column by itself.
-/

namespace Spreadsheet

namespace Layout

variable {widths : List Nat} {row : List String} {rows : List (List String)}

def column (t : Layout) (c : Nat) : List String := t.rows.filterMap fun row => row[c]?

/-- How many characters of a row stand before the bar of a column. -/
def offset (widths : List Nat) (c : Nat) : Nat := ((widths.take c).map (· + 1)).sum

/-- The block shows the texts of a row: a bar before each and one at the end, and each text filled
with spaces up to the width of its column. -/
structure IsBlock (widths : List Nat) (row : List String) (block : List Char) : Prop where
  length : block.length = 1 + (widths.map (· + 1)).sum
  cell : ∀ c text width, row[c]? = some text → widths[c]? = some width →
    block[offset widths c]? = some '|' ∧ text.length ≤ width ∧
      (block.drop (offset widths c + 1)).take width =
        text.toList ++ List.replicate (width - text.length) ' '
  closed : block.getLast? = some '|'

/-- What is printed of a row before its line feed. -/
def block (widths : List Nat) (row : List String) : List Char :=
  (row.zip widths).flatMap (fun (text, width) => '|' :: padded width text) ++ ['|']

/-- Every text of the row has a column that is wide enough, and every column has a text. -/
abbrev Fits (row : List String) (widths : List Nat) : Prop :=
  List.Forall₂ (fun text width => text.length ≤ width) row widths

theorem length_padded {width : Nat} {text : String} (h : text.length ≤ width) :
    (padded width text).length = width := by
  rw [padded, List.length_append, String.length_toList, List.length_replicate]
  omega

theorem block_cons (width : Nat) (widths : List Nat) (text : String) (row : List String) :
    block (width :: widths) (text :: row) = '|' :: padded width text ++ block widths row := by
  simp only [block, List.zip_cons_cons, List.flatMap_cons, List.append_assoc]

theorem Fits.length_block (h : Fits row widths) :
    (block widths row).length = 1 + (widths.map (· + 1)).sum := by
  induction h with
  | nil => rfl
  | cons hfits _ ih =>
      rw [block_cons, List.length_append, List.length_cons, length_padded hfits, ih, List.map_cons,
        List.sum_cons]
      omega

/-- Behind the characters before a column stand its bar and its text. -/
theorem Fits.drop_block (h : Fits row widths) {c : Nat} {text : String} {width : Nat}
    (htext : row[c]? = some text) (hwidth : widths[c]? = some width) :
    ∃ rest, (block widths row).drop (offset widths c) = '|' :: padded width text ++ rest := by
  induction h generalizing c with
  | nil => simp at htext
  | @cons first firstWidth row widths hfits _ ih =>
      rw [block_cons]
      cases c with
      | zero =>
          cases htext
          cases hwidth
          exact ⟨block widths row, rfl⟩
      | succ c =>
          have hoffset : offset (firstWidth :: widths) (c + 1) =
              ('|' :: padded firstWidth first).length + offset widths c := by
            rw [List.length_cons, length_padded hfits]
            rfl
          obtain ⟨rest, hrest⟩ := ih htext hwidth
          exact ⟨rest, by rw [hoffset, List.drop_length_add_append, hrest]⟩

theorem Fits.isBlock (h : Fits row widths) : IsBlock widths row (block widths row) where
  length := h.length_block
  cell := by
    intro c text width htext hwidth
    obtain ⟨rest, hrest⟩ := h.drop_block htext hwidth
    have hfits : text.length ≤ width := by
      obtain ⟨-, hget⟩ := List.forall₂_iff_get.1 h
      obtain ⟨hrow, rfl⟩ := List.getElem?_eq_some_iff.1 htext
      obtain ⟨hwidths, rfl⟩ := List.getElem?_eq_some_iff.1 hwidth
      exact hget c hrow hwidths
    refine ⟨?_, hfits, ?_⟩
    · rw [← List.head?_drop, hrest]
      rfl
    · rw [← List.drop_drop, hrest]
      exact List.take_left' (length_padded hfits)
  closed := List.getLast?_concat

theorem toList_text (t : Layout) :
    t.text.toList = (t.rows.map (block t.widths)).flatMap (· ++ ['\n']) ++ ['\n'] := by
  have hrow : (block t.widths · ++ ['\n']) = rowText t.widths := by
    funext row
    simp only [block, rowText, List.append_assoc, List.singleton_append]
  rw [text, String.toList_ofList, List.flatMap_map, hrow]

/-! Widths -/

theorem length_columnWidths (cols : Nat) (h : ∀ row ∈ rows, row.length = cols) :
    (columnWidths cols rows).length = cols := by
  rw [columnWidths]
  apply List.foldlRecOn (motive := fun widths : List Nat => widths.length = cols)
  · exact List.length_replicate
  · intro widths hwidths row hrow
    rw [List.length_zipWith, hwidths, h row hrow, Nat.min_self]

theorem getElem?_foldl_max {c width : Nat} (h : ∀ row ∈ rows, c < row.length)
    (hwidth : widths[c]? = some width) :
    (rows.foldl (fun widths row => widths.zipWith (fun width text => max width text.length) row)
      widths)[c]? =
      some (((rows.filterMap fun row => row[c]?).map String.length).foldl max width) := by
  induction rows generalizing widths width with
  | nil => exact hwidth
  | cons row rows ih =>
      obtain ⟨hrow, hrest⟩ := List.forall_mem_cons.1 h
      have htext : row[c]? = some row[c] := List.getElem?_eq_getElem hrow
      have hstep : (widths.zipWith (fun width text => max width text.length) row)[c]? =
          some (max width row[c].length) := by
        rw [List.getElem?_zipWith, hwidth, htext]
      simp only [List.foldl_cons, ih hrest hstep, List.filterMap_cons, htext, List.map_cons]

theorem foldl_max_eq_max? (lengths : List Nat) :
    lengths.foldl max 0 = lengths.max?.getD 0 := by
  cases lengths with
  | nil => rfl
  | cons first rest => rw [List.max?_cons', Option.getD_some, List.foldl_cons, Nat.zero_max]

/-- Each column is as wide as its widest text, and without rows has no width. -/
theorem columnWidths_eq (cols : Nat) (h : ∀ row ∈ rows, row.length = cols) :
    columnWidths cols rows = (List.range cols).map fun c =>
      ((rows.filterMap fun row => row[c]?).map String.length).max?.getD 0 := by
  apply List.ext_getElem
  · rw [length_columnWidths cols h, List.length_map, List.length_range]
  · intro c hwidth hrange
    have hc : c < cols := by rwa [length_columnWidths cols h] at hwidth
    have hlong : ∀ row ∈ rows, c < row.length := fun row hrow => by rwa [h row hrow]
    have hzero : (List.replicate cols 0)[c]? = some 0 := by
      rw [List.getElem?_replicate, if_pos hc]
    rw [List.getElem_map, List.getElem_range, ← foldl_max_eq_max?, ← Option.some_inj,
      ← getElem?_foldl_max hlong hzero, ← List.getElem?_eq_getElem hwidth, columnWidths]

theorem fits_columnWidths {cols : Nat} (h : ∀ row ∈ rows, row.length = cols)
    (hrow : row ∈ rows) : Fits row (columnWidths cols rows) := by
  refine List.forall₂_iff_get.2 ⟨by rw [length_columnWidths cols h, h row hrow], ?_⟩
  intro c hc hwidth
  simp only [List.get_eq_getElem, columnWidths_eq cols h, List.getElem_map, List.getElem_range]
  apply List.le_max?_getD_of_mem
  refine List.mem_map_of_mem (List.mem_filterMap.2 ⟨row, hrow, ?_⟩)
  exact List.getElem?_eq_getElem hc

theorem CanFill.mono {widest : Option Nat} {width width' : Nat} (h : CanFill widest width)
    (hle : width' ≤ width) : CanFill widest width' :=
  fun limit hlimit => Nat.le_trans hle (h limit hlimit)

theorem fillable_none (t : Layout) : t.Fillable none := fun _ _ _ _ => nofun

/-- A column is as wide as one of its texts. -/
theorem exists_mem_column {cols c width : Nat} (h : ∀ row ∈ rows, row.length = cols)
    (hrow : row ∈ rows) (hc : c < cols) (hwidth : (columnWidths cols rows)[c]? = some width) :
    ∃ row' ∈ rows, ∃ text ∈ row', text.length = width := by
  have hlength : c < row.length := by rwa [h row hrow]
  have hmem : row[c] ∈ rows.filterMap fun row => row[c]? :=
    List.mem_filterMap.2 ⟨row, hrow, List.getElem?_eq_getElem hlength⟩
  rw [columnWidths_eq cols h, List.getElem?_map, List.getElem?_range hc, Option.map_some,
    Option.some_inj] at hwidth
  cases hmax : ((rows.filterMap fun row => row[c]?).map String.length).max? with
  | none =>
      have hnil := List.map_eq_nil_iff.1 (List.max?_eq_none_iff.1 hmax)
      rw [hnil] at hmem
      cases hmem
  | some longest =>
      rw [hmax, Option.getD_some] at hwidth
      obtain ⟨text, htext, hlength⟩ := List.mem_map.1 (List.max?_mem hmax)
      obtain ⟨row', hrow', hcell'⟩ := List.mem_filterMap.1 htext
      exact ⟨row', hrow', text, List.mem_of_getElem? hcell', hlength.trans hwidth⟩

/-- Every column can be filled up when each text could fill one, and only then. -/
theorem fillable_iff {widest : Option Nat} {cols : Nat} (h : ∀ row ∈ rows, row.length = cols) :
    (⟨rows, columnWidths cols rows⟩ : Layout).Fillable widest ↔
      ∀ row ∈ rows, ∀ text ∈ row, CanFill widest text.length := by
  constructor
  · intro hfill row hrow text htext
    obtain ⟨hlength, hfits⟩ := List.forall₂_iff_get.1 (fits_columnWidths h hrow)
    obtain ⟨c, hc, rfl⟩ := List.mem_iff_getElem.1 htext
    have hwidth : c < (columnWidths cols rows).length := hlength ▸ hc
    have hzip : c < (row.zip (columnWidths cols rows)).length := by
      rw [List.length_zip]
      exact Nat.lt_min.2 ⟨hc, hwidth⟩
    have hcell := List.getElem_mem hzip
    rw [List.getElem_zip] at hcell
    exact (hfill row hrow _ hcell).mono (hfits c hc hwidth)
  · intro htexts row hrow cell hcell
    obtain ⟨c, hc, rfl⟩ := List.mem_iff_getElem.1 hcell
    rw [List.length_zip, length_columnWidths cols h, h row hrow, Nat.min_self] at hc
    rw [List.getElem_zip]
    obtain ⟨row', hrow', text, htext, hwidth⟩ :=
      exists_mem_column h hrow hc (List.getElem?_eq_getElem _)
    exact hwidth ▸ htexts row' hrow' text htext

end Layout

namespace Source

variable (s : Source) (limit : Nat)

theorem length_of_mem_layout {row : List String} (h : row ∈ (s.layout limit).rows) :
    row.length = s.cols := by
  obtain ⟨r, -, rfl⟩ := List.mem_map.1 h
  rw [List.length_map, List.length_range]

theorem layout_cell?_eq {c : Coord} (h : s.Contains c) :
    (s.layout limit).cell? c.row.toNat c.col.toNat = some ((s.displayCell limit c).getD "") := by
  obtain ⟨hrow, hcol⟩ := h
  have hc : Coord.ofNat c.row.toNat c.col.toNat = c := by simp [Coord.ofNat]
  simp [layout, Layout.cell?, hrow, hcol, hc]

theorem contains_ofNat {r c : Nat} (hr : r < s.rows) (hc : c < s.cols) :
    s.Contains (.ofNat r c) := by
  have hrow : (Coord.ofNat r c).row.toNat ≤ r := by
    simpa [Coord.ofNat] using Nat.mod_le r _
  have hcol : (Coord.ofNat r c).col.toNat ≤ c := by
    simpa [Coord.ofNat] using Nat.mod_le c _
  exact ⟨Nat.lt_of_le_of_lt hrow hr, Nat.lt_of_le_of_lt hcol hc⟩

/-- A table can be printed when the text of each of its cells could fill a column. -/
theorem layout_fillable_iff {widest : Option Nat} : (s.layout limit).Fillable widest ↔
    ∀ c text, s.Contains c → s.displayCell limit c = some text →
      Layout.CanFill widest text.length := by
  refine (Layout.fillable_iff fun _ => s.length_of_mem_layout limit).trans ?_
  constructor
  · intro h c text hc htext
    have hcell := s.layout_cell?_eq limit hc
    rw [htext, Option.getD_some] at hcell
    obtain ⟨row, hrow, hcol⟩ := Option.bind_eq_some_iff.1 hcell
    exact h row (List.mem_of_getElem? hrow) text (List.mem_of_getElem? hcol)
  · intro h row hrow text htext
    obtain ⟨r, hr, rfl⟩ := List.mem_map.1 hrow
    obtain ⟨c, hc, rfl⟩ := List.mem_map.1 htext
    have hcontains := s.contains_ofNat (List.mem_range.1 hr) (List.mem_range.1 hc)
    cases hdisplay : s.displayCell limit (.ofNat r c) with
    | none => exact fun _ _ => Nat.zero_le _
    | some text => exact h _ text hcontains hdisplay

end Source

/-- The texts of a table are those of the cells, each column is as wide as its widest text, and
what is printed, when every column can be filled up, is a line for each row, with the bar of every
column at the same place, and an empty line. -/
theorem Source.layout_aligns_columns (s : Source) (limit : Nat) :
    let t := s.layout limit
    (t.rows.length = s.rows ∧ ∀ row ∈ t.rows, row.length = s.cols) ∧
      (∀ c, s.Contains c →
        t.cell? c.row.toNat c.col.toNat = some ((s.displayCell limit c).getD "")) ∧
      t.widths = (List.range s.cols).map
        (fun c => ((t.column c).map String.length).max?.getD 0) ∧
      (∃ blocks, t.text.toList = blocks.flatMap (· ++ ['\n']) ++ ['\n'] ∧
        List.Forall₂ (Layout.IsBlock t.widths) t.rows blocks) ∧
      t.writeTo none = Output.put t.text ∧
      ∀ widest, t.Fillable widest → t.writeTo widest = Output.put t.text := by
  intro t
  have hrows : ∀ row ∈ t.rows, row.length = s.cols := fun _ => s.length_of_mem_layout limit
  have hlength : t.rows.length = s.rows := by
    rw [← List.length_range (n := s.rows)]
    exact List.length_map _
  refine ⟨⟨hlength, hrows⟩, fun _ => s.layout_cell?_eq limit, Layout.columnWidths_eq s.cols hrows,
    ⟨_, t.toList_text, ?_⟩, Layout.writeTo_eq t.fillable_none, fun _ => Layout.writeTo_eq⟩
  rw [List.forall₂_map_right_iff, List.forall₂_same]
  exact fun row hrow => (Layout.fits_columnWidths hrows hrow).isBlock

/-- A text of two characters in three bytes, above a cell that is missing from its row. -/
theorem accented_table_aligns :
    let s := (Grid.ofRows [[.integer 1, .text "né"], [.integer 100]]).source
    let t := s.layout 1
    s.Contains ⟨0, 1⟩ ∧ t.cell? 0 1 = some ((s.displayCell 1 ⟨0, 1⟩).getD "") ∧
      t.text = "|1  |né|\n|100|  |\n\n" ∧
      ∃ blocks, t.text.toList = blocks.flatMap (· ++ ['\n']) ++ ['\n'] ∧
        List.Forall₂ (Layout.IsBlock t.widths) t.rows blocks := by
  intro s t
  have hc : s.Contains ⟨0, 1⟩ := by decide
  obtain ⟨-, hcell, -, hblocks, -⟩ := s.layout_aligns_columns 1
  exact ⟨hc, hcell ⟨0, 1⟩ hc, by decide +kernel, hblocks⟩

namespace Session

/-- A cell of the table shows a text that no column can be filled up to. -/
def TooWide (s : Session) : Prop :=
  ∃ c text, s.grid.source.Contains c ∧
    s.grid.source.displayCell s.config.depthLimit c = some text ∧
    Layout.widestColumn < text.length

variable {s : Session}

theorem fillable_layout_iff : s.layout.Fillable (some Layout.widestColumn) ↔ ¬s.TooWide := by
  rw [layout, Source.layout_fillable_iff]
  constructor
  · rintro h ⟨c, text, hc, htext, hwide⟩
    exact absurd (h c text hc htext _ rfl) (Nat.not_le.2 hwide)
  · rintro h c text hc htext _ ⟨⟩
    exact Nat.le_of_not_lt fun hwide => h ⟨c, text, hc, htext, hwide⟩

theorem text?_eq_none_iff : s.layout.text? = none ↔ s.TooWide := by
  rw [Layout.text?]
  split
  case isTrue h => exact iff_of_false nofun (fillable_layout_iff.1 h)
  case isFalse h => exact iff_of_true rfl (not_not.1 fun hnot => h (fillable_layout_iff.2 hnot))

theorem says_print (h : ¬s.TooWide) : Output.Says s.print s.layout.text (.ok ()) := by
  rw [print, Layout.writeTo_eq (fillable_layout_iff.2 h)]
  exact Output.says_put _

theorem breaksIn_print (h : s.TooWide) : Output.BreaksIn s.print s.layout.text :=
  Layout.breaksIn_writeTo fun hfill => fillable_layout_iff.1 hfill h

end Session
end Spreadsheet
