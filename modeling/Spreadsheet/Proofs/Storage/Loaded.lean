import Spreadsheet.Storage
import Spreadsheet.Proofs.Record
import Spreadsheet.Proofs.Grid

/-!
What a load puts into a grid. Every cell is the empty text or the value of a token from one line,
so no loaded text has a line feed; and every line has a field, so a grid with a row has a column.
-/

namespace Spreadsheet

/-- A value that is saved without a line feed. -/
def Value.OneLine : Value → Prop
  | .text s => '\n' ∉ s.toList
  | _ => True

theorem Value.oneLine_of_ofToken {token : String} {v : Value} (h : ofToken token = .ok v)
    (hnewline : '\n' ∉ token.toList) : v.OneLine := by
  cases v with
  | integer _ | double _ | formula _ => trivial
  | text s =>
      rw [ofToken] at h
      split at h
      case h_1 => cases h
      case h_2 =>
        split at h
        case h_1 content hcontent =>
          cases h
          intro hmem
          rw [String.toList_ofList] at hmem
          exact hnewline (Text.mem_of_mem_decode? hcontent hmem)
        case h_2 =>
          split at h
          case h_1 => cases h
          case h_2 =>
            cases hformula : Formula.ofText token with
            | error e => rw [hformula] at h; cases h
            | ok f => rw [hformula] at h; cases h

namespace Storage

theorem notMem_of_mem_splitOn {c : Char} {cs piece : List Char} (h : piece ∈ cs.splitOn c) :
    c ∉ piece := by
  induction cs generalizing piece with
  | nil =>
      rw [List.splitOn_nil, List.mem_singleton] at h
      rw [h]
      exact List.not_mem_nil
  | cons d cs ih =>
      rw [List.splitOn_cons_eq_if_modifyHead] at h
      split at h
      case isTrue =>
        obtain rfl | hrest := List.mem_cons.1 h
        · exact List.not_mem_nil
        · exact ih hrest
      case isFalse hd =>
        cases hpieces : cs.splitOn c with
        | nil => exact absurd hpieces (List.splitOn_ne_nil c cs)
        | cons first rest =>
            rw [hpieces] at h ih
            obtain rfl | hrest := List.mem_cons.1 h
            · intro hc
              obtain rfl | hfirst := List.mem_cons.1 hc
              · exact hd (beq_self_eq_true c)
              · exact ih List.mem_cons_self hfirst
            · exact ih (List.mem_cons_of_mem first hrest)

theorem newline_notMem_of_mem_lines {cs line : List Char} (h : line ∈ lines cs) :
    '\n' ∉ line := by
  obtain hmem | hlast := List.mem_append.1 h
  · obtain ⟨piece, hpiece, rfl⟩ := List.mem_map.1 hmem
    have hnot := notMem_of_mem_splitOn (List.mem_of_mem_dropLast hpiece)
    rw [dropReturn]
    split
    · exact fun hc => hnot (List.mem_of_mem_dropLast hc)
    · exact hnot
  · split at hlast
    · cases hlast
    · obtain rfl := List.mem_singleton.1 hlast
      have hne := List.splitOn_ne_nil '\n' cs
      rw [List.getLast?_eq_some_getLast hne, Option.getD_some]
      exact notMem_of_mem_splitOn (List.getLast_mem hne)

end Storage

/-- Every cell of the grid has the property. -/
def Grid.All (g : Grid) (P : Value → Prop) : Prop := ∀ row ∈ g.rows, ∀ v ∈ row, P v

namespace Grid

variable {P : Value → Prop}

theorem all_ofRows {rows : List (List Value)} (hempty : P .empty)
    (h : ∀ row ∈ rows, ∀ v ∈ row, P v) : (ofRows rows).All P := by
  intro row hrow v hv
  obtain ⟨short, hshort, rfl⟩ := List.mem_map.1 hrow
  obtain hv | hv := List.mem_append.1 hv
  · exact h short hshort v hv
  · rwa [List.eq_of_mem_replicate hv]

theorem All.replace {g : Grid} (h : g.All P) (c : Coord) {v : Value} (hv : P v) :
    (g.replace c v).All P := by
  intro row hrow w hw
  obtain ⟨i, hi, rfl⟩ := List.mem_iff_getElem.1 hrow
  have hlt : i < g.rows.length := by simpa [Grid.replace] using hi
  have hold := h _ (List.getElem_mem hlt)
  simp only [Grid.replace, List.getElem_modify] at hw
  split at hw
  · obtain hmem | rfl := List.mem_or_eq_of_mem_set hw
    · exact hold w hmem
    · exact hv
  · exact hold w hw

theorem All.get? {g : Grid} (h : g.All P) {c : Coord} {v : Value} (hv : g.get? c = some v) :
    P v := by
  obtain ⟨row, hrow, hv⟩ := Option.bind_eq_some_iff.1 hv
  exact h row (List.mem_of_getElem? hrow) v (List.mem_of_getElem? hv)

/-- Rows that all have a cell make a grid with a cell or with nothing. -/
theorem extent_ofRows {rows : List (List Value)} (h : ∀ row ∈ rows, row ≠ []) :
    (0 < (ofRows rows).rowCount ∧ 0 < (ofRows rows).cols) ∨
      ((ofRows rows).rowCount = 0 ∧ (ofRows rows).cols = 0) := by
  cases rows with
  | nil => exact .inr ⟨rfl, rfl⟩
  | cons row rest =>
      have hpos := List.length_pos_iff.2 (h row List.mem_cons_self)
      have hle : row.length ≤ (ofRows (row :: rest)).cols := length_le_widest List.mem_cons_self
      exact .inl ⟨by simp, Nat.lt_of_lt_of_le hpos hle⟩

end Grid

namespace Storage

/-- A cell of a loaded grid is empty or has a token that is part of a line. -/
theorem all_ofText {P : Value → Prop} (text : String) (hempty : P .empty)
    (h : ∀ token v, '\n' ∉ token.toList → Value.ofToken token = .ok v → P v) :
    (ofText text).grid.All P := by
  apply Grid.all_ofRows hempty
  intro row hrow v hv
  simp only [List.mem_map] at hrow
  obtain ⟨tokens, ⟨line, hline, rfl⟩, rfl⟩ := hrow
  obtain ⟨token, htoken, rfl⟩ := List.mem_map.1 hv
  have hnewline : '\n' ∉ token.toList := by
    intro hc
    have hmem := Record.mem_of_mem_fields htoken hc
    rw [String.toList_ofList] at hmem
    exact newline_notMem_of_mem_lines hline hmem
  rw [cellOfToken]
  cases hvalue : Value.ofToken token with
  | error e => exact hempty
  | ok v => exact h token v hnewline hvalue

theorem extent_ofText (text : String) :
    (0 < (ofText text).grid.rowCount ∧ 0 < (ofText text).grid.cols) ∨
      ((ofText text).grid.rowCount = 0 ∧ (ofText text).grid.cols = 0) := by
  apply Grid.extent_ofRows
  intro row hrow
  simp only [List.mem_map] at hrow
  obtain ⟨tokens, ⟨line, -, rfl⟩, rfl⟩ := hrow
  rw [Ne, List.map_eq_nil_iff]
  exact Record.fields_ne_nil _

end Storage
end Spreadsheet
