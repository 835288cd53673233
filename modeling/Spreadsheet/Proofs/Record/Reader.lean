import Spreadsheet.Record.Reader
import Spreadsheet.Proofs.Record

/-!
The reader of records against the split of a line. One step does what the action of the reader's
position says; so a pass ends with the fields it began with, and then the field it was in with
the rest of the line split from there. What is read from the record of a row is therefore known
from the values of the row.
-/

namespace Spreadsheet.Record

theorem prepend_concat (cs : List Char) (c : Char) (fields : List (List Char)) :
    prepend (cs ++ [c]) fields = prepend cs (consField c fields) := by
  cases fields with
  | nil => rfl
  | cons field fields => simp [prepend, consField]

namespace Reader

/-- A reader with the flags of a position. -/
def ofPosition (fields : List String) (field : String) (p : Position) : Reader :=
  ⟨fields, field, p != .outside, p == .escaped⟩

variable (fields : List String) (field : String) (p : Position)

/-- One step does what the action of the position says. -/
theorem step_ofPosition (c : Char) :
    (ofPosition fields field p).step c =
      match p.action c with
      | .keep next => ofPosition fields (field.push c) next
      | .drop => ofPosition fields field p
      | .separate => ofPosition (fields ++ [field]) "" p := by
  cases p with
  | outside =>
      change (if c = delimiter then _ else _) = _
      rw [Position.action]
      split
      · rfl
      · split
        · rfl
        · split <;> rfl
  | inside =>
      change (if c = Text.escape then _ else _) = _
      rw [Position.action]
      split
      · rfl
      · split <;> rfl
  | escaped => rfl

theorem toList_finish (cs : List Char) :
    (cs.foldl step (ofPosition fields field p)).finish.map String.toList =
      fields.map String.toList ++ prepend field.toList (splitFrom p cs) := by
  induction cs generalizing fields field p with
  | nil => simp [finish, ofPosition, splitFrom, prepend]
  | cons c cs ih =>
      rw [List.foldl_cons, step_ofPosition, splitFrom]
      cases p.action c with
      | keep next =>
          simp only
          rw [ih, String.toList_push, prepend_concat]
      | drop => exact ih fields field p
      | separate =>
          simp only
          rw [ih, String.toList_empty, prepend_nil _ (splitFrom_ne_nil p cs), prepend,
            List.append_nil, List.map_append, List.map_singleton, List.append_assoc]
          rfl

end Reader

theorem toList_read (line : String) : (read line).map String.toList = split line.toList := by
  have hpass := Reader.toList_finish [] "" .outside line.toList
  rw [String.toList_empty, prepend_nil _ (splitFrom_ne_nil _ _)] at hpass
  exact hpass

/-- In one pass, the fields of a line are read. -/
theorem read_eq_fields (line : String) : read line = fields line := by
  rw [fields, ← toList_read, List.map_map]
  simp [Function.comp_def]

/-- From the record of a row one field is read for each value, in the same order: a text as it was
encoded, a formula without its spaces, and a number as it was written. -/
theorem read_join_recovers_fields (row : List Value) (h : row ≠ []) :
    read (join row) = row.map fun
      | .text s => String.ofList (Text.encode s.toList)
      | .formula f => String.ofList (f.storage.toList.filter (· != ' '))
      | .integer i => (Value.integer i).storage
      | .double x => (Value.double x).storage := by
  rw [read_eq_fields, fields_join row h]
  apply List.map_congr_left
  intro v _
  cases v with
  | formula f => rfl
  | integer _ | double _ | text _ => exact String.ofList_toList

/-- Commas, quotes and escapes in texts, an escape at the end of one, a line break, an empty text
between others, and numbers that no token is read as. -/
theorem read_join_of_awkward_texts :
    let row : List Value := [.text "a, \"b\\", .text "", .text "\t\n",
      .formula ⟨.cell ⟨0, 1⟩, .le, .number (Decimal.ofPattern true 0)⟩,
      .double (Decimal.ofPattern false Decimal.infinite), .integer (-7)]
    row ≠ [] ∧ read (join row) =
      ["\"a, \\\"b\\\\\"", "", "\"\t\n\"", "=R0C1<=-0.0", "inf", "-7"] := by
  intro row
  have hne : row ≠ [] := List.cons_ne_nil _ _
  exact ⟨hne, (read_join_recovers_fields row hne).trans (by decide +kernel)⟩

end Spreadsheet.Record
