/-!
Steps that may fail, one after another: a chain that succeeds has no step that failed.
-/

namespace Spreadsheet

variable {ε α β : Type} {x : Except ε α} {f : α → Except ε β}

theorem exists_ok_of_bind {b : β} (h : (x >>= f) = .ok b) : ∃ a, x = .ok a ∧ f a = .ok b := by
  cases x with
  | error e => cases h
  | ok a => exact ⟨a, rfl, h⟩

theorem bind_of_ok {a : α} (h : x = .ok a) : (x >>= f) = f a := by
  rw [h]
  rfl

end Spreadsheet
