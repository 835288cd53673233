import Spreadsheet.Value

/-!
What formulas are evaluated against: an extent, and a value for some positions. A source may
know cells outside its extent, which no formula can read.
-/

namespace Spreadsheet

structure Source where
  rows : Nat
  cols : Nat
  cell? : Coord → Option Value

namespace Source

def Contains (s : Source) (c : Coord) : Prop := c.Within s.rows s.cols

instance (s : Source) (c : Coord) : Decidable (s.Contains c) :=
  inferInstanceAs (Decidable (c.Within s.rows s.cols))

/-- The value at a position inside the extent. -/
def look? (s : Source) (c : Coord) : Option Value :=
  if s.Contains c then s.cell? c else none

def formula? (s : Source) (c : Coord) : Option Formula :=
  (s.look? c).bind Value.formula?

theorem look?_eq_some {s : Source} {c : Coord} {v : Value} :
    s.look? c = some v ↔ s.Contains c ∧ s.cell? c = some v := by
  unfold look?
  split <;> simp_all

theorem formula?_eq_some {s : Source} {c : Coord} {f : Formula} :
    s.formula? c = some f ↔ s.look? c = some (.formula f) := by
  unfold formula?
  rcases s.look? c with _ | (_ | _ | _ | _) <;> simp [Value.formula?]

end Source
end Spreadsheet
