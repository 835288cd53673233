import Spreadsheet.Coord
import Spreadsheet.Operator
import Spreadsheet.Decimal.Shortest

/-!
Formulas. A formula is one operator between two operands, each a number or the position of a
cell, so nothing nests inside a formula; nesting comes from cells that hold formulas.
-/

namespace Spreadsheet

inductive Operand where
  | number (x : Float)
  | cell (c : Coord)
  deriving DecidableEq, Repr

structure Formula where
  left : Operand
  op : Operator
  right : Operand
  deriving DecidableEq, Repr

namespace Operand

def reference? : Operand → Option Coord
  | .number _ => none
  | .cell c => some c

def storage : Operand → String
  | .number x => Decimal.storageText x
  | .cell c => c.text

/-- Equal as numbers or as positions: the two zeros agree, and a NaN agrees with nothing. -/
def agrees : Operand → Operand → Bool
  | .number x, .number y => x == y
  | .cell c, .cell d => c == d
  | _, _ => false

end Operand

namespace Formula

/-- The cells that the formula reads, left before right. -/
def references (f : Formula) : List Coord :=
  f.left.reference?.toList ++ f.right.reference?.toList

/-- The canonical text, with one space on each side of the operator. -/
def storage (f : Formula) : String :=
  "=" ++ f.left.storage ++ " " ++ f.op.symbol ++ " " ++ f.right.storage

def agrees (f g : Formula) : Bool :=
  f.op == g.op && f.left.agrees g.left && f.right.agrees g.right

theorem mem_references {f : Formula} {c : Coord} :
    c ∈ f.references ↔ f.left = .cell c ∨ f.right = .cell c := by
  rcases f with ⟨_ | _, op, _ | _⟩ <;> simp [references, Operand.reference?, eq_comm]

end Formula
end Spreadsheet
