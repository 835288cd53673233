import Spreadsheet.Formula
import Spreadsheet.Formula.Grammar
import Spreadsheet.Numeral
import Spreadsheet.TokenError

/-!
From written formulas to formulas. The operator is looked up first; then the operands are read,
numbers before coordinates and otherwise left before right, and the first that is out of range
is the error.
-/

namespace Spreadsheet.Formula

def readCoordinate (digits : List Char) : Except TokenError UInt32 :=
  match Numeral.coordinate? digits with
  | some n => .ok n
  | none => .error (.coordinateOverflow (String.ofList digits))

def readNumber (digits : List Char) : Except TokenError Float :=
  match Numeral.finite? false digits with
  | some x => .ok x
  | none => .error (.invalidNumber (String.ofList digits))

def OperandText.read : OperandText → Except TokenError Operand
  | .coord row col => do
    let row ← readCoordinate row
    let col ← readCoordinate col
    pure (.cell ⟨row, col⟩)
  | .number digits => do
    let x ← readNumber digits
    pure (.number x)

/-- The formula that is written, unless its operator or an operand has no meaning. -/
def Written.read (w : Written) : Except TokenError Formula :=
  match Operator.ofSymbol? (String.ofList w.op) with
  | none => .error (.invalidOperator (String.ofList w.op))
  | some op =>
    match w.left, w.right with
    | .coord _ _, .number _ => do
      let right ← w.right.read
      let left ← w.left.read
      pure ⟨left, op, right⟩
    | _, _ => do
      let left ← w.left.read
      let right ← w.right.read
      pure ⟨left, op, right⟩

def ofText (raw : String) : Except TokenError Formula :=
  match recognize? raw with
  | some w => w.read
  | none => .error (.rejected raw)

end Spreadsheet.Formula
