import Spreadsheet.Formula.Recognition
import Spreadsheet.Formula.Reader

/-!
From recognized formulas to formulas. The tokens are cut out of the text where the recognizer
found them and are not scanned again: the operator is looked up, then the operands are read, for
each shape in the order of its fields. A shape that does not go with the kinds of the operands
has no meaning.
-/

namespace Spreadsheet.Formula

/-- The shape of a formula, by the kinds of its operands. -/
def shape (f : Formula) : Shape :=
  match f.left, f.right with
  | .cell _, .cell _ => .coordCoord
  | .number _, .number _ => .litLit
  | _, _ => .litCoord

namespace Recognition

def operator (r : Recognition) : String := r.tokens.op.slice r.source

def coordinateAt (r : Recognition) (span : Span) : Except TokenError UInt32 :=
  readCoordinate (span.slice r.source).toList

def numberAt (r : Recognition) (span : Span) : Except TokenError Float :=
  readNumber (span.slice r.source).toList

/-- The formula that was recognized, unless its operator or an operand has no meaning. -/
def read (r : Recognition) : Except TokenError Formula :=
  match Operator.ofSymbol? r.operator with
  | none => .error (.invalidOperator r.operator)
  | some op =>
    match r.shape, r.tokens.left, r.tokens.right with
    | .coordCoord, .coord row col, .coord row' col' => do
      let row ← r.coordinateAt row
      let col ← r.coordinateAt col
      let row' ← r.coordinateAt row'
      let col' ← r.coordinateAt col'
      pure ⟨.cell ⟨row, col⟩, op, .cell ⟨row', col'⟩⟩
    | .litLit, .number digits, .number digits' => do
      let x ← r.numberAt digits
      let y ← r.numberAt digits'
      pure ⟨.number x, op, .number y⟩
    | .litCoord, .number digits, .coord row col => do
      let x ← r.numberAt digits
      let row ← r.coordinateAt row
      let col ← r.coordinateAt col
      pure ⟨.number x, op, .cell ⟨row, col⟩⟩
    | .litCoord, .coord row col, .number digits => do
      let x ← r.numberAt digits
      let row ← r.coordinateAt row
      let col ← r.coordinateAt col
      pure ⟨.cell ⟨row, col⟩, op, .number x⟩
    | _, _, _ => .error (.rejected r.source)

/-- The formula that a text is, by way of the recognizer. -/
def readText (raw : String) : Except TokenError Formula :=
  match ofText? raw with
  | some r => r.read
  | none => .error (.rejected raw)

end Recognition
end Spreadsheet.Formula
