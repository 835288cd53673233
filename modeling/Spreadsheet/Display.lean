import Spreadsheet.Evaluation

/-!
What cells show: literals their own text, formulas the text of their result, and a formula whose
evaluation fails its error code.
-/

namespace Spreadsheet

def Evaluation.text : Except EvalError Outcome → String
  | .ok outcome => outcome.text
  | .error e => e.cellError.code

namespace Source

/-- What a value shows at a position. The cell at the position is evaluated if it holds a formula,
and otherwise a formula is evaluated as one that stands in no cell. -/
def display (s : Source) (limit : Nat) (v : Value) (c : Coord) : String :=
  match v with
  | .formula f =>
    match s.evaluateCell limit c with
    | .ok (some outcome) => outcome.text
    | .ok none => Evaluation.text (s.evaluate limit f)
    | .error e => e.cellError.code
  | .integer i => toString i.toInt
  | .double x => Decimal.displayText x
  | .text t => t

def displayCell (s : Source) (limit : Nat) (c : Coord) : Option String :=
  (s.look? c).map fun v => s.display limit v c

theorem display_of_literalDisplay? {s : Source} {limit : Nat} {v : Value} {c : Coord}
    {text : String} (h : v.literalDisplay? = some text) : s.display limit v c = text := by
  cases v <;> simp_all [Value.literalDisplay?, display]

end Source
end Spreadsheet
