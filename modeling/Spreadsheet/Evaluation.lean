import Spreadsheet.Source
import Spreadsheet.Evaluation.Number

/-!
Evaluation of formulas against a source. An operand that names a formula cell is evaluated in
turn, below the cells whose formulas are already being evaluated; coming back to one of these is
a cycle, and a bound on their number keeps evaluation finite even before a cycle closes. The left
operand is evaluated first, and the first failure ends the evaluation.
-/

namespace Spreadsheet

inductive EvalError where
  /-- The evaluation came back to a cell that it was still inside of. -/
  | cyclicReference (c : Coord)
  /-- Formula cells nest deeper than the limit. -/
  | depthLimitExceeded (limit : Nat)
  deriving DecidableEq, Repr

namespace EvalError

def message : EvalError → String
  | .cyclicReference c => "reference cycle through " ++ c.text
  | .depthLimitExceeded limit => "formula nesting exceeds " ++ toString limit ++ " levels"

def cellError : EvalError → CellError
  | .cyclicReference _ | .depthLimitExceeded _ => .circular

end EvalError

/-- How deep formula cells may nest when nothing else is said. -/
def defaultDepthLimit : Nat := 64

/-- The number of an operand, given how to evaluate a formula cell. -/
def Operand.read (s : Source) (enter : Coord → Formula → Except EvalError Outcome) :
    Operand → Except EvalError Number
  | .number x => .ok (.float x)
  | .cell c =>
    match s.look? c with
    | none => .ok (.int 0)
    | some (.integer i) => .ok (.int i)
    | some (.double x) => .ok (.float x)
    | some (.text t) => .ok (.ofText t)
    | some (.formula f) => (enter c f).map Outcome.toNumber

/-- The result of a formula, given how to evaluate a formula cell. -/
def Formula.evaluateWith (s : Source) (enter : Coord → Formula → Except EvalError Outcome)
    (f : Formula) : Except EvalError Outcome :=
  match f.left.read s enter with
  | .error e => .error e
  | .ok left =>
    match f.right.read s enter with
    | .error e => .error e
    | .ok right => .ok (f.op.apply left right)

namespace Source

/-- The result of the formula `f` at `c`, inside the cells of `trail`, with room for `room` more
nested cells. -/
def enter (s : Source) (limit : Nat) :
    (room : Nat) → (trail : List Coord) → Coord → Formula → Except EvalError Outcome
  | 0, trail, c, _ =>
    if c ∈ trail then .error (.cyclicReference c) else .error (.depthLimitExceeded limit)
  | room + 1, trail, c, f =>
    if c ∈ trail then .error (.cyclicReference c)
    else f.evaluateWith s (s.enter limit room (c :: trail))

/-- The result of a formula that stands in no cell. -/
def evaluate (s : Source) (limit : Nat) (f : Formula) : Except EvalError Outcome :=
  f.evaluateWith s (s.enter limit limit [])

/-- The result of the formula in a cell; nothing for a cell without a formula. -/
def evaluateCell (s : Source) (limit : Nat) (c : Coord) : Except EvalError (Option Outcome) :=
  match s.formula? c with
  | none => .ok none
  | some f => (s.enter limit limit [] c f).map some

end Source
end Spreadsheet
