import Spreadsheet.Evaluation

/-!
An evaluator that answers one request after another. It keeps the trail of cells that it is
inside of as its state: a cell is put on the trail before its formula is evaluated and taken off
after, also when the evaluation fails.
-/

namespace Spreadsheet

structure Evaluator where
  source : Source
  limit : Nat
  /-- The formula cells being evaluated, the innermost first. -/
  trail : List Coord

namespace Evaluator

/-- An evaluator that is inside of no cell. -/
def new (source : Source) (limit : Nat) : Evaluator := ⟨source, limit, []⟩

abbrev Run (α : Type) := ExceptT EvalError (StateM (List Coord)) α

def readOperand (s : Source) (enter : Coord → Formula → Run Outcome) : Operand → Run Number
  | .number x => pure (.float x)
  | .cell c =>
    match s.look? c with
    | none => pure (.int 0)
    | some (.integer i) => pure (.int i)
    | some (.double x) => pure (.float x)
    | some (.text t) => pure (.ofText t)
    | some (.formula f) => Outcome.toNumber <$> enter c f

def evaluateWith (s : Source) (enter : Coord → Formula → Run Outcome) (f : Formula) :
    Run Outcome := do
  let left ← readOperand s enter f.left
  let right ← readOperand s enter f.right
  pure (f.op.apply left right)

/-- Put a cell on the trail, run, and take it off again whatever the outcome. -/
def inside (c : Coord) (run : Run Outcome) : Run Outcome := fun trail =>
  let (result, after) := run.run.run (c :: trail)
  (result, after.tail)

/-- The result of a formula cell, with room for `room` more nested cells. -/
def enter (s : Source) (limit : Nat) : (room : Nat) → Coord → Formula → Run Outcome
  | 0, c, _ => do
    if c ∈ (← get) then throw (.cyclicReference c) else throw (.depthLimitExceeded limit)
  | room + 1, c, f => do
    if c ∈ (← get) then throw (.cyclicReference c)
    else inside c (evaluateWith s (enter s limit room) f)

/-- How many more cells fit on the trail. -/
def room (e : Evaluator) : Nat := e.limit - e.trail.length

def perform {α : Type} (e : Evaluator) (run : Run α) : Except EvalError α × Evaluator :=
  let (result, trail) := run.run.run e.trail
  (result, { e with trail })

/-- The result of a formula that stands in no cell. -/
def evaluate (e : Evaluator) (f : Formula) : Except EvalError Outcome × Evaluator :=
  e.perform (evaluateWith e.source (enter e.source e.limit e.room) f)

/-- The text of the result of a formula that stands in no cell. -/
def evaluateText (e : Evaluator) (f : Formula) : Except EvalError String × Evaluator :=
  let (result, e) := e.evaluate f
  (result.map Outcome.text, e)

/-- The result of the formula in a cell; nothing for a cell without a formula. -/
def evaluateCell (e : Evaluator) (c : Coord) :
    Except EvalError (Option Outcome) × Evaluator :=
  match e.source.formula? c with
  | none => (.ok none, e)
  | some f => e.perform (some <$> enter e.source e.limit e.room c f)

end Evaluator
end Spreadsheet
