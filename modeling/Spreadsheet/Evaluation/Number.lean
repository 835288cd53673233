import Spreadsheet.Value
import Spreadsheet.Numeral

/-!
Arithmetic and comparison of operands. Two integers combine as integers, and a result outside 64
bits is an error; when either operand is a float, both combine as floats, and a result that is
not finite is an error. A comparison gives a truth value, which reads as 0 or 1.
-/

namespace Spreadsheet

/-- What a cell shows in place of a value. -/
inductive CellError where
  /-- A division by zero, or a result out of range. -/
  | arithmetic
  /-- Formulas that refer to each other in a circle, or nest too deeply. -/
  | circular
  deriving DecidableEq, Repr

def CellError.code : CellError → String
  | .arithmetic => "ERROR"
  | .circular => "#CIRC!"

/-- A number as an operator takes it. -/
inductive Number where
  | int (i : Int64)
  | float (x : Float)
  deriving DecidableEq, Repr

inductive Outcome where
  | integer (i : Int64)
  | double (x : Float)
  | boolean (b : Bool)
  | error (e : CellError)
  deriving DecidableEq, Repr

namespace Number

def toFloat : Number → Float
  | .int i => Decimal.ofInteger i.toInt
  | .float x => x

/-- The number that a text cell reads as: its value as a decimal numeral, or zero. -/
def ofText (s : String) : Number :=
  match Numeral.float? s.toList with
  | some x => .float x
  | none =>
    match Numeral.integer? s.toList with
    | some i => .int i
    | none => .int 0

end Number

namespace Outcome

def ofInt (i : Int) : Outcome :=
  match Numeral.toInt64? i with
  | some i => .integer i
  | none => .error .arithmetic

def ofFloat (x : Float) : Outcome :=
  if x.isFinite then .double x else .error .arithmetic

def text : Outcome → String
  | .integer i => toString i.toInt
  | .double x => Decimal.displayText x
  | .boolean b => if b then "1" else "0"
  | .error e => e.code

/-- The number that another formula reads from a cell with this result. -/
def toNumber : Outcome → Number
  | .integer i => .int i
  | .double x => .float x
  | .boolean b => .int (if b then 1 else 0)
  | .error _ => .int 0

end Outcome

namespace Operator

/-- The operator on integers; a quotient is truncated toward zero. -/
def onIntegers (op : Operator) (a b : Int) : Outcome :=
  match op with
  | .add => .ofInt (a + b)
  | .sub => .ofInt (a - b)
  | .mul => .ofInt (a * b)
  | .div => if b = 0 then .error .arithmetic else .ofInt (a.tdiv b)
  | .lt => .boolean (a < b)
  | .gt => .boolean (b < a)
  | .le => .boolean (a ≤ b)
  | .ge => .boolean (b ≤ a)
  | .eq => .boolean (a == b)
  | .ne => .boolean (a != b)

/-- The operator on floats; division by either zero is an error. -/
def onFloats (op : Operator) (x y : Float) : Outcome :=
  match op with
  | .add => .ofFloat (x + y)
  | .sub => .ofFloat (x - y)
  | .mul => .ofFloat (x * y)
  | .div => if y == 0.0 then .error .arithmetic else .ofFloat (x / y)
  | .lt => .boolean (x < y)
  | .gt => .boolean (y < x)
  | .le => .boolean (x ≤ y)
  | .ge => .boolean (y ≤ x)
  | .eq => .boolean (x == y)
  | .ne => .boolean (x != y)

def apply (op : Operator) (left right : Number) : Outcome :=
  match left, right with
  | .int a, .int b => op.onIntegers a.toInt b.toInt
  | _, _ => op.onFloats left.toFloat right.toFloat

end Operator
end Spreadsheet
