import Spreadsheet.Formula
import Spreadsheet.Text.Quoted

/-!
What a cell holds: an integer of 64 bits, a float, a text or a formula. Every value has a storage
form, the token that stands for it in a file.
-/

namespace Spreadsheet

inductive Value where
  | integer (i : Int64)
  | double (x : Float)
  | text (s : String)
  | formula (f : Formula)
  deriving DecidableEq, Repr

namespace Value

/-- The empty text, which a cell holds when nothing else is known of it. -/
def empty : Value := .text ""

instance : Inhabited Value := ⟨empty⟩

inductive Kind where
  | integer | double | text | formula
  deriving DecidableEq, Repr

def Kind.name : Kind → String
  | .integer => "integer"
  | .double => "double"
  | .text => "text"
  | .formula => "formula"

def kind : Value → Kind
  | .integer _ => .integer
  | .double _ => .double
  | .text _ => .text
  | .formula _ => .formula

def isFormula (v : Value) : Bool := v.kind == .formula

def formula? : Value → Option Formula
  | .formula f => some f
  | _ => none

/-- What a cell with this value shows, where that does not depend on other cells. -/
def literalDisplay? : Value → Option String
  | .integer i => some (toString i.toInt)
  | .double x => some (Decimal.displayText x)
  | .text s => some s
  | .formula _ => none

def storage : Value → String
  | .integer i => toString i.toInt
  | .double x => Decimal.storageText x
  | .text s => String.ofList (Text.encode s.toList)
  | .formula f => f.storage

/-- Equal as values of cells, where floats compare as numbers. -/
def agrees : Value → Value → Bool
  | .integer i, .integer j => i == j
  | .double x, .double y => x == y
  | .text s, .text t => s == t
  | .formula f, .formula g => f.agrees g
  | _, _ => false

@[simp] theorem isFormula_formula (f : Formula) : (Value.formula f).isFormula = true := rfl

theorem isFormula_iff {v : Value} : v.isFormula = true ↔ ∃ f, v = .formula f := by
  cases v <;> simp [isFormula, kind]

end Value
end Spreadsheet
