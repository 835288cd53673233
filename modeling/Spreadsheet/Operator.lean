/-!
The ten binary operators of formulas: four of arithmetic and six comparisons.
-/

namespace Spreadsheet

inductive Operator where
  | add | sub | mul | div
  | lt | gt | le | ge | eq | ne
  deriving DecidableEq, Repr

namespace Operator

/-- Every operator once, arithmetic first. -/
def all : List Operator :=
  [.add, .sub, .mul, .div, .lt, .gt, .le, .ge, .eq, .ne]

def symbol : Operator → String
  | .add => "+"
  | .sub => "-"
  | .mul => "*"
  | .div => "/"
  | .lt => "<"
  | .gt => ">"
  | .le => "<="
  | .ge => ">="
  | .eq => "=="
  | .ne => "!="

def ofSymbol? (symbol : String) : Option Operator :=
  all.find? fun op => op.symbol == symbol

def isComparison : Operator → Bool
  | .add | .sub | .mul | .div => false
  | _ => true

theorem mem_all (op : Operator) : op ∈ all := by
  cases op <;> simp [all]

theorem ofSymbol?_symbol (op : Operator) : ofSymbol? op.symbol = some op := by
  cases op <;> decide

theorem symbol_of_ofSymbol? {s : String} {op : Operator} (h : ofSymbol? s = some op) :
    op.symbol = s := by
  simpa using List.find?_some h

end Operator
end Spreadsheet
