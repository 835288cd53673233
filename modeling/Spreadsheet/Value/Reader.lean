import Spreadsheet.Value
import Spreadsheet.Formula.Reader

/-!
From tokens to values. A token is tried as an integer, as a text, as a float and as a formula,
in this order; an integer numeral too large for 64 bits is therefore a float.
-/

namespace Spreadsheet.Value

def ofToken (token : String) : Except TokenError Value :=
  match Numeral.integer? token.toList with
  | some i => .ok (.integer i)
  | none =>
    match Text.decode? token.toList with
    | some content => .ok (.text (String.ofList content))
    | none =>
      match Numeral.float? token.toList with
      | some x => .ok (.double x)
      | none => (Formula.ofText token).map .formula

end Spreadsheet.Value
