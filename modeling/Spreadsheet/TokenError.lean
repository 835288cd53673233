import Spreadsheet.Text.Visible

/-!
Why a token has no value.
-/

namespace Spreadsheet

inductive TokenError where
  /-- The token has the form of no value and of no formula. -/
  | rejected (token : String)
  /-- A formula has an operator of the right form that has no meaning, such as `<>`. -/
  | invalidOperator (op : String)
  /-- A coordinate does not fit 32 bits. -/
  | coordinateOverflow (digits : String)
  /-- A number is too large for a finite float. -/
  | invalidNumber (digits : String)
  deriving DecidableEq, Repr

namespace TokenError

def detail : TokenError → String
  | .rejected text | .invalidOperator text | .coordinateOverflow text | .invalidNumber text => text

def message : TokenError → String
  | .rejected token => "unrecognised cell data " ++ Text.visible token
  | .invalidOperator op => "invalid operator " ++ Text.visible op
  | .coordinateOverflow digits => "coordinate " ++ digits ++ " is out of range"
  | .invalidNumber digits => "invalid number " ++ Text.visible digits

end TokenError
end Spreadsheet
