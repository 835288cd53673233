import Spreadsheet.Decimal.Positional

/-!
Plain numerals: an optional sign and ASCII digits, for a decimal with at most one point. Every
integer numeral is a decimal numeral too. A numeral has a value only when the value fits its
type; a decimal too large for a finite float has none.
-/

namespace Spreadsheet.Numeral

def unsigned : List Char → List Char
  | '+' :: digits => digits
  | '-' :: digits => digits
  | digits => digits

def isNegative (cs : List Char) : Bool := cs.head? == some '-'

def isDigits (cs : List Char) : Bool := !cs.isEmpty && cs.all Char.isDigit

def isInteger (cs : List Char) : Bool := isDigits (unsigned cs)

def isDecimal (cs : List Char) : Bool :=
  let body := unsigned cs
  body.all (fun c => c.isDigit || c == '.') && body.count '.' ≤ 1 && body.any Char.isDigit

def value (digits : List Char) : Nat := Nat.ofDigitChars 10 digits 0

def toInt64? (i : Int) : Option Int64 :=
  if Int64.minValue.toInt ≤ i ∧ i ≤ Int64.maxValue.toInt then some (Int64.ofInt i) else none

def integer? (cs : List Char) : Option Int64 :=
  if isInteger cs then
    let magnitude : Int := value (unsigned cs)
    toInt64? (if isNegative cs then -magnitude else magnitude)
  else none

/-- The finite float nearest to unsigned digits with at most one point. -/
def finite? (negative : Bool) (body : List Char) : Option Float :=
  let pattern := (Decimal.ofDigits body).nearestPattern
  if pattern < Decimal.infinite then some (Decimal.ofPattern negative pattern) else none

def float? (cs : List Char) : Option Float :=
  if isDecimal cs then finite? (isNegative cs) (unsigned cs) else none

/-- The value of a run of digits as a coordinate, in 32 bits. -/
def coordinate? (digits : List Char) : Option UInt32 :=
  let n := value digits
  if n < UInt32.size then some (UInt32.ofNat n) else none

/-- A count: digits, after a plus sign if there is one, below a bound. -/
def count? (bound : Nat) (cs : List Char) : Option Nat :=
  let digits := if cs.head? == some '+' then cs.tail else cs
  if isDigits digits ∧ value digits < bound then some (value digits) else none

end Spreadsheet.Numeral
