import Spreadsheet.Decimal.Binary64

/-!
Unsigned decimals and their positional text. A decimal is a coefficient and a number of places
after the point. Text is written with all places, or with the trailing zeros after the point
left out, and reading a run of digits with at most one point gives back its value.
-/

namespace Spreadsheet

/-- The number `coefficient / 10^places`. -/
structure Decimal where
  coefficient : Nat
  places : Nat
  deriving DecidableEq, Repr

namespace Decimal

/-- The digits of a number, with zeros in front up to a least count. -/
def paddedDigits (count n : Nat) : List Char :=
  let digits := Nat.toDigits 10 n
  List.replicate (count - digits.length) '0' ++ digits

def wholeDigits (d : Decimal) : List Char :=
  Nat.toDigits 10 (d.coefficient / Nat.pow 10 d.places)

def fractionDigits (d : Decimal) : List Char :=
  if d.places = 0 then [] else paddedDigits d.places (d.coefficient % Nat.pow 10 d.places)

/-- A fraction without the zeros at its end, of which one stays when there is nothing else. -/
def trimFraction (digits : List Char) : List Char :=
  match (digits.reverse.dropWhile (· == '0')).reverse with
  | [] => ['0']
  | trimmed => trimmed

def fixedText (d : Decimal) : List Char :=
  d.wholeDigits ++ '.' :: d.fractionDigits

/-- At least one place, and no more than the value needs. -/
def trimmedText (d : Decimal) : List Char :=
  d.wholeDigits ++ '.' :: trimFraction d.fractionDigits

/-- The value of digits with at most one point among them. -/
def ofDigits (cs : List Char) : Decimal :=
  ⟨Nat.ofDigitChars 10 (cs.filter Char.isDigit) 0, (cs.dropWhile (· != '.')).length - 1⟩

/-- The pattern of the binary64 magnitude nearest to the decimal. -/
def nearestPattern (d : Decimal) : Nat :=
  nearest d.coefficient (Nat.pow 10 d.places)

end Decimal
end Spreadsheet
