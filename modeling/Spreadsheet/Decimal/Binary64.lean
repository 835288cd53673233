/-!
The finite values of binary64 as exact numbers. Without its sign, a finite value is a whole
number of units of 2^-1074, and its bit pattern is `shift * 2^52 + mantissa` for the value
`mantissa * 2^shift` units, where the mantissa has 53 bits unless the shift is zero. So the
patterns are ordered as the values are, and rounding a quotient to the nearest value is one
division. Powers are written `Nat.pow`, since `^` becomes the power of a monoid where one is known.
-/

namespace Spreadsheet.Decimal

/-- How many units of 2^-1074 make one. -/
def unitsPerOne : Nat := Nat.pow 2 1074

/-- The bit pattern of infinity, above the pattern of every finite magnitude. -/
def infinite : Nat := 2047 * Nat.pow 2 52

/-- The power of two by which a pattern's mantissa is scaled. -/
def shiftOf (pattern : Nat) : Nat := pattern / Nat.pow 2 52 - 1

def mantissaOf (pattern : Nat) : Nat := pattern - shiftOf pattern * Nat.pow 2 52

/-- The quotient rounded to the nearest whole number, a half to the even neighbour. -/
def roundHalfEven (num den : Nat) : Nat :=
  let down := num / den
  let twice := 2 * (num % den)
  if twice < den then down
  else if den < twice then down + 1
  else down + down % 2

/-- The pattern of the binary64 magnitude nearest to `num / den`, a half to the even
mantissa; `infinite` for a quotient too large for any finite magnitude. -/
def nearest (num den : Nat) : Nat :=
  -- the large factors stand on the left, so that reduction stops at the variable
  let scaled := unitsPerOne * num
  let shift := (scaled / den / Nat.pow 2 52).log2
  min infinite (Nat.pow 2 52 * shift + roundHalfEven scaled (den * Nat.pow 2 shift))

/-- The pattern of a float without its sign bit. -/
def pattern (x : Float) : Nat := x.toBits.toNat % Nat.pow 2 63

/-- The sign bit is set, as it is for negative zero. -/
def isNegative (x : Float) : Bool := Nat.pow 2 63 ≤ x.toBits.toNat

def ofPattern (negative : Bool) (pattern : Nat) : Float :=
  Float.ofBits (UInt64.ofNat (pattern + if negative then Nat.pow 2 63 else 0))

def ofInteger (i : Int) : Float :=
  ofPattern (i < 0) (nearest i.natAbs 1)

end Spreadsheet.Decimal
