import Spreadsheet.Decimal.Positional

/-!
The text of binary64 values. Storage needs the fewest digits that read back: of the decimals
with one, two, … seventeen significant digits next to the value, the first that reads back is
taken, the nearer one first and the upper one on a tie. Display needs six places: the exact
value rounded, a half to the even neighbour. Both texts are positional at every magnitude.
-/

namespace Spreadsheet.Decimal

def exact (pattern : Nat) : Decimal :=
  let shift := shiftOf pattern
  if shift ≤ 1074 then ⟨mantissaOf pattern * Nat.pow 5 (1074 - shift), 1074 - shift⟩
  else ⟨mantissaOf pattern * Nat.pow 2 (shift - 1074), 0⟩

/-- The two decimals of `count` significant digits around `d`, the nearer one first. -/
def neighbours (count : Nat) (d : Decimal) : List Decimal :=
  let unit := Nat.pow 10 ((Nat.toDigits 10 d.coefficient).length - count)
  let below := d.coefficient / unit * unit
  let above := below + unit
  if 2 * (d.coefficient - below) < unit then [⟨below, d.places⟩, ⟨above, d.places⟩]
  else [⟨above, d.places⟩, ⟨below, d.places⟩]

/-- The decimal of fewest significant digits that reads back to a finite pattern. -/
def shortest (pattern : Nat) : Decimal :=
  let d := exact pattern
  let readsBack := fun (c : Decimal) => c.nearestPattern == pattern
  ((List.range 17).findSome? fun k => (neighbours (k + 1) d).find? readsBack).getD d

def rounded (places pattern : Nat) : Decimal :=
  let units := mantissaOf pattern * Nat.pow 2 (shiftOf pattern)
  ⟨roundHalfEven (units * Nat.pow 10 places) unitsPerOne, places⟩

/-- A float's text, given the text of its finite magnitude: the sign of zero shows and the sign
of a value that is no number does not. -/
def signedText (x : Float) (finiteText : Nat → List Char) : String :=
  if infinite < pattern x then "NaN"
  else
    let body := if pattern x = infinite then ['i', 'n', 'f'] else finiteText (pattern x)
    String.ofList (if isNegative x then '-' :: body else body)

/-- The storage form of a float: the shortest text that reads back, always with a point. -/
def storageText (x : Float) : String :=
  signedText x fun p => (shortest p).trimmedText

/-- The display form of a float: six places. -/
def displayText (x : Float) : String :=
  signedText x fun p => (rounded 6 p).fixedText

end Spreadsheet.Decimal
