/-!
The text of formulas. After its spaces are removed, a formula is `=`, an operand, an operator
and an operand, where an operand is `R` digits `C` digits or digits with an optional fraction,
and an operator is one of `+ - * /` or one or two of `< > = !`. A reader takes the longest piece
it can and gives what it read with the rest, so each formula has one decomposition; the pieces
joined again are the formula, and their spans lie end to end.
-/

namespace Spreadsheet.Formula

/-- A part of a text, from one offset up to another. -/
structure Span where
  start : Nat
  stop : Nat
  deriving DecidableEq, Repr

inductive OperandText where
  | coord (row col : List Char)
  | number (digits : List Char)
  deriving DecidableEq, Repr

/-- A formula as it is written, without spaces. -/
structure Written where
  left : OperandText
  op : List Char
  right : OperandText
  deriving DecidableEq, Repr

inductive Shape where
  | coordCoord | litCoord | litLit
  deriving DecidableEq, Repr

namespace OperandText

def text : OperandText → List Char
  | .coord row col => 'R' :: row ++ 'C' :: col
  | .number digits => digits

end OperandText

namespace Written

def text (w : Written) : List Char :=
  '=' :: w.left.text ++ w.op ++ w.right.text

def shape (w : Written) : Shape :=
  match w.left, w.right with
  | .coord _ _, .coord _ _ => .coordCoord
  | .number _, .number _ => .litLit
  | _, _ => .litCoord

def opStart (w : Written) : Nat := 1 + w.left.text.length

def opSpan (w : Written) : Span := ⟨w.opStart, w.opStart + w.op.length⟩

end Written

/-- Spaces, and no other blanks, do not count in a formula. -/
def stripSpaces (cs : List Char) : List Char := cs.filter (· != ' ')

/-- One or more digits, as many as there are. -/
def digits? (cs : List Char) : Option (List Char × List Char) :=
  let (run, rest) := cs.span Char.isDigit
  if run.isEmpty then none else some (run, rest)

/-- Digits, and a fraction when a point follows them. -/
def number? (cs : List Char) : Option (List Char × List Char) := do
  let (whole, rest) ← digits? cs
  match rest with
  | '.' :: rest =>
    let (fraction, rest) ← digits? rest
    some (whole ++ '.' :: fraction, rest)
  | rest => some (whole, rest)

def expect? (expected : Char) : List Char → Option (List Char)
  | c :: rest => if c = expected then some rest else none
  | [] => none

def operand? (cs : List Char) : Option (OperandText × List Char) :=
  match cs with
  | 'R' :: rest => do
    let (row, rest) ← digits? rest
    let rest ← expect? 'C' rest
    let (col, rest) ← digits? rest
    some (.coord row col, rest)
  | cs => do
    let (digits, rest) ← number? cs
    some (.number digits, rest)

def isArithmetic (c : Char) : Bool := c == '+' || c == '-' || c == '*' || c == '/'

def isComparing (c : Char) : Bool := c == '<' || c == '>' || c == '=' || c == '!'

/-- One arithmetic sign, or one or two comparing signs. -/
def operator? : List Char → Option (List Char × List Char)
  | [] => none
  | c :: rest =>
    if isArithmetic c then some ([c], rest)
    else if isComparing c then
      match rest with
      | d :: rest => if isComparing d then some ([c, d], rest) else some ([c], d :: rest)
      | [] => some ([c], [])
    else none

def read? (cs : List Char) : Option Written := do
  let rest ← expect? '=' cs
  let (left, rest) ← operand? rest
  let (op, rest) ← operator? rest
  let (right, rest) ← operand? rest
  if rest.isEmpty then some ⟨left, op, right⟩ else none

def recognize? (raw : String) : Option Written := read? (stripSpaces raw.toList)

end Spreadsheet.Formula
