import Spreadsheet.Formula.Grammar

/-!
What the recognizer finds in a text: the shape of the formula and where its tokens lie. The text
without its spaces is scanned byte by byte from behind the `=`, once for each shape until a scan
reaches the end; all offsets are offsets of bytes.
-/

namespace Spreadsheet.Formula

inductive OperandSpan where
  | coord (row col : Span)
  | number (digits : Span)
  deriving DecidableEq, Repr

/-- The tokens that one scan found. -/
structure Matched where
  left : OperandSpan
  op : Span
  right : OperandSpan
  deriving DecidableEq, Repr

structure Recognition where
  source : String
  shape : Shape
  tokens : Matched

def Span.slice (span : Span) (source : String) : String :=
  String.Pos.Raw.extract source ⟨span.start⟩ ⟨span.stop⟩

def OperandSpan.stop : OperandSpan → Nat
  | .coord _ col => col.stop
  | .number digits => digits.stop

def bytes (source : String) : List UInt8 := source.toUTF8.data.toList

section Scan

variable (src : List UInt8) (start : Nat)

/-- The byte at an offset. A byte of a longer character reads as no character of the grammar. -/
def peek? : Option Char := src[start]?.map Char.ofUInt8

/-- The offset behind an expected character. -/
def eat? (expected : Char) : Option Nat :=
  if peek? src start = some expected then some (start + 1) else none

def scanDigits? : Option Span :=
  let run := (src.drop start).takeWhile fun b => (Char.ofUInt8 b).isDigit
  if run.isEmpty then none else some ⟨start, start + run.length⟩

def scanNumber? : Option Span := do
  let whole ← scanDigits? src start
  if peek? src whole.stop = some '.' then
    let fraction ← scanDigits? src (whole.stop + 1)
    some ⟨whole.start, fraction.stop⟩
  else some whole

def scanLiteral? : Option OperandSpan := (scanNumber? src start).map .number

def scanCoord? : Option OperandSpan := do
  let row ← scanDigits? src (← eat? src start 'R')
  let col ← scanDigits? src (← eat? src row.stop 'C')
  some (.coord row col)

def scanOperator? : Option Span := do
  let first ← peek? src start
  if isArithmetic first then some ⟨start, start + 1⟩
  else if isComparing first then
    if (peek? src (start + 1)).any isComparing then some ⟨start, start + 2⟩
    else some ⟨start, start + 1⟩
  else none

end Scan

/-- A scan for an operand from an offset. -/
abbrev OperandScan := List UInt8 → Nat → Option OperandSpan

/-- A left operand from behind the `=`, an operator and a right operand that ends the text. -/
def scanSides? (left right : OperandScan) (src : List UInt8) : Option Matched := do
  let l ← left src 1
  let op ← scanOperator? src l.stop
  let r ← right src op.stop
  if r.stop = src.length then some ⟨l, op, r⟩ else none

def scanCoordCoord? : List UInt8 → Option Matched := scanSides? scanCoord? scanCoord?

def scanLitCoord? (src : List UInt8) : Option Matched := do
  let first ← peek? src 1
  if first = 'R' then scanSides? scanCoord? scanLiteral? src
  else scanSides? scanLiteral? scanCoord? src

def scanLitLit? : List UInt8 → Option Matched := scanSides? scanLiteral? scanLiteral?

/-- The scans for the three shapes, in the order in which they are tried. -/
def scans : List (Shape × (List UInt8 → Option Matched)) :=
  [(.coordCoord, scanCoordCoord?), (.litCoord, scanLitCoord?), (.litLit, scanLitLit?)]

/-- The first scan that succeeds gives the shape. -/
def firstMatch? (scans : List (Shape × (List UInt8 → Option Matched))) (src : List UInt8) :
    Option (Shape × Matched) :=
  scans.findSome? fun (shape, scan) => (scan src).map (shape, ·)

def Recognition.ofText? (raw : String) : Option Recognition :=
  let stripped := stripSpaces raw.toList
  if stripped.head? = some '=' then do
    let source := String.ofList stripped
    let (shape, tokens) ← firstMatch? scans (bytes source)
    some ⟨source, shape, tokens⟩
  else none

end Spreadsheet.Formula
