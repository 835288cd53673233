import Spreadsheet.Storage
import Spreadsheet.File.SystemError

/-!
Loading a grid from bytes as they come. A line is decoded as soon as it ends, and its tokens are
judged one after another, with the rejections so far at hand; a line that is not UTF-8 ends the
load.
-/

namespace Spreadsheet.Storage

section

variable {α : Type} [DecidableEq α]

/-- The pieces of a list, when some of the first one has been read, last item first. A piece ends
with the separator, or else with the list. -/
def piecesFrom (separator : α) (read : List α) : List α → List (List α)
  | [] => if read.isEmpty then [] else [read.reverse]
  | x :: rest =>
    if x = separator then (x :: read).reverse :: piecesFrom separator [] rest
    else piecesFrom separator (x :: read) rest

def pieces (separator : α) (xs : List α) : List (List α) := piecesFrom separator [] xs

end

/-- A piece without its line feed, and then without a carriage return before that. -/
def dropEnd (piece : List Char) : List Char :=
  if piece.getLast? = some '\n' then dropReturn piece.dropLast else piece

/-- The line of a piece, which must be UTF-8. -/
def lineOfBytes? (piece : List UInt8) : Option String :=
  (String.fromUTF8? ⟨piece.toArray⟩).map fun text => String.ofList (dropEnd text.toList)

/-- What reading gives, with the tokens rejected by then, unless it ends early. -/
abbrev Reading := StateT (List Rejection) (Except SystemError)

/-- The value of a token. One without a value is rejected and gives the empty text. -/
def judge (coord : Coord) (token : String) : Reading Value := do
  match Value.ofToken token with
  | .ok v => return v
  | .error e =>
    modify (· ++ [⟨coord, token, e⟩])
    return .empty

def readRow (r : Nat) (line : String) : Reading (List Value) :=
  (Record.fields line).zipIdx.mapM fun (token, c) => judge (.ofNat r c) token

def readPiece (r : Nat) (piece : List UInt8) : Reading (List Value) := do
  match lineOfBytes? piece with
  | none => throw .invalidText
  | some line => readRow r line

def readRows (bytes : ByteArray) : Reading (List (List Value)) :=
  (pieces 10 bytes.data.toList).zipIdx.mapM fun (piece, r) => readPiece r piece

/-- The grid of a file's contents, with the tokens that were rejected. -/
def read (bytes : ByteArray) : Except SystemError Loaded := do
  let (rows, rejections) ← (readRows bytes).run []
  return ⟨.ofRows rows, rejections⟩

end Spreadsheet.Storage
