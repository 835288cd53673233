import Spreadsheet.Value

/-!
Records: the line of a grid's row. Fields are separated by commas outside quoted text, and blanks
and tabs outside quoted text are dropped; quoted text runs from a quote to the next quote that no
escape precedes, and is kept as it is, quotes and escapes included.
-/

namespace Spreadsheet.Record

def delimiter : Char := ','

/-- Where a reader of a record is: outside quoted text, inside, or just after an escape inside. -/
inductive Position where
  | outside | inside | escaped
  deriving DecidableEq, Repr

inductive Action where
  | keep (next : Position)
  | drop
  | separate
  deriving DecidableEq, Repr

def Position.action : Position → Char → Action
  | .outside, c =>
    if c = delimiter then .separate
    else if c = ' ' ∨ c = '\t' then .drop
    else if c = Text.quote then .keep .inside
    else .keep .outside
  | .inside, c =>
    if c = Text.escape then .keep .escaped
    else if c = Text.quote then .keep .outside
    else .keep .inside
  | .escaped, _ => .keep .inside

def consField (c : Char) : List (List Char) → List (List Char)
  | [] => [[c]]
  | field :: fields => (c :: field) :: fields

def splitFrom : Position → List Char → List (List Char)
  | _, [] => [[]]
  | p, c :: rest =>
    match p.action c with
    | .keep next => consField c (splitFrom next rest)
    | .drop => splitFrom p rest
    | .separate => [] :: splitFrom p rest

/-- The raw fields of a line, at least one. -/
def split (line : List Char) : List (List Char) := splitFrom .outside line

def fields (line : String) : List String := (split line.toList).map String.ofList

/-- The line of a row: the storage forms of its values, between commas. -/
def join (row : List Value) : String :=
  ",".intercalate (row.map Value.storage)

theorem splitFrom_ne_nil (p : Position) (cs : List Char) : splitFrom p cs ≠ [] := by
  fun_induction splitFrom p cs with
  | case1 => simp
  | case2 p c rest next h ih => cases hs : splitFrom next rest <;> simp [consField]
  | case3 p c rest h ih => exact ih
  | case4 => simp

end Spreadsheet.Record
