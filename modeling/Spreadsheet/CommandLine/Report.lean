/-!
What a command leaves for its caller: an exit code and the text of both outputs. A failure is
reported as what was attempted, followed by its causes, each set in below the other.
-/

namespace Spreadsheet.CommandLine

structure Report where
  code : UInt8
  output : String
  errors : String
  deriving DecidableEq, Repr

/-- What was attempted and failed, and why: each cause comes from the next. -/
structure Failure where
  attempt : String
  causes : List String
  deriving DecidableEq, Repr

namespace Failure

/-- A cause with spaces in front of every line after its first. -/
def setIn (margin : Nat) (cause : String) : String :=
  String.ofList (cause.toList.flatMap fun c =>
    if c = '\n' then '\n' :: List.replicate margin ' ' else [c])

/-- The causes, each on a line of its own; several are numbered. -/
def causeLines : List String → List String
  | [] => []
  | [cause] => ["    " ++ setIn 4 cause]
  | causes => causes.zipIdx.map fun (cause, k) =>
    let number := toString k
    String.ofList (List.replicate (5 - number.length) ' ') ++ number ++ ": " ++ setIn 7 cause

def message (f : Failure) : String :=
  let causes := causeLines f.causes
  "Error: " ++ f.attempt ++ "\n" ++
    (if causes.isEmpty then "" else "\nCaused by:\n" ++ String.join (causes.map (· ++ "\n")))

end Failure
end Spreadsheet.CommandLine
