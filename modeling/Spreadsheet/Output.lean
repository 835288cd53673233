import Spreadsheet.File.SystemError
import Spreadsheet.Sink

/-!
Programs that write to an output, one text after another. The first write that fails ends the
program with that failure. A program can also be broken off, which is no failure that anyone
handles: what was written and done until then stays, and nothing comes after it.
-/

namespace Spreadsheet

/-- Why a program stops before its end. -/
inductive Stop where
  | failed (cause : SystemError)
  /-- It is broken off, at a column that is too wide to be filled up with spaces. -/
  | tooWide
  deriving DecidableEq, Repr

def Stop.ofResult? : Except Stop Unit → Option Stop
  | .ok () => none
  | .error stop => some stop

abbrev Output (α : Type) := ExceptT Stop (StateM Sink) α

namespace Output

/-- How a program ends on an output, and the output after it. -/
def exec {α : Type} (p : Output α) (out : Sink) : Except Stop α × Sink := p.run.run out

def put (text : String) : Output Unit := do
  modify fun out => out.write text
  if (← get).failed then throw (.failed .outputFull)

end Output
end Spreadsheet
