import Spreadsheet.CommandLine

/-!
The program: the commands performed on the disk, and the menu on the terminal.
-/

namespace Spreadsheet.Program

/-- The number of a refusal, which some calls give negated in 32 bits. -/
def refusalNumber (code : UInt32) : Nat := code.toInt32.toInt.natAbs

/-- The system's refusal behind an error of reading or writing, by its number. -/
def systemError (e : IO.Error) : SystemError :=
  match e with
  | .noFileOrDirectory _ _ _ => .notFound
  | .inappropriateType _ code _ =>
    match refusalNumber code with
    | 20 => .notADirectory
    | 21 => .isADirectory
    | _ => .other (toString e)
  | .invalidArgument _ code _ =>
    if refusalNumber code = 36 then .nameTooLong else .other (toString e)
  | e => .other (toString e)

def attempt {α : Type} (action : IO α) : IO (Except SystemError α) := do
  try
    return .ok (← action)
  catch e =>
    return .error (systemError e)

/-- The outcome of an action on the file of a path. -/
def attemptAt {α : Type} (path : String) (action : IO α) : IO (Except SystemError α) :=
  if path.toList.contains '\x00' then return .error .nulInPath else attempt action

def perform {α : Type} : File.Task α → IO α
  | .done a => return a
  | .read path next => do perform (next (← attemptAt path (IO.FS.readBinFile path)))
  | .write path bytes next => do
    perform (next (← attemptAt path (IO.FS.writeBinFile path bytes)))

def finish (r : CommandLine.Report) : IO UInt32 := do
  IO.print r.output
  IO.eprint r.errors
  return r.code.toUInt32

/-- The bytes up to the next line feed and with it, or up to the end of the input. -/
partial def readLine (input : IO.FS.Stream) (line : ByteArray) : IO ByteArray := do
  let next ← input.read 1
  if next.isEmpty then return line
  else if next.data == #[10] then return line ++ next
  else readLine input (line ++ next)

/-- Ask the menu's questions on the terminal until it ends, and give what stopped it before. -/
partial def converse (q : Menu.Question) (s : Session) : IO (Option Stop) := do
  let output ← IO.getStdout
  output.putStr q.prompt
  output.flush
  let line ← readLine (← IO.getStdin) .empty
  if line.isEmpty then return none
  match String.fromUTF8? line with
  | none => return some (.failed .invalidText)
  | some line =>
    let reply ← perform (Menu.answer s q line)
    output.putStr reply.text
    match reply.next with
    | .question next => converse next reply.session
    | .leave => return none
    | .breakOff => return some .tooWide

def edit (config : Config) (path : Option String) : IO UInt32 := do
  match ← perform (CommandLine.openForEdit config path) with
  | .error f => finish (CommandLine.failed "" f)
  | .ok (warned, s) =>
    IO.eprint warned
    let stop ← match ← attempt (converse .command s) with
      | .ok stop => pure stop
      | .error e => pure (some (.failed e))
    finish (CommandLine.menuReport "" "" stop)

end Spreadsheet.Program

open Spreadsheet in
def main (arguments : List String) : IO UInt32 := do
  match CommandLine.parse? arguments with
  | none => Program.finish ⟨2, "", CommandLine.usageText⟩
  | some .version => Program.finish ⟨0, CommandLine.versionText, ""⟩
  | some .help => Program.finish ⟨0, CommandLine.usageText, ""⟩
  | some (.run config (.edit path)) => Program.edit config path
  | some (.run config (.print path)) =>
    Program.finish (← Program.perform (CommandLine.print config path))
  | some (.run config (.set path c value output)) =>
    Program.finish (← Program.perform (CommandLine.set config path c value output))
