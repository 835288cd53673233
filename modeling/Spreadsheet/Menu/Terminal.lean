import Spreadsheet.Menu
import Spreadsheet.Session.Operation

/-!
The menu as a conversation at a terminal. What it does is done on one state in order: write a
text, read a line, perform a session operation. Output that fails, a line that is not UTF-8 and a
table that cannot be printed stop it wherever it is. A command that asks again is a loop, as is the
menu; a loop goes round a given number of times at most, and where that is not enough there is no
outcome.
-/

namespace Spreadsheet.Menu

/-- A question that was put, the session and the files at that moment, and what was read: a line,
or nothing at the end of the input. -/
structure Turn where
  question : Question
  session : Session
  files : File.Tree
  line : Option Line

structure Terminal where
  session : Session
  files : File.Tree
  /-- The lines that have not been read. -/
  input : List Line
  out : Sink
  /-- The session and the files as they were at each byte that was written. -/
  moments : Array (Session × File.Tree)
  /-- The questions that were put. -/
  turns : List Turn

/-- Whether the menu goes on after a command. -/
inductive Flow where
  | goOn
  | quit

namespace Terminal

/-- A terminal where nothing was asked yet, with room for so many bytes of output. -/
def start (s : Session) (files : File.Tree) (input : List Line) (room : Option Nat) : Terminal :=
  ⟨s, files, input, .new room, #[], []⟩

def write (t : Terminal) (text : String) : Terminal :=
  let out := t.out.write text
  let kept := out.written.size - t.out.written.size
  { t with out, moments := t.moments ++ Array.replicate kept (t.session, t.files) }

abbrev Program (α : Type) := ExceptT Stop (StateT Terminal Option) α

namespace Program

/-- How a program ends at a terminal, and the terminal after it. -/
def exec {α : Type} (p : Program α) (t : Terminal) : Option (Except Stop α × Terminal) :=
  p.run.run t

/-- A loop that has gone round as often as it may. -/
def unfinished {α : Type} : Program α := fun _ => none

def put (text : String) : Program Unit := do
  modify fun t => t.write text
  if (← get).out.failed then throw (.failed .outputFull)

def readLine (q : Question) : Program (Option String) := do
  let t ← get
  let line := t.input.head?
  let turn : Turn := ⟨q, t.session, t.files, line⟩
  set ({ t with input := t.input.tail, turns := t.turns ++ [turn] } : Terminal)
  match line with
  | none => return none
  | some none => throw (.failed .invalidText)
  | some (some text) => return some (Text.dropLineEnd text)

/-- Put a question and read what is answered, nothing at the end of the input. -/
def ask (q : Question) : Program (Option String) := do
  put q.prompt
  readLine q

/-- Perform an operation on the session, and give what comes of it. -/
def call {α : Type} (op : Session.Operation α) : Program (Except SessionError α) := do
  let t ← get
  let (result, session, files) := op.perform t.session t.files
  set ({ t with session, files } : Terminal)
  return result

/-- Ask, and go on with the answer; the end of the input leaves the menu. -/
def asking (q : Question) (answered : String → Program Flow) : Program Flow := do
  match ← ask q with
  | none => return .quit
  | some line => answered line

/-- Load the table of a file, or ask `again` when its name is not accepted. -/
def openFile (again : Program Flow) (path : String) : Program Flow := do
  match ← call (.openFile path) with
  | .ok (.opened rejections) =>
    put ("Successfully opened " ++ path ++ "\n")
    rejections.forM fun r => put (r.message "Skipped")
    return .goOn
  | .ok .alreadyOpen => return .goOn
  | .error (.wrongExtension _ _) =>
    put wrongExtensionText
    again
  | .error e =>
    put (e.message ++ "\n")
    return .goOn

def openTable : (rounds : Nat) → Program Flow
  | 0 => unfinished
  | rounds + 1 => asking .openPath fun line => openFile (openTable rounds) (Text.trim line)

/-- Whether the table was saved to a file, or to another that is asked for when its name is not
accepted. -/
def saveTo (again : Program (Option Bool)) (path : String) : Program (Option Bool) := do
  match ← call (.saveAs path) with
  | .ok () =>
    put savedText
    return some true
  | .error (.wrongExtension _ _) =>
    put wrongExtensionText
    again
  | .error e =>
    put (e.message ++ "\n")
    return some false

/-- Whether the table was saved where the answer says, nothing at the end of the input. -/
def askSavePath (leaving : Bool) : (rounds : Nat) → Program (Option Bool)
  | 0 => unfinished
  | rounds + 1 => do
    match ← ask (.savePath leaving) with
    | none => return none
    | some line => saveTo (askSavePath leaving rounds) (Text.trim line)

def saveAs (rounds : Nat) : Program Flow := do
  match ← askSavePath false rounds with
  | none => return .quit
  | some _ => return .goOn

/-- Whether the table was saved to the session's file. -/
def saveHere : Program Bool := do
  match ← call .save with
  | .ok () =>
    put savedText
    return true
  | .error e =>
    put (e.message ++ "\n")
    return false

def save : Program Flow := do
  let _ ← saveHere
  return .goOn

/-- Leave the menu, after a save if the answer asks for one. A save that fails leads back. -/
def leaveWith (rounds : Nat) (answer : String) : Program Flow := do
  match answer with
  | "1" => return if ← saveHere then .quit else .goOn
  | "3" =>
    match ← askSavePath true rounds with
    | none => return .quit
    | some saved => return if saved then .quit else .goOn
  | _ => return .quit

def leave (rounds : Nat) : Program Flow :=
  asking .leave fun answer => leaveWith rounds (Text.trim answer)

def store (row column data : String) : Program Flow := do
  match coord? row column with
  | none =>
    put wrongCoordinatesText
    return .goOn
  | some c =>
    match ← call (.edit c data) with
    | .ok _ => return .goOn
    | .error (.outOfBounds _) =>
      put wrongCoordinatesText
      return .goOn
    | .error e =>
      put (e.message ++ "\n")
      return .goOn

def editCell : Program Flow :=
  asking .row fun row =>
    asking (.column (Text.trim row)) fun column =>
      asking (.data (Text.trim row) (Text.trim column)) fun data =>
        store (Text.trim row) (Text.trim column) data

def print : Program Flow := do
  match (← get).session.layout.text? with
  | none => throw .tooWide
  | some table =>
    put table
    return .goOn

def choose (rounds : Nat) (choice : String) : Program Flow := do
  match choice with
  | "1" => if (← get).session.isOpen then return .goOn else openTable rounds
  | "2" => saveAs rounds
  | "3" => leave rounds
  | "4" => save
  | "5" => editCell
  | "6" => print
  | _ =>
    put "Invalid choice. Try again.\n"
    return .goOn

/-- The menu, until the input or the output ends or the user leaves. -/
def converse : (rounds : Nat) → Program Unit
  | 0 => unfinished
  | rounds + 1 => do
    match ← ask .command with
    | none => return ()
    | some answer =>
      match ← choose rounds (Text.trim answer) with
      | .quit => return ()
      | .goOn =>
        put "\n"
        converse rounds

end Program
end Terminal
end Spreadsheet.Menu
