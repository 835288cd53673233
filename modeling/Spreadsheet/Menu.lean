import Spreadsheet.Session

/-!
The interactive menu. The menu asks questions one at a time; each takes one line of input, does at
most one thing to the session or its files, writes what came of it, and leads to the next
question or to the end. The end of input ends the menu at every question, and output that fails
ends it before anything else is done. A table that cannot be printed breaks the menu off.
-/

namespace Spreadsheet.Menu

inductive Question where
  | command
  | openPath
  /-- Where to save; `leaving` when the menu ends after it. -/
  | savePath (leaving : Bool)
  /-- Whether to save before leaving. -/
  | leave
  | row
  | column (row : String)
  | data (row column : String)
  deriving DecidableEq, Repr

def Question.prompt : Question → String
  | .command =>
    "Choose a command:\n1. Open\n2. Save As\n3. Exit\n4. Save\n5. Edit Cell\n6. Print\n" ++
      "Enter your choice: "
  | .openPath => "Enter file path to load table: "
  | .savePath _ => "Enter file path to save the file in: "
  | .leave => "Do you want to save before you exit? 1.yes/2.no/3.saveAs "
  | .row => "Enter the row: "
  | .column _ => "Enter the column: "
  | .data _ _ => "Enter the data: "

/-- What comes after an answer. -/
inductive Next where
  | question (q : Question)
  /-- The menu ends. -/
  | leave
  /-- The menu is broken off. -/
  | breakOff
  deriving DecidableEq, Repr

/-- What an answer leads to: the text to write, the session, and what comes next. -/
structure Reply where
  text : String
  session : Session
  next : Next

def ask (s : Session) (text : String) (q : Question) : Reply := ⟨text, s, .question q⟩

def again (s : Session) (text : String) : Reply := ⟨text ++ "\n", s, .question .command⟩

def quit (s : Session) (text : String) : Reply := ⟨text, s, .leave⟩

def savedText : String := "Table successfully saved\n"

def wrongExtensionText : String := "Wrong file extension, enter again\n"

def wrongCoordinatesText : String := "Wrong coordinates given\n"

def openedText (path : String) (rejections : List Rejection) : String :=
  "Successfully opened " ++ path ++ "\n" ++
    String.join (rejections.map (Rejection.message "Skipped"))

def answerOpenPath (s : Session) (path : String) : File.Task Reply := do
  match ← s.openFile path with
  | .ok (.opened rejections, opened) => pure (again opened (openedText path rejections))
  | .ok (.alreadyOpen, s) => pure (again s "")
  | .error (.wrongExtension _ _) => pure (ask s wrongExtensionText .openPath)
  | .error e => pure (again s (e.message ++ "\n"))

def afterSave (leaving : Bool) (s : Session) : Reply :=
  if leaving then quit s savedText else again s savedText

def answerSavePath (leaving : Bool) (s : Session) (path : String) : File.Task Reply := do
  match ← s.saveAs path with
  | .ok saved => pure (afterSave leaving saved)
  | .error (.wrongExtension _ _) => pure (ask s wrongExtensionText (.savePath leaving))
  | .error e => pure (again s (e.message ++ "\n"))

def answerSave (leaving : Bool) (s : Session) : File.Task Reply := do
  match ← s.save with
  | .ok saved => pure (afterSave leaving saved)
  | .error e => pure (again s (e.message ++ "\n"))

def answerLeave (s : Session) (answer : String) : File.Task Reply :=
  match answer with
  | "1" => answerSave true s
  | "3" => pure (ask s "" (.savePath true))
  | _ => pure (quit s "")

/-- The table, which is written only when there is a text of it. -/
def answerPrint (s : Session) : Reply :=
  match s.layout.text? with
  | none => ⟨"", s, .breakOff⟩
  | some table => again s table

def answerCommand (s : Session) (choice : String) : File.Task Reply :=
  match choice with
  | "1" => pure (if s.isOpen then again s "" else ask s "" .openPath)
  | "2" => pure (ask s "" (.savePath false))
  | "3" => pure (ask s "" .leave)
  | "4" => answerSave false s
  | "5" => pure (ask s "" .row)
  | "6" => pure (answerPrint s)
  | _ => pure (again s "Invalid choice. Try again.\n")

def coord? (row column : String) : Option Coord := do
  let row ← Numeral.count? UInt32.size row.toList
  let column ← Numeral.count? UInt32.size column.toList
  some (Coord.ofNat row column)

def answerData (s : Session) (row column data : String) : Reply :=
  match coord? row column with
  | none => again s wrongCoordinatesText
  | some c =>
    match s.edit c data with
    | .ok (_, edited) => again edited ""
    | .error (.outOfBounds _) => again s wrongCoordinatesText
    | .error e => again s (e.message ++ "\n")

/-- What the answer to a question leads to. Blanks around an answer do not count. -/
def answer (s : Session) (q : Question) (line : String) : File.Task Reply :=
  let text := Text.trim line
  match q with
  | .command => answerCommand s text
  | .openPath => answerOpenPath s text
  | .savePath leaving => answerSavePath leaving s text
  | .leave => answerLeave s text
  | .row => pure (ask s "" (.column text))
  | .column row => pure (ask s "" (.data row text))
  | .data row column => pure (answerData s row column text)

/-- A line of input; nothing for one that is not UTF-8. -/
abbrev Line := Option String

/-- The lines of an input. What follows the last line feed is a line when it is not empty. -/
def lines (input : ByteArray) : List Line :=
  let pieces := input.data.toList.splitOn 10
  let kept := if pieces.getLast? = some [] then pieces.dropLast else pieces
  kept.map fun piece => String.fromUTF8? ⟨piece.toArray⟩

structure Result where
  session : Session
  files : File.Tree
  out : Sink
  /-- Why the run stopped before its end, if it did. -/
  stop : Option Stop

/-- Run the menu from a question, one line for each question. -/
def run (q : Question) (s : Session) (files : File.Tree) (out : Sink) : List Line → Result
  | [] =>
    let out := out.write q.prompt
    ⟨s, files, out, if out.failed then some (.failed .outputFull) else none⟩
  | line :: rest =>
    let out := out.write q.prompt
    if out.failed then ⟨s, files, out, some (.failed .outputFull)⟩
    else
      match line with
      | none => ⟨s, files, out, some (.failed .invalidText)⟩
      | some line =>
        let (reply, files) := (answer s q line).run files
        let out := out.write reply.text
        if out.failed then ⟨reply.session, files, out, some (.failed .outputFull)⟩
        else
          match reply.next with
          | .question next => run next reply.session files out rest
          | .leave => ⟨reply.session, files, out, none⟩
          | .breakOff => ⟨reply.session, files, out, some .tooWide⟩

def start (s : Session) (files : File.Tree) (out : Sink) (input : List Line) : Result :=
  run .command s files out input

end Spreadsheet.Menu
