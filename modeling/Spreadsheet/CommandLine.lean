import Spreadsheet.Menu
import Spreadsheet.CommandLine.Arguments
import Spreadsheet.CommandLine.Report

/-!
The commands: `print` shows a table, `set` stores one cell and saves, and `edit` runs the menu.
Tokens that a table's file holds in vain are reported as warnings before anything else happens. A
table that cannot be printed breaks `print` and `edit` off.
-/

namespace Spreadsheet.CommandLine

def versionText : String := "gridcalc 0.1.0\n"

def usageText : String :=
  "usage: gridcalc [-v] [--legacy-extension] [--max-depth LIMIT] [COMMAND]\n" ++
    "commands:\n" ++
    "  edit [PATH]\n" ++
    "  print PATH\n" ++
    "  set PATH ROW COL VALUE [--output PATH]\n"

def failureOf (attempt : String) (e : SessionError) : Failure :=
  ⟨attempt, e.message :: e.cause?.toList⟩

def warnings : Opening → String
  | .opened rejections => String.join (rejections.map (Rejection.message "warning: skipped"))
  | .alreadyOpen => ""

/-- A session on the table of a file, with the warnings about it. -/
def openTable (config : Config) (path : String) :
    File.Task (Except Failure (String × Session)) := do
  match ← (Session.new config).openFile path with
  | .ok (opening, s) => pure (.ok (warnings opening, s))
  | .error e => pure (.error (failureOf ("failed to load table: " ++ path) e))

def failed (warned : String) (f : Failure) : Report := ⟨1, "", warned ++ f.message⟩

/-- What a program says when it is broken off. -/
def brokenOffText : String := "Formatting argument out of range\n"

/-- What is left of a command that wrote to its output, and of what stopped it, if anything did. -/
def reportOf (output warned attempt : String) (causes : SystemError → List String) :
    Option Stop → Report
  | none => ⟨0, output, warned⟩
  | some (.failed e) => ⟨1, output, warned ++ Failure.message ⟨attempt, causes e⟩⟩
  | some .tooWide => ⟨101, output, warned ++ brokenOffText⟩

def outputText (out : Sink) : String := (String.fromUTF8? out.written).getD ""

def printReport (warned : String) (s : Session) : Report :=
  let (result, out) := s.print.exec (.new none)
  reportOf (outputText out) warned "failed to print table"
    (fun e => [(SessionError.input e).message, e.message]) (Stop.ofResult? result)

def print (config : Config) (path : String) : File.Task Report := do
  match ← openTable config path with
  | .error f => pure (failed "" f)
  | .ok (warned, s) => pure (printReport warned s)

/-- Save a session to its own file, or to another. -/
def saveTo (s : Session) (output : Option String) : File.Task (Except SessionError Session) :=
  match output with
  | none => s.save
  | some path => s.saveAs path

/-- Store one cell of the table of a file, and save to the file or to another. -/
def set (config : Config) (path : String) (c : Coord) (value : String) (output : Option String) :
    File.Task Report := do
  match ← openTable config path with
  | .error f => pure (failed "" f)
  | .ok (warned, s) =>
    if s.grid.isEmpty then
      pure (failed warned ⟨"table " ++ path ++ " has no cells to edit", []⟩)
    else
      match s.edit c value with
      | .error e => pure (failed warned (failureOf ("failed to set " ++ c.text) e))
      | .ok (_, edited) =>
        match ← saveTo edited output with
        | .ok _ => pure ⟨0, "", warned⟩
        | .error e =>
          pure (failed warned (failureOf ("failed to save table: " ++ output.getD path) e))

/-- The session that the menu begins with, and the warnings about it. -/
def openForEdit (config : Config) (path : Option String) :
    File.Task (Except Failure (String × Session)) :=
  match path with
  | none => pure (.ok ("", .new config))
  | some path => openTable config path

def menuReport (output warned : String) (stop : Option Stop) : Report :=
  reportOf output warned "terminal I/O failed" (fun e => [e.message]) stop

/-- Run the menu on a session of a file, or on a new one. -/
def edit (config : Config) (path : Option String) (input : List Menu.Line) (files : File.Tree) :
    Report × File.Tree :=
  match (openForEdit config path).run files with
  | (.error f, files) => (failed "" f, files)
  | (.ok (warned, s), files) =>
    let r := Menu.start s files (.new none) input
    (menuReport (outputText r.out) warned r.stop, r.files)

/-- Run a command line on a tree of files, with the lines of its input. -/
def run (arguments : List String) (input : List Menu.Line) (files : File.Tree) :
    Report × File.Tree :=
  match parse? arguments with
  | none => (⟨2, "", usageText⟩, files)
  | some .version => (⟨0, versionText, ""⟩, files)
  | some .help => (⟨0, usageText, ""⟩, files)
  | some (.run config (.edit path)) => edit config path input files
  | some (.run config (.print path)) => (print config path).run files
  | some (.run config (.set path c value output)) => (set config path c value output).run files

end Spreadsheet.CommandLine
