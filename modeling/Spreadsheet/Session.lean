import Spreadsheet.Storage
import Spreadsheet.Layout
import Spreadsheet.Text.Blank
import Spreadsheet.File.Task

/-!
A session on one grid. A session begins without a table, loads one from a file at most once, edits
its cells, and saves the grid to the file it came from or was last saved to. Every step that can
fail comes before every change, so an operation that fails leaves the session as it was.
-/

namespace Spreadsheet

structure Config where
  policy : File.ExtensionPolicy := .strict
  depthLimit : Nat := defaultDepthLimit
  deriving DecidableEq, Repr

inductive SessionError where
  | cannotOpen (path : String) (cause : SystemError)
  | cannotCreate (path : String) (cause : SystemError)
  | input (cause : SystemError)
  | wrongExtension (path : String) (policy : File.ExtensionPolicy)
  | invalidEdit (coord : Coord) (cause : TokenError)
  | outOfBounds (error : OutOfBounds)
  | noPath
  deriving DecidableEq, Repr

namespace SessionError

def message : SessionError → String
  | .cannotOpen path cause => "cannot open " ++ path ++ ": " ++ cause.message
  | .cannotCreate path cause => "cannot create " ++ path ++ ": " ++ cause.message
  | .input cause => "IO error: " ++ cause.message
  | .wrongExtension path policy =>
    "wrong file extension for " ++ path ++ " (" ++ policy.name ++ " policy expects .txt)"
  | .invalidEdit coord cause =>
    "invalid value for " ++ coord.text ++ ": " ++ cause.message
  | .outOfBounds e => e.message
  | .noPath => "no file path is associated with the table"

/-- The message of the error behind this one, if there is one. -/
def cause? : SessionError → Option String
  | .cannotOpen _ cause | .cannotCreate _ cause | .input cause => some cause.message
  | .invalidEdit _ cause => some cause.message
  | .wrongExtension _ _ | .outOfBounds _ | .noPath => none

/-- The error of a file that cannot be read. A directory is opened and then refuses to be read. -/
def ofRead (path : String) : SystemError → SessionError
  | .isADirectory => .input .isADirectory
  | e => .cannotOpen path e

end SessionError

structure Session where
  grid : Grid
  path : Option String
  config : Config
  /-- A table has been loaded or given. -/
  isOpen : Bool
  /-- The grid has edits that are in no file. -/
  isDirty : Bool

inductive Opening where
  | opened (rejections : List Rejection)
  | alreadyOpen

namespace Session

def new (config : Config) : Session := ⟨.new 0 0, none, config, false, false⟩

/-- A session on a grid that is in no file. -/
def ofGrid (grid : Grid) (config : Config) : Session := ⟨grid, none, config, true, false⟩

def checkExtension (s : Session) (path : String) : Except SessionError Unit :=
  if s.config.policy.accepts path then .ok () else .error (.wrongExtension path s.config.policy)

def load (s : Session) (path : String) (bytes : ByteArray) :
    Except SessionError (Opening × Session) :=
  match Storage.ofBytes? bytes with
  | none => .error (.input .invalidText)
  | some loaded =>
    .ok (.opened loaded.rejections, ⟨loaded.grid, some path, s.config, true, false⟩)

/-- Load the table of a file, unless there is a table already. -/
def openFile (s : Session) (path : String) :
    File.Task (Except SessionError (Opening × Session)) :=
  if s.isOpen then .done (.ok (.alreadyOpen, s))
  else
    match s.checkExtension path with
    | .error e => .done (.error e)
    | .ok () =>
      .read path fun
        | .error e => .done (.error (.ofRead path e))
        | .ok bytes => .done (s.load path bytes)

/-- Write the grid to a file and make it the session's file. -/
def writeTo (s : Session) (path : String) : File.Task (Except SessionError Session) :=
  .write path s.grid.text.toUTF8 fun
    | .error e => .done (.error (.cannotCreate path e))
    | .ok () => .done (.ok { s with path := some path, isDirty := false })

def save (s : Session) : File.Task (Except SessionError Session) :=
  match s.path with
  | none => .done (.error .noPath)
  | some path => s.writeTo path

/-- Write the grid to a file with an accepted name and make it the session's file. -/
def saveAs (s : Session) (path : String) : File.Task (Except SessionError Session) :=
  match s.checkExtension path with
  | .error e => .done (.error e)
  | .ok () => s.writeTo path

/-- Store the value of an input at a position, and give the value that was there. Blanks around
the input do not count. -/
def edit (s : Session) (c : Coord) (input : String) : Except SessionError (Value × Session) :=
  match Value.ofToken (Text.trim input) with
  | .error e => .error (.invalidEdit c e)
  | .ok v =>
    match s.grid.set c v with
    | .error e => .error (.outOfBounds e)
    | .ok (previous, grid) => .ok (previous, { s with grid, isDirty := true })

def layout (s : Session) : Layout := s.grid.source.layout s.config.depthLimit

def print (s : Session) : Output Unit := s.layout.writeTo (some Layout.widestColumn)

end Session
end Spreadsheet
