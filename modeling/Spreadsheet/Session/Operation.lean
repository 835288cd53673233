import Spreadsheet.Session

/-!
The operations on a session that is held in one place. An operation looks at the session, asks for
a file or sets a field, one after another, and where it fails it stops: fields that are set by
then stay set, and so do files.
-/

namespace Spreadsheet.Session

/-- What an operation gives or why it fails, with the session as it is by then. -/
abbrev Operation (α : Type) := ExceptT SessionError (StateT Session File.Task) α

namespace Operation

def checkExtension (path : String) : Operation Unit := do
  let policy := (← get).config.policy
  unless policy.accepts path do throw (.wrongExtension path policy)

def readFile (path : String) : Operation ByteArray := fun s =>
  .read path fun
    | .error e => .done (.error (.ofRead path e), s)
    | .ok bytes => .done (.ok bytes, s)

def load (path : String) : Operation Loaded := do
  let bytes ← readFile path
  match Storage.ofBytes? bytes with
  | none => throw (.input .invalidText)
  | some loaded => return loaded

/-- Write the grid to a file. -/
def writeGrid (path : String) : Operation Unit := fun s =>
  .write path s.grid.text.toUTF8 fun
    | .error e => .done (.error (.cannotCreate path e), s)
    | .ok () => .done (.ok (), s)

def setCell (c : Coord) (v : Value) : Operation Value := do
  match (← get).grid.set c v with
  | .error e => throw (.outOfBounds e)
  | .ok (previous, grid) =>
    modify fun s => { s with grid }
    return previous

def openFile (path : String) : Operation Opening := do
  if (← get).isOpen then return .alreadyOpen
  checkExtension path
  let loaded ← load path
  modify fun s => { s with grid := loaded.grid }
  modify fun s => { s with path := some path }
  modify fun s => { s with isOpen := true }
  modify fun s => { s with isDirty := false }
  return .opened loaded.rejections

def save : Operation Unit := do
  match (← get).path with
  | none => throw .noPath
  | some path =>
    writeGrid path
    modify fun s => { s with isDirty := false }

def saveAs (path : String) : Operation Unit := do
  checkExtension path
  writeGrid path
  modify fun s => { s with path := some path }
  modify fun s => { s with isDirty := false }

def edit (c : Coord) (input : String) : Operation Value := do
  match Value.ofToken (Text.trim input) with
  | .error e => throw (.invalidEdit c e)
  | .ok v =>
    let previous ← setCell c v
    modify fun s => { s with isDirty := true }
    return previous

def render : Operation Layout := return (← get).layout

/-- Perform an operation on a session among files. -/
def perform {α : Type} (op : Operation α) (s : Session) (files : File.Tree) :
    Except SessionError α × Session × File.Tree :=
  let ((result, s), files) := (op.run.run s).run files
  (result, s, files)

end Operation
end Spreadsheet.Session
