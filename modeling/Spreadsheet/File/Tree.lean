import Spreadsheet.File.Path
import Spreadsheet.File.SystemError

/-!
A tree of directories and files. Paths are followed part by part from the working directory or
from the root, and every part but the last must lead to a directory. Reading needs a file;
writing replaces a file or makes a new one in a directory that is there. The system can refuse to
write a file that it reads, and to make a file at a place where none is.
-/

namespace Spreadsheet.File

inductive Start where
  /-- The working directory, or the directory so many steps above it. -/
  | working (above : Nat)
  | root
  deriving DecidableEq, Repr

/-- A place in the tree: names downwards from a start. -/
structure Location where
  start : Start
  names : List String
  deriving DecidableEq, Repr

namespace Location

def child (l : Location) (name : String) : Location := ⟨l.start, l.names ++ [name]⟩

def parent (l : Location) : Location :=
  if l.names.isEmpty then
    match l.start with
    | .working above => ⟨.working (above + 1), []⟩
    | .root => l
  else ⟨l.start, l.names.dropLast⟩

end Location

inductive Entry where
  | directory
  | file (bytes : ByteArray)
  /-- A file that is read but not written, with the system's words for why. -/
  | sealed (bytes : ByteArray) (refusal : String)
  /-- No file, where none can be made, with the system's words for why. -/
  | barred (refusal : String)

/-- The known entries, of which the first of a location counts. Every start is a directory. -/
structure Tree where
  entries : List (Location × Entry)

namespace Tree

def empty : Tree := ⟨[]⟩

def entry? (t : Tree) (l : Location) : Option Entry :=
  if l.names.isEmpty then some .directory
  else (t.entries.find? fun (location, _) => location == l).map (·.2)

/-- The tree with an entry at a location, in place of the one that was there if any. -/
def insert (t : Tree) (l : Location) (e : Entry) : Tree :=
  if t.entries.any fun (location, _) => location == l then
    ⟨t.entries.map fun (location, old) => if location == l then (l, e) else (location, old)⟩
  else ⟨t.entries ++ [(l, e)]⟩

def maxNameSize : Nat := 255

def maxPathSize : Nat := 4095

def step (l : Location) (part : String) : Except SystemError Location :=
  if part = "" ∨ part = "." then .ok l
  else if part = ".." then .ok l.parent
  else if maxNameSize < part.utf8ByteSize then .error .nameTooLong
  else .ok (l.child part)

/-- The directory at the end of the parts, from a directory. -/
def walk (t : Tree) : Location → List String → Except SystemError Location
  | l, [] => .ok l
  | l, part :: rest => do
    let next ← step l part
    match t.entry? next with
    | none | some (.barred _) => .error .notFound
    | some (.file _) | some (.sealed _ _) => .error .notADirectory
    | some .directory => t.walk next rest

/-- The directory from which a path is followed. -/
def origin (path : String) : Location :=
  ⟨if path.toList.head? == some '/' then .root else .working 0, []⟩

/-- What a path leads to: a name in a directory, and whether slashes follow the name. -/
structure Target where
  directory : Location
  name : String
  slash : Bool

/-- Follow a path up to its last name. -/
def locate (t : Tree) (path : String) : Except SystemError Target :=
  if path.toList.contains '\x00' then .error .nulInPath
  else if path = "" then .error .notFound
  else if maxPathSize < path.utf8ByteSize then .error .nameTooLong
  else do
    let parts := segments path
    let named := (parts.reverse.dropWhile (· == "")).reverse
    let directory ← t.walk (origin path) named.dropLast
    .ok ⟨directory, named.getLast?.getD "", named.length < parts.length⟩

def read (t : Tree) (path : String) : Except SystemError ByteArray := do
  let target ← t.locate path
  match t.entry? (← step target.directory target.name) with
  | none | some (.barred _) => .error .notFound
  | some .directory => .error .isADirectory
  | some (.file bytes) | some (.sealed bytes _) =>
    if target.slash then .error .notADirectory else .ok bytes

/-- The tree with new contents for the file that a path leads to. A slash at the end asks for a
directory, which is never written. -/
def write (t : Tree) (path : String) (bytes : ByteArray) : Except SystemError Tree := do
  let target ← t.locate path
  if target.slash then .error .isADirectory
  else
    let place ← step target.directory target.name
    match t.entry? place with
    | some .directory => .error .isADirectory
    | some (.sealed _ refusal) | some (.barred refusal) => .error (.other refusal)
    | none | some (.file _) => .ok (t.insert place (.file bytes))

/-- The files in and below the working directory, by their paths from there. -/
def files (t : Tree) : List (String × ByteArray) :=
  t.entries.filterMap fun (location, entry) =>
    match location.start, entry with
    | .working 0, .file bytes | .working 0, .sealed bytes _ =>
      some ("/".intercalate location.names, bytes)
    | _, _ => none

/-- The directory at the end of the parts, from a directory, in a tree where every directory that
was missing on the way is made. -/
def makeDirectories (t : Tree) : Location → List String → Except SystemError (Location × Tree)
  | l, [] => .ok (l, t)
  | l, part :: rest => do
    let next ← step l part
    match t.entry? next with
    | none => (t.insert next .directory).makeDirectories next rest
    | some (.file _) | some (.sealed _ _) => .error .notADirectory
    | some (.barred refusal) => .error (.other refusal)
    | some .directory => t.makeDirectories next rest

/-- The tree with a directory at a path, and those above it. -/
def addDirectory (t : Tree) (path : String) : Except SystemError Tree := do
  let (_, t) ← t.makeDirectories (origin path) (segments path)
  .ok t

/-- The tree with a file at a path, and the directories above it. -/
def addFile (t : Tree) (path : String) (bytes : ByteArray) : Except SystemError Tree := do
  let (_, t) ← t.makeDirectories (origin path) (segments path).dropLast
  t.write path bytes

end Tree
end Spreadsheet.File
