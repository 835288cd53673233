/-!
Names of files. A path is a text whose parts are separated by slashes; empty parts and single
dots say nothing about the name. The extension of a name is what follows its last dot, when
something comes before that dot.
-/

namespace Spreadsheet.File

def segments (path : String) : List String :=
  (path.toList.splitOn '/').map String.ofList

/-- The last part that names something, unless it leads to a parent directory. -/
def fileName? (path : String) : Option String :=
  match ((segments path).filter fun part => part != "" && part != ".").getLast? with
  | some ".." => none
  | name => name

/-- The text after the last dot of a name, when the dot is not the name's first character. -/
def extension? (name : String) : Option String :=
  let reversed := name.toList.reverse
  let afterDot := reversed.takeWhile (· != '.')
  match reversed.drop afterDot.length with
  | _dot :: _ :: _ => some (String.ofList afterDot.reverse)
  | _ => none

/-- How the name of a file is judged before it is loaded or saved. -/
inductive ExtensionPolicy where
  /-- The extension is `txt`. -/
  | strict
  /-- The path ends in `txt`, whatever comes before. -/
  | legacy
  deriving DecidableEq, Repr

def ExtensionPolicy.name : ExtensionPolicy → String
  | .strict => "strict"
  | .legacy => "legacy"

def ExtensionPolicy.accepts : ExtensionPolicy → String → Bool
  | .strict, path => (fileName? path).bind extension? == some "txt"
  | .legacy, path => "txt".toList.isSuffixOf path.toList

end Spreadsheet.File
