import Spreadsheet.Session

/-!
The arguments of a command line. Options may stand before a command and after it. An argument
that begins with a dash is an option or a group of one-letter options, unless it is a lone dash or
comes after `--`. An option that takes a value takes the rest of its argument after `=`, or else
the next argument, which must not begin with a dash itself. Of a limit given before and after the
command, the one after it counts.
-/

namespace Spreadsheet.CommandLine

inductive Command where
  | edit (path : Option String)
  | print (path : String)
  | set (path : String) (coord : Coord) (value : String) (output : Option String)
  deriving DecidableEq, Repr

inductive Request where
  | version
  | help
  | run (config : Config) (command : Command)
  deriving DecidableEq, Repr

/-- Where arguments stand: before a command, or after its name. -/
inductive Level where
  | top | edit | print | set
  deriving DecidableEq, Repr

def Level.ofName? : String → Option Level
  | "edit" => some .edit
  | "print" => some .print
  | "set" => some .set
  | _ => none

inductive Valued where
  | depthLimit | output
  deriving DecidableEq, Repr

inductive Use where
  | help
  | version
  | legacy
  | verbose
  | valued (option : Valued) (value : Option String)
  | unknown
  deriving DecidableEq, Repr

inductive Argument where
  | separator
  | plain (text : String)
  | options (uses : List Use)
  deriving DecidableEq, Repr

/-- A long option: its name, and what follows `=`. Only the top level has a version, and only
`set` has an output. -/
def Use.ofLong (level : Level) (name : String) (value : Option String) : Use :=
  match name, value with
  | "help", none => .help
  | "version", none => if level = .top then .version else .unknown
  | "legacy-extension", none => .legacy
  | "verbose", none => .verbose
  | "max-depth", _ => .valued .depthLimit value
  | "output", _ => if level = .set then .valued .output value else .unknown
  | _, _ => .unknown

/-- A letter of a group of one-letter options. -/
def Use.ofLetter (level : Level) : Char → Use
  | 'v' => .verbose
  | 'h' => .help
  | 'V' => if level = .top then .version else .unknown
  | _ => .unknown

/-- What an argument is when no option waits for a value. -/
def Argument.ofText (level : Level) (text : String) : Argument :=
  match text.toList with
  | ['-', '-'] => .separator
  | '-' :: '-' :: body =>
    let name := body.takeWhile (· != '=')
    let value := match body.drop name.length with
      | [] => none
      | _ :: value => some (String.ofList value)
    .options [Use.ofLong level (String.ofList name) value]
  | '-' :: letter :: letters => .options ((letter :: letters).map (Use.ofLetter level))
  | _ => .plain text

structure Options where
  legacy : Bool := false
  depthLimit : Option Nat := none
  output : Option String := none
  deriving DecidableEq, Repr

/-- Give an option its value. A limit is positive and fits 64 bits, a path is not empty, and a
second value is refused. -/
def Options.give? (options : Options) (option : Valued) (value : String) : Option Options :=
  match option with
  | .depthLimit =>
    match options.depthLimit, Numeral.count? UInt64.size value.toList with
    | none, some (limit + 1) => some { options with depthLimit := some (limit + 1) }
    | _, _ => none
  | .output =>
    match options.output with
    | none => if value = "" then none else some { options with output := some value }
    | some _ => none

/-- How the options of an argument end: all applied, maybe with one that waits for its value in
the next argument, or early with a request that needs no more. -/
inductive Applied where
  | all (options : Options) (waiting : Option Valued)
  | early (request : Request)
  deriving DecidableEq, Repr

def Options.useAll? (options : Options) : List Use → Option Applied
  | [] => some (.all options none)
  | .help :: _ => some (.early .help)
  | .version :: _ => some (.early .version)
  | .legacy :: rest => if options.legacy then none else useAll? { options with legacy := true } rest
  | .verbose :: rest => options.useAll? rest
  | .valued option none :: _ => some (.all options (some option))
  | .valued option (some value) :: rest => do useAll? (← options.give? option value) rest
  | .unknown :: _ => none

/-- The number of a row or a column: an integer numeral from 0 up, in 32 bits. -/
def coordinate? (text : String) : Option UInt32 := do
  let i ← Numeral.integer? text.toList
  if 0 ≤ i.toInt ∧ i.toInt < UInt32.size then some (UInt32.ofNat i.toInt.toNat) else none

/-- Whether a plain argument has the form that its place at a level asks for. -/
def Level.admits (level : Level) (place : Nat) (text : String) : Bool :=
  match level, place with
  | .edit, 0 | .print, 0 | .set, 0 => text != ""
  | .set, 1 | .set, 2 => (coordinate? text).isSome
  | .set, 3 => true
  | _, _ => false

/-- What was read after a command's name: options, and the plain arguments in order. -/
structure Parsed where
  options : Options := {}
  plain : List String := []
  deriving DecidableEq, Repr

def Parsed.take? (p : Parsed) (level : Level) (text : String) : Option Parsed :=
  if level.admits p.plain.length text then some { p with plain := p.plain ++ [text] } else none

/-- How reading after a command's name ends. -/
inductive Reading where
  | parsed (p : Parsed)
  | early (request : Request)
  deriving DecidableEq, Repr

/-- Read the arguments after `--`, which are all plain. -/
def readPlain? (level : Level) (p : Parsed) : List String → Option Parsed
  | [] => some p
  | text :: rest => do readPlain? level (← p.take? level text) rest

/-- Read the arguments after a command's name; an option may be waiting for its value. -/
def readCommand? (level : Level) (p : Parsed) (waiting : Option Valued) :
    List String → Option Reading
  | [] => if waiting.isSome then none else some (.parsed p)
  | text :: rest =>
    match Argument.ofText level text, waiting with
    | .plain value, some option => do
      readCommand? level { p with options := ← p.options.give? option value } none rest
    | _, some _ => none
    | .plain text, none => do readCommand? level (← p.take? level text) none rest
    | .separator, none => (readPlain? level p rest).map .parsed
    | .options uses, none => do
      match ← p.options.useAll? uses with
      | .early request => some (.early request)
      | .all options waiting => readCommand? level { p with options } waiting rest

def Parsed.command? (p : Parsed) (level : Level) : Option Command :=
  match level, p.plain with
  | .edit, [] => some (.edit none)
  | .edit, [path] => some (.edit (some path))
  | .print, [path] => some (.print path)
  | .set, [path, row, col, value] => do
    some (.set path ⟨← coordinate? row, ← coordinate? col⟩ value p.options.output)
  | _, _ => none

def configOf (before after : Options) : Config where
  policy := if before.legacy || after.legacy then .legacy else .strict
  depthLimit := (after.depthLimit <|> before.depthLimit).getD defaultDepthLimit

/-- The request of a command line without a command, which edits a new table. -/
def withoutCommand (before : Options) : Request := .run (configOf before {}) (.edit none)

/-- The request of a command with the arguments after its name. -/
def withCommand? (before : Options) (level : Level) (rest : List String) : Option Request := do
  match ← readCommand? level {} none rest with
  | .early request => some request
  | .parsed p => some (.run (configOf before p.options) (← p.command? level))

/-- The request for help, about one command at most. -/
def helpAbout? : List String → Option Request
  | [] => some .help
  | [name] => if (Level.ofName? name).isSome || name == "help" then some .help else none
  | _ => none

/-- Read a command line up to its command; an option may be waiting for its value. -/
def readTop? (before : Options) (waiting : Option Valued) : List String → Option Request
  | [] => if waiting.isSome then none else some (withoutCommand before)
  | text :: rest =>
    match Argument.ofText .top text, waiting with
    | .plain value, some option => do readTop? (← before.give? option value) none rest
    | _, some _ => none
    | .plain name, none =>
      if name = "help" then helpAbout? rest
      else do withCommand? before (← Level.ofName? name) rest
    | .separator, none => if rest.isEmpty then some (withoutCommand before) else none
    | .options uses, none => do
      match ← before.useAll? uses with
      | .early request => some request
      | .all before waiting => readTop? before waiting rest

/-- What a command line asks for; nothing when it is used wrongly. -/
def parse? (arguments : List String) : Option Request := readTop? {} none arguments

end Spreadsheet.CommandLine
