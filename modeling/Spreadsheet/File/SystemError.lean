/-!
Why the system refuses to read or write.
-/

namespace Spreadsheet

inductive SystemError where
  | notFound
  | notADirectory
  | isADirectory
  | nameTooLong
  /-- A path holds a NUL, which ends every path. -/
  | nulInPath
  /-- What was read is not UTF-8. -/
  | invalidText
  | outputFull
  /-- Any other refusal, in the system's own words. -/
  | other (message : String)
  deriving DecidableEq, Repr

def SystemError.message : SystemError → String
  | .notFound => "No such file or directory (os error 2)"
  | .notADirectory => "Not a directory (os error 20)"
  | .isADirectory => "Is a directory (os error 21)"
  | .nameTooLong => "File name too long (os error 36)"
  | .nulInPath => "file name contained an unexpected NUL byte"
  | .invalidText => "stream did not contain valid UTF-8"
  | .outputFull => "disk full"
  | .other message => message

end Spreadsheet
