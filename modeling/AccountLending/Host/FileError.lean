/-!
# Why a file cannot be read

The failures of reading a file as text, with the words that the system has for them.
-/

namespace AccountLending.Host

/-- Why a file cannot be read as text. -/
inductive FileError
  | noFile
  | denied
  | notDirectory
  | isDirectory
  | nameTooLong
  /-- The path has a character that no path can have. -/
  | badPath
  /-- The bytes of the file are no text. -/
  | notText
  /-- Any other failure, in the words of the system. -/
  | other (words : String)
  deriving DecidableEq, Repr, Inhabited

/-- The words for a failure. -/
def FileError.message : FileError → String
  | .noFile => "No such file or directory (os error 2)"
  | .denied => "Permission denied (os error 13)"
  | .notDirectory => "Not a directory (os error 20)"
  | .isDirectory => "Is a directory (os error 21)"
  | .nameTooLong => "File name too long (os error 36)"
  | .badPath => "file name contained an unexpected NUL byte"
  | .notText => "stream did not contain valid UTF-8"
  | .other words => words

end AccountLending.Host
