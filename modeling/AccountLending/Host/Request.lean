import AccountLending.Host.FileError
import AccountLending.Log
import AccountLending.Settings

/-!
# What can be asked of the host

The requests to the machine that the program runs on: its log, its clock, a source of random tokens,
the operator's answer to a question, the terminal and the file system.
-/

namespace AccountLending.Host

/-- A request to the host. -/
inductive Request
  | log (line : Log.Line)
  /-- A text that no other claim uses. -/
  | freshToken
  /-- The seconds since the start of 1970. -/
  | now
  | pause (milliseconds : UInt64)
  /-- Ask the operator a question that is answered by yes or no. -/
  | confirm (question : String)
  /-- Write to the standard output. -/
  | print (text : String)
  /-- Write to the standard error. -/
  | say (text : String)
  /-- Whether the standard input is a terminal. -/
  | isInteractive
  /-- The next line of the standard input; none when it is no text. -/
  | readLine
  /-- The text of a file, or why it cannot be read. -/
  | readFile (path : String)
  /-- Make the credentials of a payer the caller's; false when there are none. -/
  | connect (payer : Payer)
  deriving DecidableEq

/-- What a request returns. -/
@[reducible] def Request.Answer : Request → Type
  | .log _ | .pause _ | .print _ | .say _ => Unit
  | .freshToken => String
  | .now => Nat
  | .confirm _ | .isInteractive | .connect _ => Bool
  | .readLine => Option String
  | .readFile _ => Except FileError String

end AccountLending.Host
