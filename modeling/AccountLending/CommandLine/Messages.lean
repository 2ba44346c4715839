import AccountLending.Json.Printer
import AccountLending.Report

/-!
# What the program writes

The lines on the standard error that tell what was done, and the one line or document on the
standard output that is the result.
-/

namespace AccountLending.CommandLine

/-- A line that tells what was done. -/
def noteText (message : String) : String := "account-pool: " ++ message ++ "\n"

/-- A line that warns of something. -/
def warningText (message : String) : String := "account-pool (warning): " ++ message ++ "\n"

/-- The question as it is put on the terminal. -/
def questionText (question : String) : String := question ++ " [y/N] "

/-- The lines on one report: the account, the counts, and each failure by itself. -/
def reportText (report : Report) : String :=
  let failures := report.failures.map fun artifact =>
    match artifact.status with
    | .failed reason =>
      "  x " ++ artifact.kind.words ++ " " ++ artifact.name ++ ": " ++ reason ++ "\n"
    | _ => ""
  "Account " ++ report.account ++ " (owner " ++ report.owner.getD "-" ++ ")\n"
    ++ "  " ++ toString report.deletedCount ++ " deleted, " ++ toString report.skippedCount
    ++ " skipped, " ++ toString report.failedCount ++ " failed\n" ++ String.join failures

/-- The lines on several reports. -/
def reportsText (reports : List Report) : String := String.join (reports.map reportText)

/-- A document on the standard output. -/
def documentText (document : Json) (pretty : Bool) : String :=
  (if pretty then document.pretty else document.compact) ++ "\n"

/-- The lines on a failure and the failures behind it. -/
def failureText (message : String) (causes : List String) : String :=
  "Error: " ++ message ++ "\n" ++
    String.join (causes.map fun cause => "  Caused by: " ++ cause ++ "\n")

end AccountLending.CommandLine
