import AccountLending.Client
import AccountLending.CommandLine.Commands
import AccountLending.Host.Token
import AccountLending.Wire.Format
import Std.Time.DateTime.Timestamp

/-!
# The program

The outer layer of the command line: it takes the words and the environment, lets the program run,
and carries out its calls on this machine.  Requests to the services go to a gateway, which is a
directory with two pipes: a line with a document is written to `requests` for each request, and a
line with a document is read from `replies`.  Without a gateway every request is answered by a
fault.
-/

namespace AccountLending.Main

/-- The variable that names the settings file. -/
def configVariable : String := "ACCOUNT_POOL_CONFIG"

/-- The variable that names the gateway's directory. -/
def gatewayVariable : String := "ACCOUNT_POOL_GATEWAY"

/-- The most pages that are requested of a listing. -/
def pageLimit : Nat := 100000

/-- The two pipes of a gateway. -/
structure Gateway where
  requests : IO.FS.Handle
  replies : IO.FS.Handle

/-- The fault of a request that cannot be sent. -/
def noGateway : Fault := ⟨"NoGateway", "no gateway is set up"⟩

/-- Open the gateway, if there is one. -/
def openGateway : IO (Option Gateway) := do
  match ← IO.getEnv gatewayVariable with
  | none => return none
  | some directory =>
    let requests ← IO.FS.Handle.mk (directory ++ "/requests") .write
    let replies ← IO.FS.Handle.mk (directory ++ "/replies") .read
    return some { requests, replies }

/-- Send a request through the gateway, with the credentials of a payer if there is one. -/
def exchange (gateway : Option Gateway) (payer : Option Payer) (sent : Wire.Request) :
    IO (Except Fault (Wire.Output sent.request)) := do
  unless sent.isSendable payer do return .error Wire.unsent
  match gateway with
  | none => return .error noGateway
  | some gateway =>
    gateway.requests.putStr (sent.toJson.compact ++ "\n")
    gateway.requests.flush
    match Json.parse? (← gateway.replies.getLine) with
    | none => return .error Wire.unreadable
    | some document => return Wire.replyOf document sent.request

/-- Why a file cannot be read, from the error of reading it. -/
def fileError (error : IO.Error) : Host.FileError :=
  match error with
  | .noFileOrDirectory .. => .noFile
  | .permissionDenied .. => .denied
  | .inappropriateType _ 20 _ => .notDirectory
  | .inappropriateType _ 21 _ => .isDirectory
  | other => .other (toString other)

/-- The text of a file. -/
def readFile (path : String) : IO (Except Host.FileError String) := do
  try
    let bytes ← IO.FS.readBinFile path
    match String.fromUTF8? bytes with
    | some text => return .ok text
    | none => return .error .notText
  catch error => return .error (fileError error)

/-- The next line of the standard input; none when it is no text. -/
def readLine : IO (Option String) := do
  try
    return some (← (← IO.getStdin).getLine)
  catch _ => return none

/-- Write to the standard error. -/
def say (text : String) : IO Unit := do
  let stream ← IO.getStderr
  stream.putStr text
  stream.flush

/-- Write to the standard output. -/
def print (text : String) : IO Unit := do
  let stream ← IO.getStdout
  stream.putStr text
  stream.flush

/-- A random identifier. -/
def freshToken : IO String := do
  let bytes ← IO.getRandomBytes 16
  return Host.Token.ofBits (bytes.toList.foldl (fun n byte => n * 256 + byte.toNat) 0)

/-- The seconds since the start of 1970. -/
def now : IO Nat := do
  return (← Std.Time.Timestamp.now).toSecondsSinceUnixEpoch.val.toNat

/-- Ask a question on the terminal. -/
def confirm (question : String) : IO Bool := do
  say (CommandLine.questionText question)
  return ((← readLine).map CommandLine.isYes).getD false

/-- The longest pause that the machine is asked for at once. -/
def longestPause : UInt64 := UInt32.toUInt64 0xffffffff

/-- Wait for so many milliseconds, in as many pauses as that takes. -/
def pause (milliseconds : UInt64) : IO Unit := do
  for _ in [0:(milliseconds / longestPause).toNat] do
    IO.sleep longestPause.toUInt32
  IO.sleep (milliseconds % longestPause).toUInt32

/-- Carry out a request to the host; log lines are written to the standard error if they are shown,
and the payer whose credentials are used is kept. -/
def serveHost (debug : Bool) (connected : IO.Ref (Option Payer)) :
    (request : Host.Request) → IO request.Answer
  | .log line =>
    if debug then do say ("[" ++ Time.digits (← now) ++ " " ++ line.level.name ++ "] " ++
      line.message ++ "\n")
    else return
  | .freshToken => freshToken
  | .now => now
  | .pause milliseconds => pause milliseconds
  | .confirm question => confirm question
  | .print text => print text
  | .say text => say text
  | .isInteractive => do (← IO.getStdin).isTty
  | .readLine => readLine
  | .readFile path => readFile path
  | .connect payer => do
    connected.set (some payer)
    return true

/-- Carry out a call. -/
def serve (debug : Bool) (gateway : Option Gateway) (connected : IO.Ref (Option Payer)) :
    (call : Client.Call) → IO call.Reply
  | .send sent => do exchange gateway (← connected.get) sent
  | .host request => serveHost debug connected request

/-- Whether words ask for the log to be shown. -/
def showsLog (environment : Option String) (words : List String) : Bool :=
  match CommandLine.Invocation.ofWords environment words with
  | .ok invocation => invocation.debug
  | .error _ => false

end AccountLending.Main

/-- Run the program on its words, and return the exit code. -/
def main (words : List String) : IO UInt32 := do
  let environment ← IO.getEnv AccountLending.Main.configVariable
  let gateway ← AccountLending.Main.openGateway
  let connected ← IO.mkRef none
  let program := AccountLending.CommandLine.program environment words
  let debug := AccountLending.Main.showsLog environment words
  (AccountLending.Client.connected AccountLending.Main.pageLimit program).interpret
    (AccountLending.Main.serve debug gateway connected)
