/-!
# Log lines

What the engine tells about its work as it goes along: a line of text and how much it matters.
-/

namespace AccountLending.Log

/-- How much a line matters, the most important first. -/
inductive Level
  | warn
  | info
  | debug
  | trace
  deriving DecidableEq, Repr, Inhabited

namespace Level

/-- The name of a level. -/
def name : Level → String
  | .warn => "WARN"
  | .info => "INFO"
  | .debug => "DEBUG"
  | .trace => "TRACE"

/-- The place of a level, the most important first. -/
def rank : Level → Nat
  | .warn => 0
  | .info => 1
  | .debug => 2
  | .trace => 3

/-- Whether lines of a level are shown when lines up to a limit are. -/
def isShownAt (level limit : Level) : Bool := level.rank ≤ limit.rank

end Level

/-- A log line. -/
structure Line where
  level : Level
  message : String
  deriving DecidableEq, Repr, Inhabited

/-- The line with the name of its level in front. -/
def Line.text (line : Line) : String := line.level.name ++ " " ++ line.message

end AccountLending.Log
