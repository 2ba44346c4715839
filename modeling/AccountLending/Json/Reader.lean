import AccountLending.Json.Lexer

/-!
# Reading JSON documents

A document is built from its tokens one at a time.  What has been read so far is kept as the
finished part of every array and object that is still open, the innermost first, so documents may
nest to any depth.  Trailing commas, missing values and anything after the document are refused.
-/

namespace AccountLending.Json

/-- An array or object that is still open, with its finished part in reverse. -/
inductive Frame
  | array (items : List Json)
  /-- An object whose member of the given name is being read. -/
  | member (members : List (Option String × Json)) (name : Option String)

/-- What has been read of a document, inside the open arrays and objects. -/
inductive Progress
  /-- A value must follow. -/
  | needsValue (frames : List Frame)
  /-- The first item of an array or its end must follow. -/
  | firstItem (frames : List Frame)
  /-- The first member of an object or its end must follow. -/
  | firstMember (frames : List Frame)
  /-- A further member of an object must follow. -/
  | nextMember (members : List (Option String × Json)) (frames : List Frame)
  /-- The colon after a member's name must follow. -/
  | needsColon (members : List (Option String × Json)) (name : Option String) (frames : List Frame)
  /-- A value is complete. -/
  | complete (value : Json) (frames : List Frame)

namespace Progress

/-- Start reading a value. -/
def start (frames : List Frame) : Token → Option Progress
  | .scalar value => some (.complete value frames)
  | .openArray => some (.firstItem frames)
  | .openObject => some (.firstMember frames)
  | _ => none

/-- Read on by one token. -/
def step : Progress → Token → Option Progress
  | .needsValue frames, token => start frames token
  | .firstItem frames, .closeArray => some (.complete (.array []) frames)
  | .firstItem frames, token => start (.array [] :: frames) token
  | .firstMember frames, .closeObject => some (.complete (.object []) frames)
  | .firstMember frames, .scalar (.text name) => some (.needsColon [] name frames)
  | .nextMember members frames, .scalar (.text name) => some (.needsColon members name frames)
  | .needsColon members name frames, .colon => some (.needsValue (.member members name :: frames))
  | .complete value (.array items :: frames), .comma =>
    some (.needsValue (.array (value :: items) :: frames))
  | .complete value (.array items :: frames), .closeArray =>
    some (.complete (.array (value :: items).reverse) frames)
  | .complete value (.member members name :: frames), .comma =>
    some (.nextMember ((name, value) :: members) frames)
  | .complete value (.member members name :: frames), .closeObject =>
    some (.complete (.object ((name, value) :: members).reverse) frames)
  | _, _ => none

/-- The document, when nothing is left open. -/
def document? : Progress → Option Json
  | .complete value [] => some value
  | _ => none

end Progress

/-- The document that a list of tokens spells. -/
def ofTokens? (tokens : List Token) : Option Json := do
  (← tokens.foldlM Progress.step (.needsValue [])).document?

/-- The document that a text spells. -/
def parse? (text : String) : Option Json := do
  ofTokens? (← tokens? text)

end AccountLending.Json
