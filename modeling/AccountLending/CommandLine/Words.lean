import AccountLending.Text.Parts

/-!
# Words of a command line

The rules by which the words of a command line are taken for options and their values.  An option is
named in full after two hyphens, or by one letter after one hyphen; letters may share a hyphen.  Its
value is the rest of the word, after an equals sign if there is one, or else the next word, which
must not look like an option.  No option may be given twice.

Words are read from left to right, and the first one that ends the reading decides how it ends.

* `Reading.option` — read one option;
* `readAll` — read words that are all options and their values.
-/

namespace AccountLending.CommandLine

/-- How reading a command line can end, other than with a command. -/
inductive Stop
  | help
  | version
  /-- The words break a rule. -/
  | misuse
  deriving DecidableEq, Repr

/-- What an option sets. -/
inductive Setting
  | config
  | debug
  | payer
  | user
  | account
  | pretty
  | yes
  | help
  | version
  deriving DecidableEq, Repr

/-- An option: its name, its letter, and whether it has a value. -/
structure Opt where
  setting : Setting
  long : String
  letter : Option Char := none
  hasValue : Bool := true
  deriving DecidableEq, Repr

/-- What has been read: the options with their values, and the last one while its value is only
known from its own word, so that it is not yet settled. -/
structure Reading where
  given : List (Setting × String) := []
  /-- An option that has a value but not in its own word, and its value once that has been read. -/
  open? : Option (Opt × Option String) := none
  deriving DecidableEq, Repr

namespace Reading

/-- The value of an option. -/
def value? (reading : Reading) (setting : Setting) : Option String := reading.given.lookup setting

/-- Whether an option is given. -/
def has (reading : Reading) (setting : Setting) : Bool := (reading.value? setting).isSome

/-- Add an option with its value; no option may be given twice, and a path must not be empty. -/
def add (reading : Reading) (opt : Opt) (value : String) : Except Stop Reading :=
  if reading.has opt.setting then .error .misuse
  else if opt.setting = .config ∧ value = "" then .error .misuse
  else .ok { reading with given := reading.given ++ [(opt.setting, value)] }

/-- Settle the option that is open, which must have its value by now. -/
def settle (reading : Reading) : Except Stop Reading :=
  match reading.open? with
  | none => .ok reading
  | some (_, none) => .error .misuse
  | some (opt, some value) => { reading with open? := none }.add opt value

/-- Read an option without a value. -/
def flag (reading : Reading) (opt : Opt) : Except Stop Reading := do
  let settled ← reading.settle
  match opt.setting with
  | .help => .error .help
  | .version => .error .version
  | _ => settled.add opt ""

/-- Read an option with the value that stands in its own word, if one does. -/
def valued (reading : Reading) (opt : Opt) (attached : Option String) : Except Stop Reading := do
  let settled ← reading.settle
  match attached with
  | some value => settled.add opt value
  | none => .ok { settled with open? := some (opt, none) }

/-- Read an option that is named in full. -/
def long (opts : List Opt) (reading : Reading) (name : String) (attached : Option String) :
    Except Stop Reading :=
  match opts.find? (·.long = name) with
  | none => .error .misuse
  | some opt =>
    if opt.hasValue then reading.valued opt attached
    else match attached with
      | some _ => .error .misuse
      | none => reading.flag opt

/-- The value that follows a letter in its own word, without an equals sign at its start. -/
def attachedTo : List Char → Option String
  | [] => none
  | '=' :: rest => some (String.ofList rest)
  | rest => some (String.ofList rest)

/-- Read options that are named by letters behind one hyphen. -/
def letters (opts : List Opt) (reading : Reading) : List Char → Except Stop Reading
  | [] => .ok reading
  | c :: rest =>
    match opts.find? (·.letter = some c) with
    | none => .error .misuse
    | some opt =>
      if opt.hasValue then reading.valued opt (attachedTo rest)
      else do letters opts (← reading.flag opt) rest

end Reading

/-! ## Words -/

/-- What a word looks like. -/
inductive Word
  /-- Two hyphens alone. -/
  | escape
  | long (name : String) (attached : Option String)
  | letters (cs : List Char)
  | plain (text : String)
  deriving DecidableEq, Repr

/-- What a word looks like. -/
def Word.of (text : String) : Word :=
  match text.toList with
  | ['-', '-'] => .escape
  | '-' :: '-' :: rest =>
    match Text.splitFirst? '=' rest with
    | some (name, value) => .long (String.ofList name) (some (String.ofList value))
    | none => .long (String.ofList rest) none
  | '-' :: c :: rest => .letters (c :: rest)
  | _ => .plain text

/-- Read a word that looks like an option. -/
def Reading.option (opts : List Opt) (reading : Reading) : Word → Except Stop Reading
  | .long name attached => reading.long opts name attached
  | .letters cs => reading.letters opts cs
  | _ => .error .misuse

/-- Read words that are all options and their values; two hyphens alone may stand at the end. -/
def readAll (opts : List Opt) (reading : Reading) : List String → Except Stop Reading
  | [] => reading.settle
  | text :: rest =>
    match Word.of text with
    | .escape => if rest.isEmpty then reading.settle else .error .misuse
    | .plain value =>
      match reading.open? with
      | some (opt, none) => readAll opts { reading with open? := some (opt, some value) } rest
      | _ => .error .misuse
    | word => do readAll opts (← reading.option opts word) rest

/-- Read options until a word that is neither an option nor a value; also returns that word and
those after it.  The option that is open there is not settled yet. -/
def readUntilPlain (opts : List Opt) (reading : Reading) :
    List String → Except Stop (Reading × String × List String)
  | [] => .error .misuse
  | text :: rest =>
    match Word.of text with
    | .escape => .error .misuse
    | .plain value =>
      -- an option that waits for its value takes the word, even the name of a command
      match reading.open? with
      | some (opt, none) =>
        readUntilPlain opts { reading with open? := some (opt, some value) } rest
      | _ => .ok (reading, value, rest)
    | word => do readUntilPlain opts (← reading.option opts word) rest

end AccountLending.CommandLine
