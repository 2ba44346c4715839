/-!
# Typing on a terminal

A terminal hands over what has been typed a line at a time.  Until then the line can be changed:
keys erase the last character, the last word or the whole line, and one key takes the next one
literally.  The end-of-input key hands over the line so far; when that is nothing, it ends the
input.  Characters that have been typed but not handed over are not seen.

* `Key.ofByte` — what each byte does;
* `Terminal.ofTyped` — what has been handed over once bytes have been typed;
* `Terminal.readLine` — the next line with its end, or none when its bytes are no text;
* `takeLine_ofTyped` — bytes that do nothing else are handed over as they were typed.
-/

namespace AccountLending.Host

/-- What a byte does that is typed on a terminal. -/
inductive Key
  /-- It stands for itself. -/
  | plain (byte : UInt8)
  /-- It ends the line. -/
  | enter
  /-- It hands over the line so far, or ends the input. -/
  | endOfInput
  /-- It erases the last character of the line. -/
  | erase
  /-- It erases the last word of the line. -/
  | eraseWord
  | eraseLine
  /-- It takes the next byte literally. -/
  | literally
  /-- It throws away all that has been typed and not read. -/
  | interrupt
  /-- It stops, starts or repeats what the terminal shows. -/
  | display
  deriving DecidableEq, Repr

/-- What a byte does. -/
def Key.ofByte (byte : UInt8) : Key :=
  match byte with
  | 3 | 26 | 28 => .interrupt
  | 4 => .endOfInput
  | 10 | 13 => .enter
  | 17 | 18 | 19 => .display
  | 21 => .eraseLine
  | 22 => .literally
  | 23 => .eraseWord
  | 127 => .erase
  | byte => .plain byte

/-- The byte that ends a line. -/
def newline : UInt8 := 10

/-- Whether a byte belongs to a word: letters, those of the upper half of Latin-1 included, digits
and the underscore. -/
def isWordByte (byte : UInt8) : Bool :=
  (48 ≤ byte && byte ≤ 57) || (65 ≤ byte && byte ≤ 90) || byte = 95 || (97 ≤ byte && byte ≤ 122)
    || (192 ≤ byte && byte ≠ 215 && byte ≠ 247)

/-- The bytes that a line can hold. -/
def lineLimit : Nat := 4096

/-- A line that is being typed, and what has been handed over before it. -/
structure Typing where
  /-- What has been handed over, the first part first; an empty part ends the input. -/
  parts : List (List UInt8) := []
  /-- The bytes of the line, the last one first. -/
  held : List UInt8 := []
  /-- Whether the next byte is taken literally. -/
  literal : Bool := false
  deriving DecidableEq, Repr, Inhabited

namespace Typing

/-- Add a byte to the line. -/
def hold (typing : Typing) (byte : UInt8) : Typing :=
  { typing with held := byte :: typing.held, literal := false }

/-- Hand over the line. -/
def handOver (typing : Typing) : Typing :=
  { typing with parts := typing.parts ++ [typing.held.reverse], held := [] }

/-- Forget the last byte of a line that is full. -/
def makeRoom (typing : Typing) : Typing :=
  if typing.held.length < lineLimit then typing else { typing with held := typing.held.tail }

/-- Press a key. -/
def press (typing : Typing) : Key → Typing
  | .plain byte => typing.hold byte
  | .enter => (typing.hold newline).handOver
  | .endOfInput => typing.handOver
  | .erase => { typing with held := typing.held.tail }
  | .eraseWord =>
    { typing with held := (typing.held.dropWhile (!isWordByte ·)).dropWhile isWordByte }
  | .eraseLine => { typing with held := [] }
  | .literally => { typing with literal := true }
  | .interrupt => {}
  | .display => typing

/-- Type a byte. -/
def type (typing : Typing) (byte : UInt8) : Typing :=
  if typing.literal then typing.makeRoom.hold byte else typing.makeRoom.press (Key.ofByte byte)

/-- Bytes that stand for themselves are held as long as the line has room. -/
theorem foldl_type_plain {typing : Typing} {bytes : List UInt8} (h : typing.literal = false)
    (plain : ∀ byte ∈ bytes, Key.ofByte byte = .plain byte)
    (room : typing.held.length + bytes.length ≤ lineLimit) :
    bytes.foldl type typing = { typing with held := bytes.reverse ++ typing.held } := by
  induction bytes generalizing typing with
  | nil => simp
  | cons byte rest ih =>
    simp only [List.length_cons] at room
    have hroom : typing.held.length < lineLimit := by omega
    have htype : type typing byte = { typing with held := byte :: typing.held } := by
      simp [type, makeRoom, press, hold, h, hroom, plain byte List.mem_cons_self]
    rw [List.foldl_cons, htype, ih]
    · simp
    · exact h
    · exact fun b hb => plain b (List.mem_cons_of_mem _ hb)
    · simp only [List.length_cons]; omega

end Typing

/-- A terminal, with what has been handed over and not been read. -/
structure Terminal where
  parts : List (List UInt8)
  deriving DecidableEq, Repr, Inhabited

namespace Terminal

/-- The terminal on which bytes have been typed. -/
def ofTyped (bytes : List UInt8) : Terminal := ⟨(bytes.foldl Typing.type {}).parts⟩

/-- The text that bytes encode. -/
def decode? (bytes : List UInt8) : Option String := String.fromUTF8? ⟨bytes.toArray⟩

/-- The bytes of the next line with its end, and the parts after it.  A part without an end of line
is followed by the next part, until the input ends. -/
def takeLine : List (List UInt8) → List UInt8 × List (List UInt8)
  | [] => ([], [])
  | [] :: rest => ([], rest)
  | part :: rest =>
    let line := part.takeWhile (· ≠ newline)
    match part.dropWhile (· ≠ newline) with
    | [] =>
      let (more, rest) := takeLine rest
      (line ++ more, rest)
    | [_] => (line ++ [newline], rest)
    -- a newline that was typed literally leaves the rest of its part for the next line
    | _ :: after => (line ++ [newline], after :: rest)

/-- The next line. -/
def readLine (terminal : Terminal) : Option String × Terminal :=
  let (line, rest) := takeLine terminal.parts
  (decode? line, ⟨rest⟩)

/-- Bytes that stand for themselves, with a newline after them, are read as they were typed. -/
theorem takeLine_ofTyped {bytes : List UInt8}
    (plain : ∀ byte ∈ bytes, Key.ofByte byte = .plain byte) (room : bytes.length < lineLimit) :
    takeLine (ofTyped (bytes ++ [newline])).parts = (bytes ++ [newline], []) := by
  have hne : ∀ byte ∈ bytes, byte ≠ newline := by
    rintro byte hb rfl
    exact absurd (plain _ hb) (by decide)
  have htyped : (ofTyped (bytes ++ [newline])).parts = [bytes ++ [newline]] := by
    rw [ofTyped, List.foldl_append,
      Typing.foldl_type_plain rfl plain (by simpa using Nat.le_of_lt room)]
    have : Key.ofByte newline = .enter := by decide
    simp [Typing.type, Typing.makeRoom, Typing.press, Typing.hold, Typing.handOver, this, room]
  have htake : (bytes ++ [newline]).takeWhile (· ≠ newline) = bytes := by
    rw [List.takeWhile_append_of_pos (by simpa using hne)]; simp
  have hdrop : (bytes ++ [newline]).dropWhile (· ≠ newline) = [newline] := by
    rw [List.dropWhile_append_of_pos (by simpa using hne)]; simp
  rw [htyped]
  cases bytes with
  | nil => decide
  | cons byte rest =>
    rw [List.cons_append] at htake hdrop ⊢
    simp only [takeLine, htake, hdrop, List.cons_append]

example : takeLine (ofTyped [110, 111, 32, 23, 121, 13]).parts = ([121, 10], []) := by decide
example : takeLine (ofTyped [4, 121, 10]).parts = ([], [[121, 10]]) := by decide

end Terminal

end AccountLending.Host
