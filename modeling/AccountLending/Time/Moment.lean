import AccountLending.Time.Calendar

/-!
# Moments in writing

A moment is a number of seconds from the start of 1970, without leap seconds, and a fraction of a
second in nanoseconds.  In writing it is a date and a time of day with an optional fraction, such as
`2099-01-01T00:00:00.5Z`, and at the end either `Z`, which may be small, or by how much the local
time is ahead.  The `T` between the date and the time is never small.

A fraction may have any number of digits, of which nine count.  A sixtieth second is a leap second;
it is read as the last nanosecond of the second before it, and it must end a month.

* `Moment.ofText?` — the moment of a text.
-/

namespace AccountLending.Time

/-- A moment: the seconds from the start of 1970, rounded down, and the nanoseconds after them. -/
structure Moment where
  seconds : Int
  nanoseconds : Nat := 0
  deriving DecidableEq, Repr, Inhabited

/-- The number that decimal digits denote. -/
def numberOf (digits : List Char) : Nat :=
  digits.foldl (fun n c => n * 10 + (c.toNat - '0'.toNat)) 0

/-- The number that so many digits at the start of a text denote, and what follows them. -/
def number? (width : Nat) (cs : List Char) : Option (Nat × List Char) :=
  let digits := cs.take width
  if digits.length = width ∧ digits.all Char.isDigit then some (numberOf digits, cs.drop width)
  else none

/-- What follows a character at the start of a text. -/
def after? (mark : Char) : List Char → Option (List Char)
  | [] => none
  | c :: rest => if c = mark then some rest else none

/-- The nanoseconds of an optional fraction, and what follows it. -/
def fraction? : List Char → Option (Nat × List Char)
  | '.' :: rest =>
    let digits := rest.takeWhile Char.isDigit
    if digits = [] then none
    else some (numberOf ((digits ++ List.replicate 9 '0').take 9), rest.dropWhile Char.isDigit)
  | rest => some (0, rest)

/-- By how many seconds the local time is ahead, from the end of a text. -/
def offset? : List Char → Option Int
  | ['Z'] | ['z'] => some 0
  | sign :: cs => do
    let (hours, cs) ← number? 2 cs
    let (minutes, cs) ← number? 2 (← after? ':' cs)
    if cs ≠ [] ∨ 23 < hours ∨ 59 < minutes then none
    else if sign = '+' then some (hours * 3600 + minutes * 60)
    else if sign = '-' then some (-(hours * 3600 + minutes * 60))
    else none
  | [] => none

/-- The date at the start of a text, and what follows it. -/
def date? (cs : List Char) : Option (Day × List Char) := do
  let (year, cs) ← number? 4 cs
  let (month, cs) ← number? 2 (← after? '-' cs)
  let (day, cs) ← number? 2 (← after? '-' cs)
  let date : Day := ⟨year, month, day⟩
  if date.isValid then some (date, cs) else none

/-- The seconds of the time of day at the start of a text, whether it is a leap second, and what
follows it.  A leap second has the number of the second before it. -/
def timeOfDay? (cs : List Char) : Option (Nat × Bool × List Char) := do
  let (hour, cs) ← number? 2 cs
  let (minute, cs) ← number? 2 (← after? ':' cs)
  let (second, cs) ← number? 2 (← after? ':' cs)
  if 23 < hour ∨ 59 < minute ∨ 60 < second then none
  else some (hour * 3600 + minute * 60 + min second 59, second = 60, cs)

namespace Moment

/-- Whether the second after a moment begins a month. -/
def endsMonth (moment : Moment) : Bool :=
  (moment.seconds + 1) % 86400 = 0 && (dayOf ((moment.seconds + 1) / 86400)).day = 1

/-- The moment of a text. -/
def ofText? (text : String) : Option Moment := do
  let (date, cs) ← date? text.toList
  let (second, leap, cs) ← timeOfDay? (← after? 'T' cs)
  let (nanoseconds, cs) ← fraction? cs
  let seconds := daysTo date * 86400 + second - (← offset? cs)
  if leap then
    let moment : Moment := ⟨seconds, 999999999⟩
    if moment.endsMonth then some moment else none
  else some ⟨seconds, nanoseconds⟩

example : ofText? "2099-01-01T00:00:00Z" = some ⟨4070908800, 0⟩ := by decide +kernel
example : ofText? "2000-02-29T13:34:56.5+01:00" = some ⟨951827696, 500000000⟩ := by decide +kernel
example : ofText? "2016-12-31T23:59:60Z" = some ⟨1483228799, 999999999⟩ := by decide +kernel
example : ofText? "2016-12-30T23:59:60Z" = none ∧ ofText? "2100-02-29T00:00:00Z" = none := by
  decide +kernel
example : ofText? "0000-02-29T00:00:00z" = some ⟨-62162121600, 0⟩ := by decide +kernel
example : ofText? "2099-01-01t00:00:00Z" = none ∧ ofText? "2099-01-01 00:00:00Z" = none := by
  decide +kernel

end Moment

end AccountLending.Time
