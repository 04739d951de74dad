import EventReport.Calendar.Instant
import EventReport.Number.Literal
import EventReport.Text.Blank

/-! # Reading dates

`readDay?` reads a date of the form year, month and day with dashes between. `readTimestamp?` reads
a date with a time of day, of which it keeps the date, and `readInstant?` one with a time of day and
an offset, of which it keeps the day by the clock that is that far ahead of universal time. Every
reader has to use up the whole text.

The first two forms are lenient: a part may have fewer digits than it has places, blanks may stand
before it, and a year with a sign may have any number of digits. The third form is strict.
-/

namespace EventReport.Calendar

open Number Text

/-- Takes something off the front of a text. -/
abbrev Reading (α : Type) := List Char → Option (α × List Char)

/-- The number of decimal digits at the front of a text, `most` at most. -/
def leadingDigits (most : Nat) (cs : List Char) : List Char :=
  (cs.take most).takeWhile Char.isDigit

/-- A number of at least `least` and at most `most` digits. -/
def readNumber (least most : Nat) : Reading Nat := fun cs =>
  let digits := leadingDigits most cs
  if digits.length < least then none else some (digitsValue digits, cs.drop digits.length)

/-- The character `c`. -/
def readChar (c : Char) : Reading Unit
  | [] => none
  | d :: cs => if d = c then some ((), cs) else none

/-- A number of at most `most` digits after blanks. -/
def readPart (most : Nat) : Reading Nat := fun cs =>
  readNumber 1 most (trimLeft cs)

/-- A year after blanks: up to four digits, or a sign and any number of digits. -/
def readYear : Reading Int := fun cs =>
  match trimLeft cs with
  | '-' :: rest => (readNumber 1 rest.length rest).map fun (n, rest) => (-(n : Int), rest)
  | '+' :: rest => (readNumber 1 rest.length rest).map fun (n, rest) => ((n : Int), rest)
  | rest => (readNumber 1 4 rest).map fun (n, rest) => ((n : Int), rest)

/-- Year, month and day with dashes between. -/
def readDate : Reading Date := fun cs => do
  let (year, cs) ← readYear cs
  let (_, cs) ← readChar '-' cs
  let (month, cs) ← readPart 2 cs
  let (_, cs) ← readChar '-' cs
  let (day, cs) ← readPart 2 cs
  let date ← Date.ofParts? year month day
  return (date, cs)

/-- A time of day that exists; the 60th second stands for a leap second. -/
def isTimeOfDay (hour minute second : Nat) : Bool :=
  hour ≤ 23 && minute ≤ 59 && second ≤ 60

/-- The fraction of a second, if a point follows: at least one digit. -/
def readFraction : Reading Unit
  | '.' :: cs =>
    let rest := cs.dropWhile Char.isDigit
    if rest.length = cs.length then none else some ((), rest)
  | cs => some ((), cs)

/-- The seconds since midnight. A leap second counts as the second before it. -/
def secondOfDay (hour minute second : Nat) : Nat :=
  (hour * 60 + minute) * 60 + min second 59

/-- Hour, minute and second with colons between, read by `part`, and a fraction: the second of the
day. -/
def readTime (part : Reading Nat) : Reading Nat := fun cs => do
  let (hour, cs) ← part cs
  let (_, cs) ← readChar ':' cs
  let (minute, cs) ← part cs
  let (_, cs) ← readChar ':' cs
  let (second, cs) ← part cs
  if isTimeOfDay hour minute second then
    let (_, cs) ← readFraction cs
    return (secondOfDay hour minute second, cs)
  else none

/-- The value that uses up the whole text. -/
def whole {α : Type} : Option (α × List Char) → Option α
  | some (value, []) => some value
  | _ => none

/-- A date. -/
def readDay? (cs : List Char) : Option Date :=
  whole (readDate cs)

/-- A date, the letter `T` and a time of day. -/
def readTimestamp? (cs : List Char) : Option Date := whole do
  let (date, cs) ← readDate cs
  let (_, cs) ← readChar 'T' cs
  let (_, cs) ← readTime (readPart 2) cs
  return (date, cs)

/-- The sign of an offset; a true minus sign serves as well as a hyphen. -/
def isOffsetSign (c : Char) : Bool :=
  c = '+' || c = '-' || c = '\u2212'

/-- An offset of less than a day, in seconds: `Z`, or a sign, hours and minutes. -/
def readOffset : Reading Int
  | [] => none
  | c :: cs =>
    if c = 'Z' ∨ c = 'z' then some (0, cs)
    else if isOffsetSign c then do
      let (hours, cs) ← readNumber 2 2 cs
      let (_, cs) ← readChar ':' cs
      let (minutes, cs) ← readNumber 2 2 cs
      let seconds : Int := (hours * 60 + minutes) * 60
      if hours ≤ 23 ∧ minutes ≤ 59 then some (if c = '+' then seconds else -seconds, cs) else none
    else none

/-- What may stand between a date and a time. -/
def readSeparator : Reading Unit
  | [] => none
  | c :: cs => if c = 'T' ∨ c = 't' ∨ c = ' ' then some ((), cs) else none

/-- A date, a time of day and an offset, each number with all its digits. -/
def readInstant : Reading Instant := fun cs => do
  let (year, cs) ← readNumber 4 4 cs
  let (_, cs) ← readChar '-' cs
  let (month, cs) ← readNumber 2 2 cs
  let (_, cs) ← readChar '-' cs
  let (day, cs) ← readNumber 2 2 cs
  let date ← Date.ofParts? year month day
  let (_, cs) ← readSeparator cs
  let (second, cs) ← readTime (readNumber 2 2) cs
  let (offset, cs) ← readOffset cs
  return (Instant.shown date second offset, cs)

/-- The day of an instant, by the clock that it was read from. -/
def readInstant? (cs : List Char) : Option Date :=
  (whole (readInstant cs)).bind Instant.localDay?

end EventReport.Calendar
