import EventReport.Calendar.Reading
import EventReport.Calendar.Written
import EventReport.Error
import EventReport.Number.Word
import EventReport.Text.Lowercase

/-! # Ranges of days

A `DayRange` runs from a first to a last day, both included. `DayRange.parse` reads the ranges that
a user writes, some of which count back from today, and `parseBound` reads one end of a range as a
request gives it. `DayRange.suffixPredicate` is the condition that picks the tables of the range.
-/

namespace EventReport.Calendar

open Text

/-- The days from `first` to `last`, both included. -/
structure DayRange where
  first : Date
  last : Date
  first_le_last : first ≤ last
  deriving DecidableEq

namespace DayRange

/-- The range between two days, the first of which must not come after the other. -/
def between (first last : Date) : Except ReportError DayRange :=
  if h : first ≤ last then pure ⟨first, last, h⟩ else throw (.construction .startAfterEnd)

/-- The whole days of the longest span of time. Its milliseconds are the most that a word with a
sign can count. -/
def longestSpan : Nat := (Number.halfWordCount - 1) / (24 * 60 * 60 * 1000)

/-- The range that ends on `today` and begins `days` days before it, if there is a span of so many
days and that day can be represented. -/
def endingOn? (today : Date) (days : Nat) : Option DayRange :=
  if days ≤ longestSpan then
    match h : Date.ofDayNumber? (today.dayNumber - days) with
    | none => none
    | some first =>
      some ⟨first, today, Date.le_iff_dayNumber_le.mpr (by
        rw [Date.dayNumber_of_ofDayNumber? h]; omega)⟩
  else none

/-- The range of one day. -/
def single (day : Date) : DayRange :=
  ⟨day, day, Date.le_iff_dayNumber_le.mpr (Int.le_refl _)⟩

/-! ## What a range says -/

/-- The number of days in the range. -/
def days (r : DayRange) : Int :=
  r.last.dayNumber - r.first.dayNumber + 1

/-- Up to `most` days from `day` on, none after `last`. The last day of the calendar is not given:
a day is given together with the step to the next. -/
def datesFrom (last : Date) : (most : Nat) → (day : Date) → List Date
  | 0, _ => []
  | most + 1, day =>
    match day.next? with
    | none => []
    | some next => if day ≤ last then day :: datesFrom last most next else []

/-- The first `most` days of the range, in order. -/
def dates (r : DayRange) (most : Nat) : List Date :=
  datesFrom r.last most r.first

/-- The range in words. -/
def written (r : DayRange) : String :=
  String.ofList r.first.dashed ++ " to " ++ String.ofList r.last.dashed

/-- The condition on the suffix of a table's name that picks the tables of the range. -/
def suffixPredicate (r : DayRange) : String :=
  "_TABLE_SUFFIX BETWEEN '" ++ String.ofList r.first.compact ++ "' AND '" ++
    String.ofList r.last.compact ++ "'"

/-! ## Ranges that count back from today -/

/-- A whole number of a machine word: an optional sign and digits. -/
def readWord? (cs : List Char) : Option Int :=
  let (negative, digits) := Number.spanSign cs
  if digits = [] ∨ ¬ digits.all Char.isDigit then none
  else
    let n : Int := Number.digitsValue digits
    let value := if negative then -n else n
    if Number.fitsSignedWord value then some value else none

/-- The number of days that a unit stands for. -/
def unitDays? : Char → Option Nat
  | 'd' => some 1
  | 'w' => some 7
  | _ => none

/-- A positive count and a unit, the last character of the text: the count and the number of days
of the unit. -/
def readCount? (cs : List Char) : Option (Nat × Nat) := do
  let unit ← cs.getLast?
  let count ← readWord? cs.dropLast
  let days ← unitDays? unit
  if 0 < count then some (count.toNat, days) else none

/-- The range, or the fault that it does not lie within bounds. -/
def orOutOfBounds (text : String) : Option DayRange → Except ReportError DayRange
  | some range => pure range
  | none => throw (.invalidRange (.outOfBounds text))

/-- A count of units of so many days each up to `today`, which counts as one of the days. Their
number has to fit a word with a sign. -/
def lastDays (today : Date) (count unit : Nat) (text : String) : Except ReportError DayRange :=
  orOutOfBounds text
    (if Number.fitsSignedWord (count * unit) then endingOn? today (count * unit - 1) else none)

/-- The range that ends on `today` and begins `days` days before it. -/
def backFrom (today : Date) (days : UInt32) : Except ReportError DayRange :=
  orOutOfBounds (toString days.toNat ++ "d") (endingOn? today days.toNat)

/-! ## Reading -/

/-- A day of a range that a user writes. -/
def parseDay (cs : List Char) : Except ReportError Date :=
  match readDay? (trim cs) with
  | some day => pure day
  | none => throw (.invalidRange (.invalidDay (String.ofList (trim cs))))

/-- The texts before and after the first comma. -/
def splitAtComma? (cs : List Char) : Option (List Char × List Char) :=
  match cs.dropWhile (· ≠ ',') with
  | [] => none
  | _ :: after => some (cs.takeWhile (· ≠ ','), after)

/-- Reads a range without regard to blanks at its ends and to capitals: `today`, `yesterday`, a
count of days or weeks up to today, or two days with a comma between. -/
def parse (today : Date) (text : String) : Except ReportError DayRange :=
  let cs := lowercase (trim text.toList)
  let lowered := String.ofList cs
  if lowered = "today" then pure (single today)
  else if lowered = "yesterday" then
    match Date.ofDayNumber? (today.dayNumber - 1) with
    | some day => pure (single day)
    | none => throw (.invalidRange (.outOfBounds lowered))
  else
    match readCount? cs with
    | some (count, unit) => lastDays today count unit lowered
    | none =>
      match splitAtComma? cs with
      | some (first, last) => do
        let first ← parseDay first
        let last ← parseDay last
        between first last
      | none => throw (.invalidRange (.unknownFormat lowered))

end DayRange

/-- Reads one end of a range as a request gives it: a date, alone or with a time of day, with or
without an offset. -/
def parseBound (text : String) : Except ReportError Date :=
  let cs := trim text.toList
  match readDay? cs <|> readTimestamp? cs <|> readInstant? cs with
  | some day => pure day
  | none => throw (.invalidRange (.invalidBound (String.ofList cs)))

end EventReport.Calendar
