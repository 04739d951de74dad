import EventReport.Calendar.Date

/-! # Written dates

`dashed` writes a date as year, month and day with dashes between, `compact` writes the same digits
without dashes. A year has at least four digits, and a sign where it lies outside 0 to 9999.
-/

namespace EventReport.Calendar

/-- The decimal digit of a number below ten. -/
def digit (n : Nat) : Char :=
  Char.ofNat ('0'.toNat + n)

/-- Two digits. -/
def twoDigits (n : Nat) : List Char :=
  [digit (n / 10 % 10), digit (n % 10)]

/-- Four digits. -/
def fourDigits (n : Nat) : List Char :=
  [digit (n / 1000 % 10), digit (n / 100 % 10), digit (n / 10 % 10), digit (n % 10)]

/-- At least four digits. -/
def yearDigits (n : Nat) : List Char :=
  if n ≤ 9999 then fourDigits n else Nat.toDigits 10 n

/-- A year with its sign, which it has only where it lies outside 0 to 9999. -/
def writtenYear (year : Int) : List Char :=
  if year < 0 then '-' :: yearDigits year.natAbs
  else if year ≤ 9999 then fourDigits year.natAbs
  else '+' :: yearDigits year.natAbs

namespace Date

/-- Year, month and day with dashes between. -/
def dashed (d : Date) : List Char :=
  writtenYear d.year ++ '-' :: twoDigits d.month ++ '-' :: twoDigits d.day

/-- Year, month and day run together. -/
def compact (d : Date) : List Char :=
  writtenYear d.year ++ twoDigits d.month ++ twoDigits d.day

instance : ToString Date := ⟨fun d => String.ofList d.dashed⟩

end Date

end EventReport.Calendar
