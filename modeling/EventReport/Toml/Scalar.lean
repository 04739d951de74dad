import EventReport.Calendar.Reading
import EventReport.Number.Word
import EventReport.Toml.Text

/-! # Plain values in TOML

A `Scalar` is a value that holds no other values. Numbers with a point or an exponent and times are
checked, but what they stand for is not kept.
-/

namespace EventReport.Toml

open Number Calendar

/-- A value that holds no other values. -/
inductive Scalar where
  | text (s : String)
  | integer (i : Int)
  | real
  | bool (b : Bool)
  | moment
  deriving DecidableEq, Repr

/-! ## Times -/

/-- Year, month and day of a day that exists. -/
def readDate : Scan Unit := fun cs => do
  let (year, cs) ← readNumber 4 4 cs
  let cs ← char? '-' cs
  let (month, cs) ← readNumber 2 2 cs
  let cs ← char? '-' cs
  let (day, cs) ← readNumber 2 2 cs
  if (Date.ofParts? year month day).isSome then some ((), cs) else none

/-- An offset of less than a day: `Z`, or a sign, hours and minutes. -/
def readOffset : Scan Unit
  | [] => none
  | c :: cs =>
    if c = 'Z' ∨ c = 'z' then some ((), cs)
    else if c = '+' ∨ c = '-' then do
      let (hours, cs) ← readNumber 2 2 cs
      let cs ← char? ':' cs
      let (minutes, cs) ← readNumber 2 2 cs
      if hours ≤ 23 ∧ minutes ≤ 59 then some ((), cs) else none
    else none

/-- The part that is read, or nothing. -/
def optional (part : Scan Unit) : Scan Unit := fun cs =>
  part cs <|> some ((), cs)

/-- A time of day. -/
def readClock : Scan Unit := fun cs => do
  let (_, cs) ← readTime (readNumber 2 2) cs
  return ((), cs)

/-- A time of day after a date, with or without an offset. -/
def readTimePart : Scan Unit := fun cs => do
  let (_, cs) ← readSeparator cs
  let (_, cs) ← readClock cs
  optional readOffset cs

/-- A date, with or without a time of day, or a time of day alone. -/
def readMoment : Scan Unit := fun cs =>
  (readDate cs >>= fun (_, cs) => optional readTimePart cs) <|> readClock cs

/-! ## Numbers -/

/-- Digits of a number; one underscore can stand between two of them. -/
def spanGrouped (isDigit : Char → Bool) : List Char → List Char × List Char
  | [] => ([], [])
  | c :: cs =>
    if isDigit c then
      let (digits, rest) := spanGrouped isDigit cs
      (c :: digits, rest)
    else if c = '_' && cs.head?.any isDigit then spanGrouped isDigit cs
    else ([], c :: cs)

/-- Digits of a number, at least one. -/
def readGrouped (isDigit : Char → Bool) : Scan (List Char)
  | [] => none
  | c :: cs => if isDigit c then some (spanGrouped isDigit (c :: cs)) else none

/-- The digits of a whole number in decimal. A zero stands alone. -/
def readDecimal : Scan (List Char)
  | '0' :: cs => some (['0'], cs)
  | cs => readGrouped Char.isDigit cs

/-- The digits after a point. -/
def readFraction : Scan (List Char) := fun cs => do
  readGrouped Char.isDigit (← char? '.' cs)

/-- An exponent. -/
def readExponent : Scan Int
  | [] => none
  | c :: cs =>
    if c = 'e' ∨ c = 'E' then
      let (negative, cs) := spanSign cs
      (readGrouped Char.isDigit cs).map fun (digits, rest) =>
        (if negative then -(digitsValue digits : Int) else digitsValue digits, rest)
    else none

/-- A number with a point, an exponent or both. One that is too large is refused, unless it is
negative. -/
def readReal : Scan Unit := fun cs => do
  let (negative, cs) := spanSign cs
  let (whole, cs) ← readDecimal cs
  let (fraction, exponent, cs) ←
    match readFraction cs with
    | some (fraction, cs) =>
      match readExponent cs with
      | some (exponent, cs) => some (fraction, exponent, cs)
      | none => some (fraction, (0 : Int), cs)
    | none => (readExponent cs).map fun (exponent, cs) => ([], exponent, cs)
  let literal : Literal := ⟨negative, whole ++ fraction, exponent - fraction.length⟩
  if negative || literal.isFinite then some ((), cs) else none

/-- Infinity or no number, by name. -/
def readNamedReal : Scan Unit := fun cs =>
  let (_, cs) := spanSign cs
  ((word? ['i', 'n', 'f'] cs) <|> (word? ['n', 'a', 'n'] cs)).map fun cs => ((), cs)

/-- A digit to base 8. -/
def isOctal (c : Char) : Bool :=
  '0' ≤ c && c ≤ '7'

/-- A digit to base 2. -/
def isBinary (c : Char) : Bool :=
  c = '0' || c = '1'

/-- A whole number to a base, if it fits a machine word with a sign. -/
def readBased (base : Nat) (isDigit : Char → Bool) : Scan Int := fun cs => do
  let (digits, cs) ← readGrouped isDigit cs
  let values ← digits.mapM Json.hexDigit?
  let n := values.foldl (fun n d => n * base + d) 0
  if fitsSignedWord n then some ((n : Int), cs) else none

/-- A whole number, if it fits a machine word with a sign. -/
def readInteger : Scan Int
  | '0' :: 'x' :: cs => readBased 16 (fun c => (Json.hexDigit? c).isSome) cs
  | '0' :: 'o' :: cs => readBased 8 isOctal cs
  | '0' :: 'b' :: cs => readBased 2 isBinary cs
  | cs => do
    let (negative, cs) := spanSign cs
    let (digits, cs) ← readDecimal cs
    let n : Int := digitsValue digits
    let value := if negative then -n else n
    if fitsSignedWord value then some (value, cs) else none

/-! ## All of them -/

/-- Reads a plain value. -/
def readScalar : Scan Scalar := fun cs =>
  (readText cs).map (fun (s, cs) => (.text s, cs)) <|>
  (readMoment cs).map (fun (_, cs) => (.moment, cs)) <|>
  (readReal cs).map (fun (_, cs) => (.real, cs)) <|>
  (readNamedReal cs).map (fun (_, cs) => (.real, cs)) <|>
  (readInteger cs).map (fun (i, cs) => (.integer i, cs)) <|>
  (word? "true".toList cs).map (fun cs => (.bool true, cs)) <|>
  (word? "false".toList cs).map (fun cs => (.bool false, cs))

end EventReport.Toml
