/-! # Decimal literals

A `Literal` is a number as it is written in decimal: digits and a power of ten. `Literal.read?`
reads the form with an optional sign, digits with at most one point among them or at an end, and an
optional exponent. `Literal.isFinite` tells whether the number still rounds to a finite binary
floating point number of 64 bits.
-/

namespace EventReport.Number

/-- The number `± digits · 10 ^ exponent`; the digits are characters from `0` to `9`. -/
structure Literal where
  negative : Bool
  digits : List Char
  exponent : Int
  deriving DecidableEq, Repr

/-- The value of a list of decimal digits. -/
def digitsValue (digits : List Char) : Nat :=
  Nat.ofDigitChars 10 digits 0

/-- The digits at the front of a text, and what follows them. -/
def spanDigits (cs : List Char) : List Char × List Char :=
  (cs.takeWhile Char.isDigit, cs.dropWhile Char.isDigit)

/-- An optional sign at the front of a text: whether it is a minus, and what follows it. -/
def spanSign : List Char → Bool × List Char
  | '+' :: cs => (false, cs)
  | '-' :: cs => (true, cs)
  | cs => (false, cs)

namespace Literal

/-- The exponent that is the whole of a text: nothing, or `e`, an optional sign and digits. -/
def readExponent? : List Char → Option Int
  | [] => some 0
  | c :: cs =>
    if c = 'e' ∨ c = 'E' then
      let (negative, digits) := spanSign cs
      if digits ≠ [] ∧ digits.all Char.isDigit then
        some (if negative then -(digitsValue digits : Int) else digitsValue digits)
      else none
    else none

/-- The digits after a point at the front of a text, and what follows them. -/
def spanFraction : List Char → List Char × List Char
  | '.' :: cs => spanDigits cs
  | cs => ([], cs)

/-- Reads a decimal literal that is the whole of a text. -/
def read? (cs : List Char) : Option Literal :=
  let (negative, unsigned) := spanSign cs
  let (whole, afterWhole) := spanDigits unsigned
  let (fraction, afterFraction) := spanFraction afterWhole
  if whole = [] ∧ fraction = [] then none
  else
    (readExponent? afterFraction).map fun exponent =>
      ⟨negative, whole ++ fraction, exponent - fraction.length⟩

/-- The least number that rounds past the largest finite one: half a step above it. -/
def overflowBound : Nat := Nat.pow 2 1024 - Nat.pow 2 970

/-- The number rounds to a finite one. Powers of ten that settle the question on sight are not
computed. -/
def isFinite (l : Literal) : Bool :=
  let n := digitsValue l.digits
  if n = 0 then true
  else if 0 ≤ l.exponent then
    l.exponent < 310 && n * Nat.pow 10 l.exponent.toNat < overflowBound
  else
    (l.digits.length : Int) ≤ -l.exponent || n < overflowBound * Nat.pow 10 (-l.exponent).toNat

end Literal

end EventReport.Number
