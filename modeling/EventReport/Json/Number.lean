import EventReport.Number.Literal
import EventReport.Number.Shortest

/-! # JSON numbers

A `Numeral` is a number as a document spells it. `Numeral.value?` is what it stands for: a whole
number where it fits a machine word of 64 bits, else a floating point number, which is built in
machine arithmetic and so can miss the nearest one by a step. `realText` writes a floating point
number with the fewest digits that read back.
-/

namespace EventReport.Json

open Number

/-- The spelling of a number: digits, digits after a point, and an exponent. -/
structure Numeral where
  negative : Bool
  whole : List Char
  fraction : Option (List Char)
  exponent : Option (Bool × List Char)
  deriving DecidableEq, Repr

/-- What a number stands for. -/
inductive NumberValue where
  | integer (i : Int)
  | real (x : Real64)
  deriving DecidableEq, Repr

/-! ## Reading -/

/-- Takes in digits while the significand fits a word: the significand, and the digits
left over. -/
def absorb (significand : Nat) : List Char → Nat × List Char
  | [] => (significand, [])
  | c :: rest =>
    let next := significand * 10 + (c.toNat - '0'.toNat)
    if fitsWord next then absorb next rest else (significand, c :: rest)

/-- The largest power of ten that one step can multiply or divide by. -/
def powerLimit : Nat := 308

/-- The nearest magnitude to a power of ten. -/
def powerOfTen (n : Nat) : Option Magnitude :=
  Magnitude.ofNat (Nat.pow 10 n)

/-- Multiplies a magnitude by a power of ten, in as many roundings as the power needs steps; none
if it grows too large. -/
def timesPowerOfTen (m : Magnitude) (exponent : Int) : Option Magnitude :=
  if exponent.natAbs ≤ powerLimit then
    (powerOfTen exponent.natAbs).bind fun power =>
      if 0 ≤ exponent then m.mul power else m.div power
  else if m.mantissa = 0 then some m
  else if 0 ≤ exponent then none
  else
    ((powerOfTen powerLimit).bind m.div).bind fun smaller =>
      timesPowerOfTen smaller (exponent + powerLimit)
  termination_by (-exponent).toNat
  decreasing_by simp only [powerLimit] at *; omega

namespace Numeral

/-- The exponent that is written out. -/
def writtenExponent (n : Numeral) : Int :=
  match n.exponent with
  | none => 0
  | some (true, digits) => -(digitsValue digits : Int)
  | some (false, digits) => digitsValue digits

/-- The floating point number, if it is not too large: the significand takes in what digits it can
and is then scaled. -/
def real? (n : Numeral) : Option Real64 :=
  let (whole, leftOver) := absorb 0 n.whole
  let (significand, dropped) := absorb whole (n.fraction.getD [])
  let taken := (n.fraction.getD []).length - dropped.length
  (Magnitude.ofNat significand).bind fun m =>
    (timesPowerOfTen m (leftOver.length - taken + n.writtenExponent)).map
      (Real64.ofMagnitude n.negative)

/-- The number is spelt as a whole number. -/
def isWhole (n : Numeral) : Bool :=
  n.fraction.isNone && n.exponent.isNone

/-- What the number stands for; none if it is too large to be a floating point number. A negative
zero is no whole number. -/
def value? (n : Numeral) : Option NumberValue :=
  let size := digitsValue n.whole
  if n.isWhole ∧ n.negative = false ∧ fitsWord size then some (.integer size)
  else if n.isWhole ∧ n.negative = true ∧ 0 < size ∧ fitsSignedWord (-size) then
    some (.integer (-size))
  else n.real?.map .real

end Numeral

/-- A number as a floating point number. -/
def NumberValue.toReal? : NumberValue → Option Real64
  | .integer i => Real64.ofInt i
  | .real x => some x

/-! ## Writing -/

/-- Exponents of the first digit that are written without an exponent. -/
def isPositional (exponent : Int) : Bool :=
  -5 ≤ exponent && exponent ≤ 15

/-- The fewest digits that read back. They are written positionally when the first digit is not far
from the point, with at least one digit on both sides of it, and else with an exponent that has a
sign. -/
def realText (x : Real64) : String :=
  let d := x.magnitude.shortest
  let digits := Nat.toDigits 10 d.digits
  let first : Int := digits.length + d.exponent - 1
  let unsigned : List Char :=
    if isPositional first then
      if 0 ≤ d.exponent then digits ++ List.replicate d.exponent.toNat '0' ++ ['.', '0']
      else if 0 ≤ first then
        digits.take (first.toNat + 1) ++ '.' :: digits.drop (first.toNat + 1)
      else '0' :: '.' :: List.replicate (-first - 1).toNat '0' ++ digits
    else
      digits.take 1 ++ (if digits.length = 1 then [] else '.' :: digits.drop 1) ++
        'e' :: (if 0 ≤ first then '+' else '-') :: Nat.toDigits 10 first.natAbs
  String.ofList (if x.negative then '-' :: unsigned else unsigned)

end EventReport.Json
