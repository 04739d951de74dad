import EventReport.Number.Word

/-! # Binary floating point numbers of 64 bits

A `Magnitude` is a finite number without a sign, `mantissa · 2 ^ exponent`, in the one form that
the 64-bit format stores. `Magnitude.ofRatio` rounds an exact quotient to the nearest one, a tie to
the even mantissa, and refuses what would round past the largest. A `Real64` is the stored word.
-/

namespace EventReport.Number

/-- The number of bits of a mantissa after its first. -/
def fractionBits : Nat := 52

/-- The least mantissa of 53 bits, which is two to the power of `fractionBits`. -/
def fullMantissa : Nat := 4503599627370496

/-- The exponent of the smallest steps. -/
def leastExponent : Int := -1074

/-- The first word that stands for no finite number. -/
def infiniteWord : Nat := 0x7ff0000000000000

/-- A finite number that is not negative: `mantissa · 2 ^ exponent`. -/
structure Magnitude where
  mantissa : Nat
  exponent : Int
  deriving DecidableEq, Repr

/-- The quotient `num / den` rounded to the nearest natural number, a tie to the even one. -/
def roundHalfEven (num den : Nat) : Nat :=
  let q := num / den
  let r := num % den
  if 2 * r < den then q
  else if 2 * r > den then q + 1
  else q + q % 2

/-- The quotient `num / den` of numbers scaled by `2 ^ shift`, as numerator and denominator. -/
def scaledByTwo (num den : Nat) (shift : Int) : Nat × Nat :=
  if 0 ≤ shift then (num * Nat.pow 2 shift.toNat, den) else (num, den * Nat.pow 2 (-shift).toNat)

/-- The largest `k` with `2 ^ k ≤ num / den`, for positive numbers. -/
def floorLog2 (num den : Nat) : Int :=
  let k : Int := (Nat.log2 num : Int) - Nat.log2 den
  let scaled := scaledByTwo num den (-k)
  if scaled.1 < scaled.2 then k - 1 else k

namespace Magnitude

/-- The magnitude that a word without its sign bit stores. -/
def ofWord (word : Nat) : Magnitude :=
  let field := word / fullMantissa
  let fraction := word % fullMantissa
  if field = 0 then ⟨fraction, leastExponent⟩
  else ⟨fullMantissa + fraction, leastExponent + field - 1⟩

/-- The word that stores the magnitude. A mantissa of 54 bits carries into the exponent. -/
def word (m : Magnitude) : Nat :=
  m.mantissa + (m.exponent - leastExponent).toNat * fullMantissa

/-- The magnitude nearest to `num / den`, a tie to the even mantissa; none if that is too large. -/
def ofRatio (num den : Nat) : Option Magnitude :=
  if num = 0 then some ⟨0, leastExponent⟩
  else
    let exponent := max (floorLog2 num den - fractionBits) leastExponent
    let scaled := scaledByTwo num den (-exponent)
    let rounded := (⟨roundHalfEven scaled.1 scaled.2, exponent⟩ : Magnitude).word
    if rounded < infiniteWord then some (ofWord rounded) else none

/-- The magnitude as an exact quotient. -/
def ratio (m : Magnitude) : Nat × Nat :=
  scaledByTwo m.mantissa 1 m.exponent

/-- The nearest magnitude to a natural number. -/
def ofNat (n : Nat) : Option Magnitude :=
  ofRatio n 1

/-- The rounded product. -/
def mul (a b : Magnitude) : Option Magnitude :=
  let p := a.ratio
  let q := b.ratio
  ofRatio (p.1 * q.1) (p.2 * q.2)

/-- The rounded quotient; none also for a divisor of zero. -/
def div (a b : Magnitude) : Option Magnitude :=
  let p := a.ratio
  let q := b.ratio
  if q.1 = 0 then none else ofRatio (p.1 * q.2) (p.2 * q.1)

end Magnitude

/-- A finite number as its stored word. -/
structure Real64 where
  bits : UInt64
  deriving DecidableEq, Repr, Inhabited

namespace Real64

/-- The sign bit. -/
def signBit : Nat := halfWordCount

/-- The number with the given sign and magnitude. -/
def ofMagnitude (negative : Bool) (m : Magnitude) : Real64 :=
  ⟨UInt64.ofNat (m.word + if negative then signBit else 0)⟩

/-- The sign bit is set. -/
def negative (x : Real64) : Bool :=
  signBit ≤ x.bits.toNat

/-- The number without its sign. -/
def magnitude (x : Real64) : Magnitude :=
  Magnitude.ofWord (x.bits.toNat % signBit)

/-- The number nearest to a whole number. -/
def ofInt (i : Int) : Option Real64 :=
  (Magnitude.ofNat i.natAbs).map (ofMagnitude (decide (i < 0)))

/-- The sixteen hexadecimal digits of the stored word. -/
def hex (x : Real64) : String :=
  let digits := Nat.toDigits 16 x.bits.toNat
  String.ofList (List.replicate (16 - digits.length) '0' ++ digits)

end Real64

end EventReport.Number
