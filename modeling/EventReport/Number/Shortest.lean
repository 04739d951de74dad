import EventReport.Number.Binary64

/-! # Shortest decimal digits

`shortest m` gives the fewest significant decimal digits that read back as the magnitude `m`, and of
those the nearest to it. A decimal reads back when it lies in the interval of reals that round to
`m`; the ends belong to it when the mantissa is even.
-/

namespace EventReport.Number

/-- `digits · 10 ^ exponent`. -/
structure Decimal where
  digits : Nat
  exponent : Int
  deriving DecidableEq, Repr

namespace Decimal

/-- The decimal as an exact quotient. -/
def ratio (d : Decimal) : Nat × Nat :=
  if 0 ≤ d.exponent then (d.digits * Nat.pow 10 d.exponent.toNat, 1)
  else (d.digits, Nat.pow 10 (-d.exponent).toNat)

/-- The same number without zeros at the end of its digits. -/
def stripped : Nat → Decimal → Decimal
  | 0, d => d
  | fuel + 1, d =>
    if d.digits ≠ 0 ∧ d.digits % 10 = 0 then stripped fuel ⟨d.digits / 10, d.exponent + 1⟩ else d

end Decimal

/-- Compares two quotients. -/
def ratioLt (a b : Nat × Nat) : Bool :=
  a.1 * b.2 < b.1 * a.2

/-- Compares two quotients. -/
def ratioLe (a b : Nat × Nat) : Bool :=
  a.1 * b.2 ≤ b.1 * a.2

/-- The distance of two quotients. -/
def ratioDistance (a b : Nat × Nat) : Nat × Nat :=
  ((a.1 * b.2 - b.1 * a.2) + (b.1 * a.2 - a.1 * b.2), a.2 * b.2)

namespace Magnitude

/-- The lower end of the reals that round to `m`. Below a power of two steps are half as wide. -/
def lowerEnd (m : Magnitude) : Nat × Nat :=
  if m.mantissa = fullMantissa ∧ leastExponent < m.exponent then
    scaledByTwo (4 * m.mantissa - 1) 1 (m.exponent - 2)
  else scaledByTwo (2 * m.mantissa - 1) 1 (m.exponent - 1)

/-- The upper end of the reals that round to `m`. -/
def upperEnd (m : Magnitude) : Nat × Nat :=
  scaledByTwo (2 * m.mantissa + 1) 1 (m.exponent - 1)

/-- The decimal reads back as `m`. -/
def roundsTo (m : Magnitude) (d : Decimal) : Bool :=
  if m.mantissa % 2 = 0 then ratioLe m.lowerEnd d.ratio && ratioLe d.ratio m.upperEnd
  else ratioLt m.lowerEnd d.ratio && ratioLt d.ratio m.upperEnd

/-- The largest `k` with `10 ^ k ≤ m`, for a positive magnitude. -/
def floorLog10 (m : Magnitude) : Int :=
  let r := m.ratio
  let k : Int := (Nat.toDigits 10 r.1).length - (Nat.toDigits 10 r.2).length
  if ratioLt r (Decimal.ratio ⟨1, k⟩) then k - 1 else k

/-- The magnitude rounded down to a multiple of `10 ^ step`. -/
def onGrid (m : Magnitude) (step : Int) : Decimal :=
  let r := m.ratio
  let g := Decimal.ratio ⟨1, step⟩
  ⟨r.1 * g.2 / (r.2 * g.1), step⟩

/-- The nearer of the two neighbours on the grid of `10 ^ step` that read back, of two at the same
distance the even one; none if neither reads back. -/
def nearestOnGrid (m : Magnitude) (step : Int) : Option Decimal :=
  let low := m.onGrid step
  let high : Decimal := ⟨low.digits + 1, step⟩
  match m.roundsTo low, m.roundsTo high with
  | false, false => none
  | true, false => some low
  | false, true => some high
  | true, true =>
    let below := ratioDistance low.ratio m.ratio
    let above := ratioDistance high.ratio m.ratio
    if ratioLt below above then some low
    else if ratioLt above below then some high
    else if low.digits % 2 = 0 then some low
    else some high

/-- Grids from the coarsest on: seventeen digits are always enough. -/
def shortest (m : Magnitude) : Decimal :=
  if m.mantissa = 0 then ⟨0, 0⟩
  else
    let top := m.floorLog10
    let found := (List.range 17).findSome? fun (i : Nat) => m.nearestOnGrid (top - i)
    (found.getD (m.onGrid (top - 16))).stripped 17

end Magnitude

end EventReport.Number
