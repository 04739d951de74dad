import EventReport.Number.Binary64
import Mathlib.Algebra.Order.Field.Power
import Mathlib.Algebra.Order.Field.Rat
import Mathlib.Tactic.GCongr
import Mathlib.Tactic.Linarith
import Mathlib.Tactic.Positivity
import Mathlib.Tactic.Ring

/-! # Which quotients round to a finite number

A quotient is scaled by a power of two so that its whole part has 53 bits, and is rounded half to
even. The nearest magnitude is finite exactly if the quotient is less than `2 ^ 1024 - 2 ^ 970`,
half a step above the largest one (`Magnitude.isSome_ofRatio_iff`): the tie there goes to the even
mantissa, which is past the format. -/

set_option autoImplicit false

namespace EventReport.Number

/-! ## Scaling -/

section Scaled

variable {num den : Nat}

theorem scaledByTwo_pos (hden : 0 < den) (shift : Int) : 0 < (scaledByTwo num den shift).2 := by
  unfold scaledByTwo
  split
  · exact hden
  · exact Nat.mul_pos hden (Nat.two_pow_pos _)

theorem ratio_scaledByTwo (num den : Nat) (shift : Int) :
    ((scaledByTwo num den shift).1 : ℚ) / (scaledByTwo num den shift).2 =
      num / den * 2 ^ shift := by
  unfold scaledByTwo
  split
  · rename_i hshift
    lift shift to Nat using hshift
    rw [Int.toNat_natCast, Nat.pow_eq, zpow_natCast]
    push_cast
    ring
  · rename_i hshift
    obtain ⟨k, rfl⟩ : ∃ k : Nat, shift = -k := ⟨(-shift).toNat, by omega⟩
    rw [neg_neg, Int.toNat_natCast, Nat.pow_eq, zpow_neg, zpow_natCast]
    push_cast
    rw [div_mul_eq_div_div, div_eq_mul_inv]

theorem scaledByTwo_lt_iff (hden : 0 < den) (shift : Int) :
    (scaledByTwo num den shift).1 < (scaledByTwo num den shift).2 ↔
      (num : ℚ) / den * 2 ^ shift < 1 := by
  have hpos : (0 : ℚ) < (scaledByTwo num den shift).2 := by
    exact_mod_cast scaledByTwo_pos hden shift
  rw [← ratio_scaledByTwo, div_lt_one hpos, Nat.cast_lt]

end Scaled

/-! ## The binary logarithm -/

/-- A positive natural number has one bit more than its logarithm. -/
theorem two_zpow_log2 {n : Nat} (hn : 0 < n) :
    (2 : ℚ) ^ (Nat.log2 n : Int) ≤ n ∧ (n : ℚ) < 2 ^ ((Nat.log2 n : Int) + 1) := by
  have hle : 2 ^ Nat.log2 n ≤ n := Nat.log2_self_le (by omega)
  have hlt : n < 2 ^ (Nat.log2 n + 1) := Nat.lt_log2_self
  constructor
  · rw [zpow_natCast]
    exact_mod_cast hle
  · rw [← Nat.cast_succ, zpow_natCast]
    exact_mod_cast hlt

theorem floorLog2_spec {num den : Nat} (hnum : 0 < num) (hden : 0 < den) :
    (2 : ℚ) ^ floorLog2 num den ≤ num / den ∧
      (num : ℚ) / den < 2 ^ (floorLog2 num den + 1) := by
  obtain ⟨hnumle, hnumlt⟩ := two_zpow_log2 hnum
  obtain ⟨hdenle, hdenlt⟩ := two_zpow_log2 hden
  have hpos : (0 : ℚ) < den := by exact_mod_cast hden
  have htwo : (2 : ℚ) ≠ 0 := two_ne_zero
  -- The difference of the logarithms is off by one at most; a comparison tells.
  have hlower : (2 : ℚ) ^ ((Nat.log2 num : Int) - Nat.log2 den - 1) ≤ num / den := by
    rw [le_div_iff₀ hpos]
    calc (2 : ℚ) ^ ((Nat.log2 num : Int) - Nat.log2 den - 1) * den
        ≤ 2 ^ ((Nat.log2 num : Int) - Nat.log2 den - 1) * 2 ^ ((Nat.log2 den : Int) + 1) := by
          gcongr
      _ = 2 ^ (Nat.log2 num : Int) := by
          rw [← zpow_add₀ htwo]
          congr 1
          ring
      _ ≤ num := hnumle
  have hupper : (num : ℚ) / den < 2 ^ ((Nat.log2 num : Int) - Nat.log2 den + 1) := by
    rw [div_lt_iff₀ hpos]
    calc (num : ℚ) < 2 ^ ((Nat.log2 num : Int) + 1) := hnumlt
      _ = 2 ^ ((Nat.log2 num : Int) - Nat.log2 den + 1) * 2 ^ (Nat.log2 den : Int) := by
          rw [← zpow_add₀ htwo]
          congr 1
          ring
      _ ≤ 2 ^ ((Nat.log2 num : Int) - Nat.log2 den + 1) * den := by gcongr
  have hscaled : ∀ k : Int, (num : ℚ) / den * 2 ^ (-k) < 1 ↔ (num : ℚ) / den < 2 ^ k := by
    intro k
    rw [zpow_neg, ← div_eq_mul_inv, div_lt_one (by positivity)]
  unfold floorLog2
  simp only [scaledByTwo_lt_iff hden, hscaled]
  split
  · rename_i hless
    exact ⟨hlower, by rwa [sub_add_cancel]⟩
  · rename_i hmore
    exact ⟨not_lt.mp hmore, hupper⟩

/-! ## Rounding half to even -/

/-- A quotient rounds to less than an even number exactly if it is more than half below: the tie in
between rounds to the even number itself. -/
theorem roundHalfEven_lt_iff {num den n : Nat} (hden : 0 < den) (heven : n % 2 = 0) :
    roundHalfEven num den < n ↔ (num : ℚ) / den < n - 1 / 2 := by
  have hpos : (0 : ℚ) < den := by exact_mod_cast hden
  have hcast : (num : ℚ) / den < n - 1 / 2 ↔ 2 * num + den < 2 * (n * den) := by
    rw [div_lt_iff₀ hpos, ← Nat.cast_lt (α := ℚ)]
    push_cast
    constructor <;> intro h <;> linarith
  rw [hcast]
  have hdivmod : num / den * den + num % den = num := Nat.div_add_mod' num den
  have hmod : num % den < den := Nat.mod_lt num hden
  unfold roundHalfEven
  dsimp only
  generalize num / den = q at *
  generalize num % den = r at *
  -- The whole part is at least the number, next below it, or further below.
  have hplace : n ≤ q ∧ n * den ≤ q * den ∨ n = q + 1 ∧ n * den = q * den + den ∨
      q + 2 ≤ n ∧ q * den + 2 * den ≤ n * den := by
    rcases Nat.lt_trichotomy n (q + 1) with hless | rfl | hmore
    · exact .inl ⟨by omega, Nat.mul_le_mul_right den (by omega)⟩
    · exact .inr (.inl ⟨rfl, Nat.succ_mul q den⟩)
    · rw [← Nat.add_mul]
      exact .inr (.inr ⟨hmore, Nat.mul_le_mul_right den hmore⟩)
  split_ifs <;> omega

/-! ## Overflow -/

/-- The mantissa at an exponent is less than an even number exactly if the quotient is more than
half a step below it. -/
theorem roundHalfEven_scaledByTwo_lt_iff {num den n : Nat} (hden : 0 < den) (heven : n % 2 = 0)
    (exponent : Int) :
    roundHalfEven (scaledByTwo num den (-exponent)).1 (scaledByTwo num den (-exponent)).2 < n ↔
      (num : ℚ) / den < (n - 1 / 2) * 2 ^ exponent := by
  have hstep : (0 : ℚ) < 2 ^ exponent := by positivity
  rw [roundHalfEven_lt_iff (scaledByTwo_pos hden _) heven, ratio_scaledByTwo, zpow_neg,
    ← div_eq_mul_inv, div_lt_iff₀ hstep]

namespace Magnitude

/-- A magnitude fits the format exactly if its mantissa is below what its exponent leaves. -/
theorem word_lt_infiniteWord_iff {m : Magnitude} (h : leastExponent ≤ m.exponent) :
    m.word < infiniteWord ↔ (m.mantissa : Int) < (973 - m.exponent) * fullMantissa := by
  unfold word infiniteWord
  unfold leastExponent at *
  unfold fullMantissa
  omega

/-- A quotient rounds to a finite number exactly if its mantissa leaves the exponent as it is. -/
theorem isSome_ofRatio {num den : Nat} (hnum : num ≠ 0) {exponent : Int}
    (hexponent : max (floorLog2 num den - fractionBits) leastExponent = exponent) :
    (ofRatio num den).isSome ↔
      (roundHalfEven (scaledByTwo num den (-exponent)).1 (scaledByTwo num den (-exponent)).2 : Int)
        < (973 - exponent) * fullMantissa := by
  have hleast : leastExponent ≤ exponent := hexponent ▸ le_max_right _ _
  rw [← word_lt_infiniteWord_iff (m := ⟨_, exponent⟩) hleast]
  unfold ofRatio
  rw [if_neg hnum, hexponent]
  dsimp only
  split <;> simp_all

/-- The bound of the finite numbers in steps of the size that the greatest of them have. -/
theorem overflow_eq : (2 : ℚ) ^ 1024 - 2 ^ 970 = (2 ^ 53 - 1 / 2) * 2 ^ (971 : Int) := by
  have hall : (2 : ℚ) ^ 1024 = 2 ^ 53 * (2 * 2 ^ 970) := by
    rw [← pow_succ', ← pow_add]
  have hstep : (2 : ℚ) ^ (971 : Int) = 2 * 2 ^ 970 := by
    rw [← pow_succ']
    exact zpow_natCast 2 971
  rw [hall, hstep]
  generalize (2 : ℚ) ^ 970 = step
  ring

/-- The bound lies between the last two powers of two that matter. -/
theorem overflow_bounds :
    (2 : ℚ) ^ (1023 : Int) ≤ 2 ^ 1024 - 2 ^ 970 ∧ (2 : ℚ) ^ 1024 - 2 ^ 970 ≤ 2 ^ (1024 : Int) := by
  have hstep : (0 : ℚ) < 2 ^ (971 : Int) := by positivity
  rw [overflow_eq, show (1023 : Int) = 52 + 971 from rfl, show (1024 : Int) = 53 + 971 from rfl,
    zpow_add₀ two_ne_zero, zpow_add₀ two_ne_zero]
  constructor <;> gcongr <;> norm_num

section Steps

variable {num den : Nat} (hnum : 0 < num) (hden : 0 < den)
include hnum hden

/-- With steps smaller than the greatest ones nothing overflows. -/
theorem isSome_ofRatio_of_lt (h : floorLog2 num den < 1023) : (ofRatio num den).isSome := by
  obtain ⟨exponent, hexponent, hsteps, hbits⟩ :
      ∃ exponent, max (floorLog2 num den - fractionBits) leastExponent = exponent ∧
        exponent ≤ 970 ∧ floorLog2 num den + 1 ≤ 53 + exponent :=
    ⟨_, rfl, by unfold fractionBits leastExponent; omega, by unfold fractionBits; omega⟩
  have hratio : (num : ℚ) / den < ((3 * fullMantissa : Nat) - 1 / 2) * 2 ^ exponent := by
    calc (num : ℚ) / den < 2 ^ (floorLog2 num den + 1) := (floorLog2_spec hnum hden).2
      _ ≤ 2 ^ (53 + exponent) := zpow_le_zpow_right₀ one_le_two hbits
      _ = 2 ^ (53 : Int) * 2 ^ exponent := zpow_add₀ two_ne_zero _ _
      _ ≤ ((3 * fullMantissa : Nat) - 1 / 2) * 2 ^ exponent := by
        gcongr
        norm_num [fullMantissa]
  have hround := (roundHalfEven_scaledByTwo_lt_iff hden rfl exponent).mpr hratio
  rw [isSome_ofRatio hnum.ne' hexponent]
  unfold fullMantissa at *
  omega

/-- With steps greater than the greatest ones everything does. -/
theorem not_isSome_ofRatio_of_lt (h : 1023 < floorLog2 num den) : ¬ (ofRatio num den).isSome := by
  obtain ⟨exponent, hexponent, hsteps, hbits⟩ :
      ∃ exponent, max (floorLog2 num den - fractionBits) leastExponent = exponent ∧
        972 ≤ exponent ∧ 52 + exponent = floorLog2 num den :=
    ⟨_, rfl, by unfold fractionBits; omega, by unfold fractionBits leastExponent; omega⟩
  have hratio : ((fullMantissa : Nat) - 1 / 2 : ℚ) * 2 ^ exponent ≤ num / den := by
    calc ((fullMantissa : Nat) - 1 / 2 : ℚ) * 2 ^ exponent
        ≤ 2 ^ (52 : Int) * 2 ^ exponent := by
          gcongr
          norm_num [fullMantissa]
      _ = 2 ^ floorLog2 num den := by rw [← hbits, zpow_add₀ two_ne_zero]
      _ ≤ num / den := (floorLog2_spec hnum hden).1
  have hround := mt (roundHalfEven_scaledByTwo_lt_iff hden rfl exponent).mp (not_lt.mpr hratio)
  rw [isSome_ofRatio hnum.ne' hexponent]
  unfold fullMantissa at *
  omega

/-- With the greatest steps the mantissa decides: it may not round up to one of 54 bits. -/
theorem isSome_ofRatio_of_eq (h : floorLog2 num den = 1023) :
    (ofRatio num den).isSome ↔ (num : ℚ) / den < (2 ^ 53 - 1 / 2) * 2 ^ (971 : Int) := by
  have hexponent : max (floorLog2 num den - fractionBits) leastExponent = 971 := by
    rw [h]
    rfl
  have hbound : (2 : ℚ) ^ 53 - 1 / 2 = ((2 * fullMantissa : Nat) : ℚ) - 1 / 2 := by
    norm_num [fullMantissa]
  rw [isSome_ofRatio hnum.ne' hexponent, hbound, ← roundHalfEven_scaledByTwo_lt_iff hden rfl]
  unfold fullMantissa
  omega

end Steps

/-- **A quotient rounds to a finite number exactly if it is less than the bound.** -/
theorem isSome_ofRatio_iff {num den : Nat} (hden : 0 < den) :
    (ofRatio num den).isSome ↔ (num : ℚ) / den < 2 ^ 1024 - 2 ^ 970 := by
  obtain ⟨hbelow, habove⟩ := overflow_bounds
  rcases Nat.eq_zero_or_pos num with rfl | hnum
  · have hpos : (0 : ℚ) < 2 ^ 1024 - 2 ^ 970 := lt_of_lt_of_le (by positivity) hbelow
    rw [Nat.cast_zero, zero_div]
    exact iff_of_true rfl hpos
  obtain ⟨hlower, hupper⟩ := floorLog2_spec hnum hden
  rcases lt_trichotomy (floorLog2 num den) 1023 with hless | heq | hmore
  · refine iff_of_true (isSome_ofRatio_of_lt hnum hden hless) ?_
    calc (num : ℚ) / den < 2 ^ (floorLog2 num den + 1) := hupper
      _ ≤ 2 ^ (1023 : Int) := zpow_le_zpow_right₀ one_le_two (by omega)
      _ ≤ 2 ^ 1024 - 2 ^ 970 := hbelow
  · rw [isSome_ofRatio_of_eq hnum hden heq, overflow_eq]
  · refine iff_of_false (not_isSome_ofRatio_of_lt hnum hden hmore) (not_lt.mpr ?_)
    calc (2 : ℚ) ^ 1024 - 2 ^ 970 ≤ 2 ^ (1024 : Int) := habove
      _ ≤ 2 ^ floorLog2 num den := zpow_le_zpow_right₀ one_le_two (by omega)
      _ ≤ num / den := hlower

end Magnitude

end EventReport.Number
