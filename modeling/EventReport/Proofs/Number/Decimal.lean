import EventReport.Proofs.Number.Digits
import Mathlib.Algebra.Order.Field.Power
import Mathlib.Algebra.Order.Field.Rat
import Mathlib.Tactic.FieldSimp
import Mathlib.Tactic.GCongr
import Mathlib.Tactic.Linarith
import Mathlib.Tactic.NormNum
import Mathlib.Tactic.Positivity
import Mathlib.Tactic.Ring

/-! # Decimal numbers

`SpellsNumber` says which texts are decimal numbers, and which rational number each of them is: an
optional sign, digits with a point among them or at an end, and an optional power of ten. The rules
are those of the notation and know nothing of how a text is read.

A text is read as a literal exactly if it spells a number, and the literal has the value of that
number (`Literal.spellsNumber_of_read?`, `Literal.read?_of_spellsNumber`). A literal counts as
finite exactly if its value is within the bound of the finite numbers (`Literal.isFinite_iff`),
however many digits it has. -/

set_option autoImplicit false

namespace EventReport.Number

/-! ## The notation -/

/-- Digits from `0` to `9`, one at least. -/
structure Digits (cs : List Char) : Prop where
  ne_nil : cs ≠ []
  isDigit : ∀ c ∈ cs, c.isDigit

theorem digits_of_all {cs : List Char} (hne : cs ≠ []) (h : cs.all Char.isDigit = true) :
    Digits cs :=
  ⟨hne, List.all_eq_true.mp h⟩

/-- The text is a sign, or the empty text in place of one, and stands for the factor. -/
inductive SpellsSign : List Char → ℤ → Prop
  | absent : SpellsSign [] 1
  | plus : SpellsSign ['+'] 1
  | minus : SpellsSign ['-'] (-1)

/-- The text has the digits `whole` before the point and `fraction` after it. -/
inductive SpellsMantissa : List Char → List Char → List Char → Prop
  | whole {whole : List Char} : Digits whole → SpellsMantissa whole whole []
  | point {whole : List Char} : Digits whole → SpellsMantissa (whole ++ ['.']) whole []
  | both {whole fraction : List Char} : Digits whole → Digits fraction →
      SpellsMantissa (whole ++ '.' :: fraction) whole fraction
  | fraction {fraction : List Char} : Digits fraction →
      SpellsMantissa ('.' :: fraction) [] fraction

/-- The text is a power of ten, or the empty text in place of one, with the exponent. -/
inductive SpellsPower : List Char → ℤ → Prop
  | absent : SpellsPower [] 0
  | power {letter : Char} {sign digits : List Char} {s : ℤ} : letter = 'e' ∨ letter = 'E' →
      SpellsSign sign s → Digits digits →
      SpellsPower (letter :: (sign ++ digits)) (s * digitsValue digits)

/-- The text is a decimal number and has this value. -/
inductive SpellsNumber : List Char → ℚ → Prop
  | number {sign mantissa power whole fraction : List Char} {s k : ℤ} : SpellsSign sign s →
      SpellsMantissa mantissa whole fraction → SpellsPower power k →
      SpellsNumber (sign ++ (mantissa ++ power))
        (s * (digitsValue whole + digitsValue fraction / 10 ^ fraction.length) * 10 ^ k)

/-- The factor of a sign. -/
def signFactor (negative : Bool) : ℤ :=
  if negative then -1 else 1

@[simp] theorem abs_signFactor (negative : Bool) : |(signFactor negative : ℚ)| = 1 := by
  cases negative <;> simp [signFactor]

/-! ## Signs and digits -/

theorem digitsValue_append_mul_zpow (as bs : List Char) (k : ℤ) :
    (digitsValue as + digitsValue bs / 10 ^ bs.length : ℚ) * 10 ^ k =
      digitsValue (as ++ bs) * 10 ^ (k - bs.length) := by
  have hten : (10 : ℚ) ^ bs.length ≠ 0 := by positivity
  rw [digitsValue_append, Nat.pow_eq, zpow_sub₀ (by norm_num), zpow_natCast]
  push_cast
  field_simp

theorem SpellsMantissa.isDigit {mantissa whole fraction : List Char}
    (h : SpellsMantissa mantissa whole fraction) : ∀ c ∈ whole ++ fraction, c.isDigit := by
  cases h with
  | whole hwhole | point hwhole => simpa using hwhole.isDigit
  | both hwhole hfraction =>
    exact List.forall_mem_append.mpr ⟨hwhole.isDigit, hfraction.isDigit⟩
  | fraction hfraction => exact hfraction.isDigit

theorem SpellsMantissa.ne_nil {mantissa whole fraction : List Char}
    (h : SpellsMantissa mantissa whole fraction) : ¬ (whole = [] ∧ fraction = []) := by
  rintro ⟨rfl, rfl⟩
  cases h with
  | whole hwhole | point hwhole | both hwhole => exact hwhole.ne_nil rfl
  | fraction hfraction => exact hfraction.ne_nil rfl

/-- The character is no sign. -/
def IsNoSign (c : Char) : Prop := c ≠ '+' ∧ c ≠ '-'

/-- Digits at the front of a text keep a sign from there. -/
theorem Digits.isNoSign {cs : List Char} (h : Digits cs) (rest : List Char) :
    ∀ c ∈ (cs ++ rest).head?, IsNoSign c := by
  obtain ⟨hne, hdigits⟩ := h
  obtain ⟨c, cs, rfl⟩ := List.exists_cons_of_ne_nil hne
  have hc : c.isDigit := hdigits c List.mem_cons_self
  rintro _ ⟨⟩
  constructor <;> rintro rfl <;> cases hc

theorem SpellsMantissa.isNoSign {mantissa whole fraction : List Char}
    (h : SpellsMantissa mantissa whole fraction) (rest : List Char) :
    ∀ c ∈ (mantissa ++ rest).head?, IsNoSign c := by
  cases h with
  | whole hwhole => exact hwhole.isNoSign rest
  | point hwhole | both hwhole =>
    rw [List.append_assoc]
    exact hwhole.isNoSign _
  | fraction =>
    rintro _ ⟨⟩
    exact ⟨by decide, by decide⟩

/-- The sign at the front of a text is what is taken off. -/
theorem spellsSign_spanSign (cs : List Char) :
    ∃ sign, SpellsSign sign (signFactor (spanSign cs).1) ∧ cs = sign ++ (spanSign cs).2 := by
  unfold spanSign
  split
  · exact ⟨_, .plus, rfl⟩
  · exact ⟨_, .minus, rfl⟩
  · exact ⟨_, .absent, rfl⟩

theorem spanSign_of_spells {sign rest : List Char} {s : ℤ} (h : SpellsSign sign s)
    (hrest : ∀ c ∈ rest.head?, IsNoSign c) :
    ∃ negative, spanSign (sign ++ rest) = (negative, rest) ∧ s = signFactor negative := by
  cases h with
  | plus => exact ⟨false, rfl, rfl⟩
  | minus => exact ⟨true, rfl, rfl⟩
  | absent =>
    refine ⟨false, ?_, rfl⟩
    rw [List.nil_append]
    unfold spanSign
    split
    · exact absurd rfl (hrest '+' rfl).1
    · exact absurd rfl (hrest '-' rfl).2
    · rfl

/-! ## Texts that are read -/

namespace Literal

/-- The rational number that the literal stands for. -/
def value (l : Literal) : ℚ :=
  signFactor l.negative * digitsValue l.digits * 10 ^ l.exponent

theorem spellsPower_of_readExponent? {cs : List Char} {k : ℤ} (h : readExponent? cs = some k) :
    SpellsPower cs k := by
  cases cs with
  | nil =>
    cases h
    exact .absent
  | cons letter cs =>
    rw [readExponent?] at h
    split_ifs at h with hletter
    dsimp only at h
    split at h
    · rename_i hdigits
      obtain ⟨sign, hsign, hcs⟩ := spellsSign_spanSign cs
      have hpower := SpellsPower.power hletter hsign ⟨hdigits.1, List.all_eq_true.mp hdigits.2⟩
      rw [← hcs] at hpower
      cases h
      convert hpower using 1
      cases (spanSign cs).1 <;> simp [signFactor]
    · cases h

/-- The digits on both sides of a point, or without one, that are not all missing. -/
theorem spellsMantissa_of_spanFraction {whole rest : List Char}
    (hwhole : ∀ c ∈ whole, c.isDigit) (h : ¬ (whole = [] ∧ (spanFraction rest).1 = [])) :
    ∃ mantissa, SpellsMantissa mantissa whole (spanFraction rest).1 ∧
      whole ++ rest = mantissa ++ (spanFraction rest).2 := by
  unfold spanFraction at *
  split at h
  · rename_i rest
    obtain ⟨hrest, hfraction⟩ := spanDigits_spec rest
    generalize (spanDigits rest).1 = fraction at *
    generalize (spanDigits rest).2 = after at *
    subst hrest
    by_cases hw : whole = []
    · subst hw
      have hf : fraction ≠ [] := fun hf => h ⟨rfl, hf⟩
      exact ⟨_, .fraction ⟨hf, hfraction⟩, rfl⟩
    by_cases hf : fraction = []
    · subst hf
      exact ⟨_, .point ⟨hw, hwhole⟩, by simp⟩
    · exact ⟨_, .both ⟨hw, hwhole⟩ ⟨hf, hfraction⟩, by simp⟩
  · have hw : whole ≠ [] := fun hw => h ⟨hw, rfl⟩
    exact ⟨_, .whole ⟨hw, hwhole⟩, rfl⟩

/-- A text that is read spells the number that the literal stands for. -/
theorem spellsNumber_of_read? {cs : List Char} {l : Literal} (h : read? cs = some l) :
    SpellsNumber cs l.value ∧ ∀ c ∈ l.digits, c.isDigit := by
  unfold read? at h
  obtain ⟨sign, hsign, hcs⟩ := spellsSign_spanSign cs
  obtain ⟨hunsigned, hwhole⟩ := spanDigits_spec (spanSign cs).2
  dsimp only at h
  split at h
  · cases h
  rename_i hdigits
  obtain ⟨exponent, hexponent, rfl⟩ := Option.map_eq_some_iff.mp h
  obtain ⟨mantissa, hmantissa, hrest⟩ := spellsMantissa_of_spanFraction hwhole hdigits
  have hpower := spellsPower_of_readExponent? hexponent
  have hnumber := SpellsNumber.number hsign hmantissa hpower
  rw [← hrest, hunsigned, ← hcs, mul_assoc, digitsValue_append_mul_zpow, ← mul_assoc] at hnumber
  exact ⟨hnumber, hmantissa.isDigit⟩

/-! ## Numbers are read -/

theorem readExponent?_of_spells {cs : List Char} {k : ℤ} (h : SpellsPower cs k) :
    readExponent? cs = some k := by
  cases h with
  | absent => rfl
  | @power letter sign digits s hletter hsign hdigits =>
    have hdigit : ∀ c ∈ digits.head?, IsNoSign c := by simpa using hdigits.isNoSign []
    obtain ⟨negative, hspan, rfl⟩ := spanSign_of_spells hsign hdigit
    rw [readExponent?, if_pos hletter, hspan]
    dsimp only
    rw [if_pos ⟨hdigits.ne_nil, List.all_eq_true.mpr hdigits.isDigit⟩]
    cases negative <;> simp [signFactor]

/-- A power of ten does not go on with the digits before it. -/
theorem notDigit_of_spellsPower {cs : List Char} {k : ℤ} (h : SpellsPower cs k) :
    ∀ c ∈ cs.head?, c.isDigit = false ∧ c ≠ '.' := by
  cases h with
  | absent => exact nofun
  | power hletter =>
    rintro _ ⟨⟩
    rcases hletter with rfl | rfl <;> decide

theorem spanFraction_of_ne_point {rest : List Char} (h : ∀ c ∈ rest.head?, c ≠ '.') :
    spanFraction rest = ([], rest) := by
  unfold spanFraction
  split
  · exact absurd rfl (h '.' rfl)
  · rfl

theorem spanDigits_of_spellsMantissa {mantissa whole fraction rest : List Char}
    (h : SpellsMantissa mantissa whole fraction)
    (hrest : ∀ c ∈ rest.head?, c.isDigit = false ∧ c ≠ '.') :
    ∃ after, spanDigits (mantissa ++ rest) = (whole, after) ∧
      spanFraction after = (fraction, rest) := by
  have hnone : ∀ c ∈ rest.head?, c.isDigit = false := fun c hc => (hrest c hc).1
  have hpoint : ∀ cs : List Char, ∀ c ∈ ('.' :: cs).head?, c.isDigit = false := by
    rintro cs _ ⟨⟩
    rfl
  cases h with
  | whole hwhole =>
    exact ⟨rest, spanDigits_append hwhole.isDigit hnone,
      spanFraction_of_ne_point fun c hc => (hrest c hc).2⟩
  | point hwhole =>
    rw [List.append_assoc]
    exact ⟨_, spanDigits_append hwhole.isDigit (hpoint rest), spanDigits_append nofun hnone⟩
  | both hwhole hfraction =>
    rw [List.append_assoc]
    exact ⟨_, spanDigits_append hwhole.isDigit (hpoint _),
      spanDigits_append hfraction.isDigit hnone⟩
  | fraction hfraction =>
    exact ⟨_, rfl, spanDigits_append hfraction.isDigit hnone⟩

/-- A text that spells a number is read as a literal of that value. -/
theorem read?_of_spellsNumber {cs : List Char} {x : ℚ} (h : SpellsNumber cs x) :
    ∃ l, read? cs = some l ∧ l.value = x := by
  obtain ⟨hsign, hmantissa, hpower⟩ := h
  rename_i sign mantissa power whole fraction s k
  obtain ⟨negative, hspanSign, rfl⟩ := spanSign_of_spells hsign (hmantissa.isNoSign power)
  obtain ⟨after, hspan, hfraction⟩ :=
    spanDigits_of_spellsMantissa hmantissa (notDigit_of_spellsPower hpower)
  refine ⟨⟨negative, whole ++ fraction, k - fraction.length⟩, ?_, ?_⟩
  · unfold read?
    rw [hspanSign]
    dsimp only
    rw [hspan]
    dsimp only
    rw [hfraction]
    dsimp only
    rw [if_neg hmantissa.ne_nil, readExponent?_of_spells hpower]
    rfl
  · rw [mul_assoc, digitsValue_append_mul_zpow, ← mul_assoc]
    rfl

/-- A text spells one number at most, which is then its value. -/
theorem spellsNumber_unique {cs : List Char} {x y : ℚ} (hx : SpellsNumber cs x)
    (hy : SpellsNumber cs y) : x = y := by
  obtain ⟨l, hl, rfl⟩ := read?_of_spellsNumber hx
  obtain ⟨m, hm, rfl⟩ := read?_of_spellsNumber hy
  obtain rfl := Option.some.inj (hl.symm.trans hm)
  rfl

/-! ## Finite numbers -/

theorem abs_value (l : Literal) : |l.value| = digitsValue l.digits * 10 ^ l.exponent := by
  rw [value, abs_mul, abs_mul, abs_signFactor, one_mul, Nat.abs_cast, abs_of_pos (by positivity)]

theorem cast_eq_two_pow_sub {n a b : Nat} (h : n + 2 ^ b = 2 ^ a) :
    (n : ℚ) = 2 ^ a - 2 ^ b := by
  rw [eq_sub_iff_add_eq]
  exact_mod_cast h

theorem overflowBound_add : overflowBound + 2 ^ 970 = 2 ^ 1024 := by
  decide +kernel

theorem overflowBound_eq : (overflowBound : ℚ) = 2 ^ 1024 - 2 ^ 970 :=
  cast_eq_two_pow_sub overflowBound_add

theorem overflowBound_pos : 0 < overflowBound := by
  decide +kernel

theorem overflowBound_le : overflowBound ≤ 10 ^ 310 := by
  decide +kernel

/-- A power of ten that is past the bound by itself settles it. -/
theorem mul_ten_pow_lt_iff {n : Nat} (hn : n ≠ 0) (k : Nat) :
    k < 310 ∧ n * 10 ^ k < overflowBound ↔ n * 10 ^ k < overflowBound := by
  refine and_iff_right_of_imp fun hless => ?_
  by_contra hmore
  have hpow : ∀ m ≤ k, 10 ^ m ≤ 10 ^ k := fun m => Nat.pow_le_pow_right (by decide)
  have hmul : 10 ^ k ≤ n * 10 ^ k := Nat.le_mul_of_pos_left _ (Nat.pos_of_ne_zero hn)
  have hover := overflowBound_le.trans ((hpow 310 (not_lt.mp hmore)).trans hmul)
  exact absurd hless (not_lt.mpr hover)

/-- Fewer digits than the power of ten takes off do not reach one. -/
theorem lt_mul_ten_pow_iff {digits : List Char} (h : ∀ c ∈ digits, c.isDigit) (k : Nat) :
    digits.length ≤ k ∨ digitsValue digits < overflowBound * 10 ^ k ↔
      digitsValue digits < overflowBound * 10 ^ k := by
  refine or_iff_right_of_imp fun hle => ?_
  calc digitsValue digits < 10 ^ digits.length := digitsValue_lt h
    _ ≤ 10 ^ k := Nat.pow_le_pow_right (by decide) hle
    _ ≤ overflowBound * 10 ^ k := Nat.le_mul_of_pos_left _ overflowBound_pos

/-- **A literal counts as finite exactly if its value is within the bound.** -/
theorem isFinite_iff {l : Literal} (h : ∀ c ∈ l.digits, c.isDigit) :
    l.isFinite ↔ |l.value| < 2 ^ 1024 - 2 ^ 970 := by
  rw [abs_value, ← overflowBound_eq]
  unfold isFinite
  dsimp only
  split_ifs with hzero hexponent
  · rw [hzero, Nat.cast_zero, zero_mul]
    exact iff_of_true rfl (Nat.cast_pos.mpr overflowBound_pos)
  · obtain ⟨k, hk⟩ := Int.eq_ofNat_of_zero_le hexponent
    rw [hk, Int.toNat_natCast, Bool.and_eq_true, decide_eq_true_eq, decide_eq_true_eq, Nat.pow_eq,
      zpow_natCast, ← Nat.cast_ofNat (R := ℚ), ← Nat.cast_pow, ← Nat.cast_mul, Nat.cast_lt,
      ← mul_ten_pow_lt_iff hzero]
    omega
  · obtain ⟨k, hk⟩ : ∃ k : Nat, l.exponent = -k := ⟨(-l.exponent).toNat, by omega⟩
    have hpow : (0 : ℚ) < 10 ^ k := by positivity
    rw [hk, neg_neg, Int.toNat_natCast, Bool.or_eq_true, decide_eq_true_eq, decide_eq_true_eq,
      Nat.pow_eq, zpow_neg, zpow_natCast, ← div_eq_mul_inv, div_lt_iff₀ hpow,
      Nat.cast_le, lt_mul_ten_pow_iff h]
    exact_mod_cast Iff.rfl

end Literal

end EventReport.Number
