import EventReport.Number.Literal
import Mathlib.Data.List.TakeWhile

/-! # Decimal digits

The value of a list of digits by its first digit and its parts, and its bound by the number of
digits. Digits at the front of a text are taken up to the first character that is none. -/

set_option autoImplicit false

namespace EventReport.Number

theorem isDigit_bounds {c : Char} (h : c.isDigit) : 48 ≤ c.toNat ∧ c.toNat ≤ 57 := by
  simp only [Char.isDigit, Bool.and_eq_true, decide_eq_true_eq, ge_iff_le,
    UInt32.le_iff_toNat_le] at h
  exact h

theorem digitsValue_cons (c : Char) (cs : List Char) :
    digitsValue (c :: cs) = Nat.pow 10 cs.length * (c.toNat - 48) + digitsValue cs := by
  rw [digitsValue, Nat.ofDigitChars_cons, Nat.ofDigitChars_eq_ofDigitChars_zero, Nat.mul_zero,
    Nat.zero_add]
  rfl

theorem digitsValue_append (as bs : List Char) :
    digitsValue (as ++ bs) = Nat.pow 10 bs.length * digitsValue as + digitsValue bs := by
  rw [digitsValue, Nat.ofDigitChars_append, Nat.ofDigitChars_eq_ofDigitChars_zero]
  rfl

theorem digitsValue_lt {cs : List Char} (h : ∀ c ∈ cs, c.isDigit) :
    digitsValue cs < Nat.pow 10 cs.length := by
  induction cs with
  | nil => exact Nat.one_pos
  | cons c cs ih =>
    obtain ⟨hc, hcs⟩ := List.forall_mem_cons.mp h
    have hrest := ih hcs
    have hdigit : c.toNat - 48 ≤ 9 := by
      have := isDigit_bounds hc
      omega
    have := Nat.mul_le_mul_left (Nat.pow 10 cs.length) hdigit
    rw [digitsValue_cons]
    change _ < Nat.pow 10 cs.length * 10
    omega

theorem spanDigits_spec (cs : List Char) :
    (spanDigits cs).1 ++ (spanDigits cs).2 = cs ∧ ∀ c ∈ (spanDigits cs).1, c.isDigit :=
  ⟨List.takeWhile_append_dropWhile, fun c hc => List.all_eq_true.mp List.all_takeWhile c hc⟩

theorem spanDigits_append {digits rest : List Char} (hdigits : ∀ c ∈ digits, c.isDigit)
    (hrest : ∀ c ∈ rest.head?, c.isDigit = false) :
    spanDigits (digits ++ rest) = (digits, rest) := by
  have htail : rest.takeWhile Char.isDigit = [] ∧ rest.dropWhile Char.isDigit = rest := by
    cases rest with
    | nil => exact ⟨rfl, rfl⟩
    | cons c cs => simp [hrest c rfl]
  rw [spanDigits, List.takeWhile_append_of_pos hdigits, List.dropWhile_append_of_pos hdigits,
    htail.1, htail.2, List.append_nil]

end EventReport.Number
