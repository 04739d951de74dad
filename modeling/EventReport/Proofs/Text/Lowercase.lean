import EventReport.Text.Blank
import EventReport.Text.Lowercase

/-! # Texts in small letters

A text of characters that have no small form of their own (`IsSmall`) is left as it is
(`lowercase_eq_self`). Blank characters are such, and so are all of ASCII but the capitals. -/

set_option autoImplicit false

namespace EventReport.Text

/-- The character stays as it is in small letters, whatever stands around it. -/
def IsSmall (c : Char) : Prop :=
  c ≠ 'Σ' ∧ lowerChar c = [c]

instance (c : Char) : Decidable (IsSmall c) := by
  unfold IsSmall; infer_instance

theorem lowerAfter_eq_self {cs : List Char} (h : ∀ c ∈ cs, IsSmall c) (before : List Char) :
    lowerAfter before cs = cs := by
  induction cs generalizing before with
  | nil => rfl
  | cons c cs ih =>
    obtain ⟨⟨hsigma, hchar⟩, hcs⟩ := List.forall_mem_cons.mp h
    rw [lowerAfter, if_neg hsigma, hchar, ih hcs, List.singleton_append]

theorem lowercase_eq_self {cs : List Char} (h : ∀ c ∈ cs, IsSmall c) : lowercase cs = cs :=
  lowerAfter_eq_self h []

/-- A character of ASCII that is no capital. -/
theorem isSmall_of_ascii {c : Char} (hascii : c.toNat < 0x80)
    (h : ¬ ('A'.toNat ≤ c.toNat ∧ c.toNat ≤ 'Z'.toNat)) : IsSmall c := by
  have hpoints : ∀ n < 0x80, ¬ ('A'.toNat ≤ n ∧ n ≤ 'Z'.toNat) → IsSmall (Char.ofNat n) := by
    decide +kernel
  rw [← c.ofNat_toNat]
  exact hpoints _ hascii h

/-- The code points of the blank characters. -/
def blankPoints : List Nat :=
  [9, 10, 11, 12, 13, 0x20, 0x85, 0xa0, 0x1680, 0x2000, 0x2001, 0x2002, 0x2003, 0x2004, 0x2005,
    0x2006, 0x2007, 0x2008, 0x2009, 0x200a, 0x2028, 0x2029, 0x202f, 0x205f, 0x3000]

theorem toNat_mem_blankPoints {c : Char} (h : isBlank c) : c.toNat ∈ blankPoints := by
  simp only [isBlank, Bool.or_eq_true, Bool.and_eq_true, decide_eq_true_eq, beq_iff_eq] at h
  simp only [blankPoints, List.mem_cons, List.not_mem_nil, or_false]
  omega

/-- Blanks have no small form. -/
theorem isSmall_of_isBlank {c : Char} (h : isBlank c) : IsSmall c := by
  have hpoints : ∀ n ∈ blankPoints, IsSmall (Char.ofNat n) := by decide +kernel
  rw [← c.ofNat_toNat]
  exact hpoints _ (toNat_mem_blankPoints h)

end EventReport.Text
