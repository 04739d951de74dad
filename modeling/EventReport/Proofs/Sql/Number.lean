import EventReport.Proofs.Number.Decimal
import EventReport.Proofs.Number.Rounding
import EventReport.Proofs.Text.Trim
import EventReport.Sql.Quoting

/-! # Numbers in a statement

A checked number is the text without blanks at its ends, if that spells a decimal number that
rounds to a finite binary floating point number of 64 bits (`number_escaped`). The exact value
decides, so neither the number of digits nor the size of the exponent matters. -/

set_option autoImplicit false

namespace EventReport.Sql

open Number Text

/-- The number rounds to a finite binary floating point number of 64 bits. -/
def RoundsFinite (x : ℚ) : Prop :=
  (Magnitude.ofRatio x.num.natAbs x.den).isSome

theorem roundsFinite_iff {x : ℚ} : RoundsFinite x ↔ |x| < 2 ^ 1024 - 2 ^ 970 := by
  have habs : |x| = x.num.natAbs / x.den := by
    conv_lhs => rw [← Rat.num_div_den x]
    rw [abs_div, Nat.abs_cast, Nat.cast_natAbs, Int.cast_abs]
  rw [RoundsFinite, Magnitude.isSome_ofRatio_iff x.den_pos, habs]

/-- A text is accepted exactly if it spells a number within the bound. -/
theorem isFiniteNumber_iff {cs : List Char} :
    isFiniteNumber cs ↔ ∃ x, SpellsNumber cs x ∧ |x| < 2 ^ 1024 - 2 ^ 970 := by
  rw [isFiniteNumber_eq_true]
  constructor
  · rintro ⟨l, hl, hfinite⟩
    obtain ⟨hspells, hdigits⟩ := Literal.spellsNumber_of_read? hl
    exact ⟨l.value, hspells, (Literal.isFinite_iff hdigits).mp hfinite⟩
  · rintro ⟨x, hspells, hx⟩
    obtain ⟨l, hl, rfl⟩ := Literal.read?_of_spellsNumber hspells
    obtain ⟨-, hdigits⟩ := Literal.spellsNumber_of_read? hl
    exact ⟨l, hl, (Literal.isFinite_iff hdigits).mpr hx⟩

/-- **Which texts are numbers, and what is left of them.** Without the blanks at its ends, the text
spells a number that is within the bound, and this is so exactly if the number rounds to a finite
one. Any other text is refused as it was given. -/
theorem number_escaped (text : String) :
    (∀ t, Quoting.escaped.number text = .ok t ↔
      Trims text.toList t.toList ∧ ∃ x, SpellsNumber t.toList x ∧ |x| < 2 ^ 1024 - 2 ^ 970) ∧
    (∀ e, Quoting.escaped.number text = .error e ↔ e = .invalidNumber text ∧
      ¬ ∃ t x, Trims text.toList t ∧ SpellsNumber t x ∧ |x| < 2 ^ 1024 - 2 ^ 970) ∧
    ∀ x, RoundsFinite x ↔ |x| < 2 ^ 1024 - 2 ^ 970 := by
  have hnumber : Quoting.escaped.number text =
      if isFiniteNumber (trim text.toList) then .ok (String.ofList (trim text.toList))
      else .error (.invalidNumber text) := rfl
  rw [hnumber]
  refine ⟨fun t => ⟨fun h => ?_, ?_⟩, fun e => ⟨fun h => ?_, ?_⟩, fun _ => roundsFinite_iff⟩
  · split_ifs at h with hfinite
    cases h
    rw [String.toList_ofList]
    exact ⟨trims_trim _, isFiniteNumber_iff.mp hfinite⟩
  · rintro ⟨htrims, hspells⟩
    rw [htrims.trim_eq, if_pos (isFiniteNumber_iff.mpr hspells), String.ofList_toList]
  · split_ifs at h with hfinite
    cases h
    refine ⟨rfl, ?_⟩
    rintro ⟨t, x, htrims, hspells⟩
    exact hfinite (htrims.trim_eq ▸ isFiniteNumber_iff.mpr ⟨x, hspells⟩)
  · rintro ⟨rfl, hnone⟩
    rw [if_neg]
    intro hfinite
    obtain ⟨x, hspells⟩ := isFiniteNumber_iff.mp hfinite
    exact hnone ⟨_, x, trims_trim _, hspells⟩

/-- A number that rounds to the greatest finite one and a number that rounds past it. -/
example : Quoting.escaped.number " +17976931348623158e292" = .ok "+17976931348623158e292" ∧
    Quoting.escaped.number " 17976931348623159e292" =
      .error (.invalidNumber " 17976931348623159e292") := by
  decide +kernel

end EventReport.Sql
