import EventReport.Text.Blank
import Mathlib.Data.List.TakeWhile

/-! # Texts without blanks at their ends

`Trims` says what is left of a text without the blank characters at its ends, in terms of the text
alone. There is one such text for every text, and `trim` finds it (`trim_eq_iff`). -/

set_option autoImplicit false

namespace EventReport.Text

/-- What is left of the text `cs` without blanks at its ends. -/
structure Trims (cs left : List Char) : Prop where
  within : ∃ before after, cs = before ++ (left ++ after) ∧
    (∀ c ∈ before, isBlank c) ∧ ∀ c ∈ after, isBlank c
  head : ∀ c ∈ left.head?, isBlank c = false
  last : ∀ c ∈ left.getLast?, isBlank c = false

/-- Blanks are taken off up to the first character that is none. -/
theorem trimLeft_append {before rest : List Char} (h : ∀ c ∈ before, isBlank c)
    (hrest : ∀ c ∈ rest.head?, isBlank c = false) : trimLeft (before ++ rest) = rest := by
  rw [trimLeft, List.dropWhile_append_of_pos h]
  cases rest with
  | nil => rfl
  | cons c cs => rw [List.dropWhile_cons_of_neg (by simp [hrest c rfl])]

theorem trimRight_eq (cs : List Char) : trimRight cs = (trimLeft cs.reverse).reverse := rfl

theorem trimRight_append {rest after : List Char} (h : ∀ c ∈ after, isBlank c)
    (hrest : ∀ c ∈ rest.getLast?, isBlank c = false) : trimRight (rest ++ after) = rest := by
  have hreverse : trimLeft (after.reverse ++ rest.reverse) = rest.reverse :=
    trimLeft_append (by simpa using h) (by simpa using hrest)
  rw [trimRight_eq, List.reverse_append, hreverse, List.reverse_reverse]

theorem Trims.trim_eq {cs left : List Char} (h : Trims cs left) : trim cs = left := by
  obtain ⟨⟨before, after, rfl, hbefore, hafter⟩, hhead, hlast⟩ := h
  rw [trim]
  cases left with
  | nil =>
    -- All of the text is blank, so the left end takes everything.
    have hblank : ∀ c ∈ before ++ after, isBlank c :=
      List.forall_mem_append.mpr ⟨hbefore, hafter⟩
    have hnil : trimLeft (before ++ after ++ []) = [] := trimLeft_append hblank (by simp)
    rw [List.append_nil] at hnil
    rw [List.nil_append, hnil]
    rfl
  | cons c left =>
    have hleft : trimLeft (before ++ (c :: left ++ after)) = c :: left ++ after :=
      trimLeft_append hbefore hhead
    rw [hleft, trimRight_append hafter hlast]

/-- The blanks that are taken off, and the first character that is none. -/
theorem trimLeft_spec (cs : List Char) :
    ∃ before, cs = before ++ trimLeft cs ∧ (∀ c ∈ before, isBlank c) ∧
      ∀ c ∈ (trimLeft cs).head?, isBlank c = false := by
  refine ⟨cs.takeWhile isBlank, List.takeWhile_append_dropWhile.symm,
    List.all_eq_true.mp List.all_takeWhile, fun c hc => ?_⟩
  have hfirst := List.head?_dropWhile_not isBlank cs
  rw [← trimLeft, Option.mem_def.mp hc] at hfirst
  exact hfirst

theorem trims_trim (cs : List Char) : Trims cs (trim cs) := by
  obtain ⟨before, hcs, hbefore, hhead⟩ := trimLeft_spec cs
  obtain ⟨after, hreverse, hafter, hlast⟩ := trimLeft_spec (trimLeft cs).reverse
  have htrim : trimLeft (trimLeft cs).reverse = (trim cs).reverse := by
    rw [trim, trimRight_eq, List.reverse_reverse]
  rw [htrim] at hreverse hlast
  have hright : trimLeft cs = trim cs ++ after.reverse := by
    rw [← List.reverse_inj, hreverse, List.reverse_append, List.reverse_reverse]
  refine ⟨⟨before, after.reverse, by rw [← hright, ← hcs], hbefore, by simpa using hafter⟩,
    fun c hc => hhead c ?_, by simpa using hlast⟩
  rw [hright, List.head?_append, Option.mem_def.mp hc]
  rfl

/-- **What trimming leaves is the text without the blanks at its ends, and nothing else is.** -/
theorem trim_eq_iff {cs left : List Char} : trim cs = left ↔ Trims cs left :=
  ⟨fun h => h ▸ trims_trim cs, Trims.trim_eq⟩

end EventReport.Text
