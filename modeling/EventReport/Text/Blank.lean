/-! # Blank characters

`isBlank` holds of the characters that Unicode counts as white space, and `trim` takes the blank
characters off both ends of a text.
-/

namespace EventReport.Text

/-- The characters with the Unicode property White_Space. -/
def isBlank (c : Char) : Bool :=
  let n := c.toNat
  (9 ≤ n && n ≤ 13) || n == 0x20 || n == 0x85 || n == 0xa0 || n == 0x1680 ||
    (0x2000 ≤ n && n ≤ 0x200a) || n == 0x2028 || n == 0x2029 || n == 0x202f || n == 0x205f ||
    n == 0x3000

/-- The text from its first character that is not blank. -/
def trimLeft (cs : List Char) : List Char :=
  cs.dropWhile isBlank

/-- The text up to its last character that is not blank. -/
def trimRight (cs : List Char) : List Char :=
  (cs.reverse.dropWhile isBlank).reverse

/-- The text without the blank characters at its ends. -/
def trim (cs : List Char) : List Char :=
  trimRight (trimLeft cs)

/-- `trim` on a string. -/
def trimmed (s : String) : String :=
  String.ofList (trim s.toList)

@[simp] theorem trim_nil : trim [] = [] := rfl

theorem trimLeft_eq_self {cs : List Char} (h : ∀ c ∈ cs, isBlank c = false) : trimLeft cs = cs := by
  cases cs with
  | nil => rfl
  | cons c cs => rw [trimLeft, List.dropWhile_cons_of_neg (by simp [h c List.mem_cons_self])]

/-- A text without blank characters is left as it is. -/
theorem trim_eq_self {cs : List Char} (h : ∀ c ∈ cs, isBlank c = false) : trim cs = cs := by
  have hreverse : trimLeft cs.reverse = cs.reverse :=
    trimLeft_eq_self fun c hc => h c (List.mem_reverse.mp hc)
  rw [trim, trimLeft_eq_self h, trimRight]
  rw [trimLeft] at hreverse
  rw [hreverse, List.reverse_reverse]

theorem mem_trimLeft {cs : List Char} {c : Char} (hc : c ∈ cs) (h : isBlank c = false) :
    c ∈ trimLeft cs := by
  rw [← List.takeWhile_append_dropWhile (p := isBlank) (l := cs)] at hc
  rcases List.mem_append.mp hc with hc | hc
  · have := List.all_eq_true.mp (List.all_takeWhile (p := isBlank) (l := cs)) c hc
    rw [h] at this
    cases this
  · exact hc

/-- Only blank characters are taken off. -/
theorem mem_trim {cs : List Char} {c : Char} (hc : c ∈ cs) (h : isBlank c = false) :
    c ∈ trim cs := by
  have : c ∈ trimLeft (trimLeft cs).reverse :=
    mem_trimLeft (List.mem_reverse.mpr (mem_trimLeft hc h)) h
  exact List.mem_reverse.mpr this

/-- Not all of the text is blank. -/
def IsVisible (s : String) : Prop := ∃ c ∈ s.toList, isBlank c = false

instance (s : String) : Decidable (IsVisible s) :=
  decidable_of_iff (s.toList.any (!isBlank ·) = true) (by simp [IsVisible])

theorem IsVisible.append_left {t : String} (s : String) (h : IsVisible t) :
    IsVisible (s ++ t) := by
  obtain ⟨c, hc, hblank⟩ := h
  exact ⟨c, by simp [hc], hblank⟩

theorem IsVisible.append_right {s : String} (t : String) (h : IsVisible s) :
    IsVisible (s ++ t) := by
  obtain ⟨c, hc, hblank⟩ := h
  exact ⟨c, by simp [hc], hblank⟩

theorem IsVisible.trimmed_ne_empty {s : String} (h : IsVisible s) : trimmed s ≠ "" := by
  obtain ⟨c, hc, hblank⟩ := h
  intro hs
  have hnil : trim s.toList = [] := by simpa [trimmed] using hs
  exact List.ne_nil_of_mem (mem_trim hc hblank) hnil

end EventReport.Text
