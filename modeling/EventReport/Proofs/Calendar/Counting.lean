import EventReport.Proofs.Calendar.Days
import EventReport.Proofs.Calendar.Parsing
import EventReport.Proofs.Number.Decimal

/-! # Ranges that count back from today

A text such as `7d` or `2w` counts days or weeks up to today. `SpellsCount` says which texts do, and
what they count. The count has to fit a word, and so has the number of days; there has to be a span
of time of so many days, and its first day has to lie in the calendar. The last of these limits is
the narrowest by far (`DayRange.exists_endingOn?_iff`). So whatever is counted, the range has
exactly that many days, or it would begin before the calendar does and is refused
(`DayRange.parse_counts`). -/

set_option autoImplicit false

namespace EventReport.Calendar

open Number Text

/-! ## Texts that count -/

/-- The text is a whole number: a sign or none, and digits. -/
inductive SpellsWhole : List Char → ℤ → Prop
  | whole {sign digits : List Char} {s : ℤ} : SpellsSign sign s → Digits digits →
      SpellsWhole (sign ++ digits) (s * digitsValue digits)

/-- The letter is a unit of so many days. -/
inductive SpellsUnit : Char → ℕ → Prop
  | day : SpellsUnit 'd' 1
  | week : SpellsUnit 'w' 7

/-- The text counts units of so many days each. -/
inductive SpellsCount : List Char → ℤ → ℕ → Prop
  | count {cs : List Char} {c : Char} {n : ℤ} {unit : ℕ} : SpellsWhole cs n →
      SpellsUnit c unit → SpellsCount (cs ++ [c]) n unit

theorem SpellsCount.one_le_unit {cs : List Char} {n : ℤ} {unit : ℕ} (h : SpellsCount cs n unit) :
    1 ≤ unit := by
  cases h with
  | count _ hc => cases hc <;> decide

/-- A text that counts has no comma. -/
theorem SpellsCount.comma_notMem {cs : List Char} {n : ℤ} {unit : ℕ} (h : SpellsCount cs n unit) :
    ',' ∉ cs := by
  cases h with
  | count hcs hc =>
    cases hcs with
    | whole hsign hdigits =>
      simp only [List.mem_append, List.mem_singleton, not_or]
      refine ⟨⟨?_, fun hcomma => absurd (hdigits.isDigit _ hcomma) (by decide)⟩, ?_⟩
      · cases hsign <;> simp
      · cases hc <;> simp

theorem SpellsCount.getLast?_ne {cs : List Char} {n : ℤ} {unit : ℕ} (h : SpellsCount cs n unit) :
    cs.getLast? ≠ some 'y' := by
  cases h with
  | count _ hc =>
    rw [List.getLast?_concat]
    cases hc <;> simp

namespace DayRange

/-- A whole number is read if it fits a word with a sign. -/
theorem readWord?_of_spells {cs : List Char} {n : ℤ} (h : SpellsWhole cs n) :
    readWord? cs = if fitsSignedWord n then some n else none := by
  cases h with
  | @whole sign digits s hsign hdigits =>
    have hnoSign : ∀ c ∈ digits.head?, IsNoSign c := by
      simpa using hdigits.isNoSign []
    obtain ⟨negative, hspan, rfl⟩ := spanSign_of_spells hsign hnoSign
    have hall : digits.all Char.isDigit = true := List.all_eq_true.mpr hdigits.isDigit
    have hvalue : (if negative then -(digitsValue digits : ℤ) else digitsValue digits) =
        signFactor negative * digitsValue digits := by
      cases negative <;> simp [signFactor]
    simp only [readWord?, hspan, hdigits.ne_nil, hall, hvalue, not_true_eq_false, or_self, if_false]

theorem unitDays?_of_spells {c : Char} {unit : ℕ} (h : SpellsUnit c unit) :
    unitDays? c = some unit := by
  cases h <;> rfl

/-- A count is read if it is positive and fits a word with a sign. -/
theorem readCount?_of_spells {cs : List Char} {n : ℤ} {unit : ℕ} (h : SpellsCount cs n unit) :
    readCount? cs = if 1 ≤ n ∧ n < halfWordCount then some (n.toNat, unit) else none := by
  cases h with
  | @count cs c _ _ hcs hc =>
    have hword := readWord?_of_spells hcs
    have hunit := unitDays?_of_spells hc
    simp only [readCount?, List.getLast?_concat, List.dropLast_concat, hword]
    by_cases hn : 1 ≤ n ∧ n < halfWordCount
    · have hfits : fitsSignedWord n = true := by
        simp only [fitsSignedWord, Bool.and_eq_true, decide_eq_true_eq]
        omega
      have hpos : 0 < n := by omega
      simp [hfits, hpos, hn, hunit]
    · by_cases hfits : fitsSignedWord n = true
      · have hpos : ¬ 0 < n := by
          simp only [fitsSignedWord, Bool.and_eq_true, decide_eq_true_eq] at hfits
          omega
        simp [hfits, hpos, hn]
      · simp [hfits, hn]

/-! ## Ranges of so many days -/

/-- The calendar is shorter than the longest span of time. -/
theorem days_le_longestSpan (r : DayRange) : r.days ≤ longestSpan := by
  obtain ⟨hfirst, -⟩ := r.first.dayNumber_bounds
  obtain ⟨-, hlast⟩ := r.last.dayNumber_bounds
  have hlow := r.first.isDate.1
  have hhigh := r.last.isDate.2.1
  have hspan : longestSpan = 106751991167 := by decide
  simp only [days, hspan, minYear, maxYear, Date.daysBeforeYear] at *
  omega

/-- A word has room for more days than the calendar has. -/
theorem days_lt_halfWordCount (r : DayRange) : r.days < halfWordCount := by
  have hspan := r.days_le_longestSpan
  have hword : longestSpan < halfWordCount := by decide
  omega

/-- **The range that ends on a day and begins so many days before it** is the one that has them all
and its last day. -/
theorem endingOn?_eq_some_iff {today : Date} {days : ℕ} {r : DayRange} :
    endingOn? today days = some r ↔ r.last = today ∧ r.days = days + 1 := by
  constructor
  · intro h
    unfold endingOn? at h
    split at h
    · split at h
      · cases h
      · rename_i first hfirst
        cases h
        have := Date.dayNumber_of_ofDayNumber? hfirst
        simp only [DayRange.days, true_and]
        omega
    · cases h
  · rintro ⟨rfl, hdays⟩
    have hspan := r.days_le_longestSpan
    have hnumber : r.last.dayNumber - days = r.first.dayNumber := by
      simp only [DayRange.days] at hdays
      omega
    have hfirst := r.first.ofDayNumber?_dayNumber
    rw [← hnumber] at hfirst
    rw [endingOn?, if_pos (by omega)]
    split
    · rename_i hnone
      rw [hfirst] at hnone
      cases hnone
    · rename_i first hsome
      rw [hfirst] at hsome
      cases hsome
      rfl

/-- There is such a range unless it would begin before the calendar does. -/
theorem exists_endingOn?_iff {today : Date} {days : ℕ} :
    (∃ r, endingOn? today days = some r) ↔ Date.start.dayNumber ≤ today.dayNumber - days := by
  have hstart : Date.start.dayNumber = Date.daysBeforeYear minYear := by decide
  constructor
  · rintro ⟨r, hr⟩
    obtain ⟨rfl, hdays⟩ := endingOn?_eq_some_iff.mp hr
    obtain ⟨hfirst, -⟩ := r.first.dayNumber_bounds
    have hlow := r.first.isDate.1
    simp only [DayRange.days, hstart, Date.daysBeforeYear] at *
    omega
  · intro h
    obtain ⟨-, hlast⟩ := today.dayNumber_bounds
    have hhigh := today.isDate.2.1
    have hfound : (Date.ofDayNumber? (today.dayNumber - days)).isSome := by
      rw [Date.isSome_ofDayNumber?_iff]
      simp only [hstart, Date.daysBeforeYear] at *
      omega
    obtain ⟨first, hfirst⟩ := Option.isSome_iff_exists.mp hfound
    have hnumber := Date.dayNumber_of_ofDayNumber? hfirst
    have hle : first ≤ today := Date.le_iff_dayNumber_le.mpr (by omega)
    refine ⟨⟨first, today, hle⟩, endingOn?_eq_some_iff.mpr ⟨rfl, ?_⟩⟩
    simp only [DayRange.days]
    omega

/-- A range of so many days can end on a day unless it would begin before the calendar does. -/
theorem exists_days_iff {today : Date} {days : ℤ} (hpos : 1 ≤ days) :
    (∃ r : DayRange, r.last = today ∧ r.days = days) ↔
      Date.start.dayNumber ≤ today.dayNumber - (days - 1) := by
  have hcast : ((days - 1).toNat : ℤ) = days - 1 := Int.toNat_of_nonneg (by omega)
  rw [← hcast, ← exists_endingOn?_iff]
  apply exists_congr
  intro r
  rw [endingOn?_eq_some_iff, hcast, Int.sub_add_cancel]

theorem orOutOfBounds_eq_ok {text : String} {x : Option DayRange} {r : DayRange} :
    orOutOfBounds text x = .ok r ↔ x = some r := by
  cases x with
  | none => exact ⟨nofun, nofun⟩
  | some range => simp [orOutOfBounds]

theorem orOutOfBounds_eq_error {text : String} {x : Option DayRange}
    (h : ∀ r, orOutOfBounds text x ≠ .ok r) :
    orOutOfBounds text x = .error (.invalidRange (.outOfBounds text)) := by
  cases x with
  | none => rfl
  | some r => exact absurd rfl (h r)

/-- A positive count of units gives the range of so many days. -/
theorem lastDays_eq_ok_iff {today : Date} {count unit : ℕ} {text : String} {r : DayRange}
    (hpos : 1 ≤ count * unit) :
    lastDays today count unit text = .ok r ↔ r.last = today ∧ r.days = (count * unit : ℕ) := by
  rw [lastDays, orOutOfBounds_eq_ok, ← Nat.cast_mul]
  generalize count * unit = days at *
  split
  · have hcast : ((days - 1 : ℕ) : ℤ) + 1 = days := by omega
    rw [endingOn?_eq_some_iff, hcast]
  · rename_i hfits
    constructor
    · nofun
    · rintro ⟨-, hdays⟩
      have hword := r.days_lt_halfWordCount
      simp only [fitsSignedWord, Bool.and_eq_true, decide_eq_true_eq] at hfits
      omega

/-! ## Counts that are read -/

/-- What is the matter with a count that gives no range: it is not positive or fits no word, or it
goes back too far. -/
def countFault (n : ℤ) (text : String) : RangeError :=
  if 1 ≤ n ∧ n < halfWordCount then .outOfBounds text else .unknownFormat text

section Counts

variable {today : Date} {text : String} {n : ℤ} {unit : ℕ}
  (h : SpellsCount (lowercase (trim text.toList)) n unit)
include h

theorem parse_of_spells :
    parse today text =
      if 1 ≤ n ∧ n < halfWordCount then
        lastDays today n.toNat unit (String.ofList (lowercase (trim text.toList)))
      else
        .error (.invalidRange (.unknownFormat (String.ofList (lowercase (trim text.toList))))) := by
  have hread := readCount?_of_spells h
  split
  · rw [if_pos ‹_›] at hread
    exact parse_of_count rfl h.getLast?_ne hread
  · rw [if_neg ‹_›] at hread
    exact parse_of_unknown rfl h.getLast?_ne hread
      (splitAtComma?_eq_none h.comma_notMem)

/-- A text that counts is read as the range with so many days, the last of them today. -/
theorem parse_eq_ok_iff {r : DayRange} :
    parse today text = .ok r ↔ 1 ≤ n ∧ r.last = today ∧ r.days = n * unit := by
  have hunit := h.one_le_unit
  rw [parse_of_spells h]
  split
  · rename_i hn
    have hcast : ((n.toNat * unit : ℕ) : ℤ) = n * unit := by
      rw [Nat.cast_mul, Int.toNat_of_nonneg (by omega)]
    have hpos : 1 ≤ n.toNat * unit := Nat.mul_pos (by omega) hunit
    rw [lastDays_eq_ok_iff hpos, hcast, and_iff_right hn.1]
  · rename_i hn
    constructor
    · nofun
    · rintro ⟨hone, -, hdays⟩
      -- Such a count of days, let alone of weeks, is more than the calendar has.
      have hword := r.days_lt_halfWordCount
      have hmore : n * 1 ≤ n * unit := Int.mul_le_mul_of_nonneg_left (by omega) (by omega)
      omega

/-- A text that counts and is not read is refused for its count. -/
theorem parse_eq_error (hnone : ∀ r, parse today text ≠ .ok r) :
    parse today text = .error
      (.invalidRange (countFault n (String.ofList (lowercase (trim text.toList))))) := by
  rw [parse_of_spells h] at hnone ⊢
  unfold countFault
  split
  · rename_i hn
    rw [if_pos hn] at hnone
    exact orOutOfBounds_eq_error hnone
  · rfl

end Counts

/-- The text of a positive number of days. -/
theorem spellsCount_days (days : ℕ) :
    SpellsCount (lowercase (trim (toString days ++ "d").toList)) days 1 := by
  have hdigits : ∀ c ∈ Nat.toDigits 10 days, c.isDigit := fun c hc =>
    Nat.isDigit_of_mem_toDigits (by decide) (by decide) hc
  have hne : Nat.toDigits 10 days ≠ [] := List.ne_nil_of_length_pos Nat.length_toDigits_pos
  have htext : (toString days ++ "d").toList = Nat.toDigits 10 days ++ ['d'] := by
    simp [Nat.toString_eq_repr, Nat.repr]
  have hblank : ∀ c ∈ Nat.toDigits 10 days ++ ['d'], isBlank c = false :=
    List.forall_mem_append.mpr ⟨fun c hc => isBlank_of_isDigit (hdigits c hc),
      List.forall_mem_singleton.mpr (by decide)⟩
  have hsmall : ∀ c ∈ Nat.toDigits 10 days ++ ['d'], IsSmall c :=
    List.forall_mem_append.mpr ⟨fun c hc => isSmall_of_isDigit (hdigits c hc),
      List.forall_mem_singleton.mpr (by decide +kernel)⟩
  have hvalue : (days : ℤ) = 1 * digitsValue (Nat.toDigits 10 days) := by
    rw [digitsValue, Nat.ofDigitChars_toDigits (by decide) (by decide), one_mul]
  rw [htext, trim_eq_self hblank, lowercase_eq_self hsmall, hvalue]
  exact .count (.whole .absent ⟨hne, hdigits⟩) .day

/-- **A count of days or weeks is exact or refused.** A text that counts units of so many days gives
the range that ends today and has all of the days, if they are one at least and the first of them
lies in the calendar; in every other case the range is refused as invalid, however large the number
is. Going back from today by a number of days gives the same as counting one day more. -/
theorem parse_counts (today : Date) :
    (∀ {text : String} {n : ℤ} {unit : ℕ}, SpellsCount (lowercase (trim text.toList)) n unit →
      if 1 ≤ n ∧ Date.start.dayNumber ≤ today.dayNumber - (n * unit - 1) then
        ∃ r, parse today text = .ok r ∧ r.last = today ∧ r.days = n * unit
      else parse today text = .error
        (.invalidRange (countFault n (String.ofList (lowercase (trim text.toList)))))) ∧
    ∀ (days : UInt32) (r : DayRange),
      backFrom today days = .ok r ↔ parse today (toString (days.toNat + 1) ++ "d") = .ok r := by
  constructor
  · intro text n unit h
    have hpos : 1 ≤ n → 1 ≤ n * unit := by
      intro hone
      have hunit := h.one_le_unit
      exact Int.mul_pos (by omega) (by omega)
    split
    · rename_i hn
      obtain ⟨hone, hstart⟩ := hn
      obtain ⟨r, hlast, hdays⟩ := (exists_days_iff (hpos hone)).mpr hstart
      exact ⟨r, (parse_eq_ok_iff h).mpr ⟨hone, hlast, hdays⟩, hlast, hdays⟩
    · rename_i hn
      apply parse_eq_error h
      intro r hr
      obtain ⟨hone, hlast, hdays⟩ := (parse_eq_ok_iff h).mp hr
      exact hn ⟨hone, (exists_days_iff (hpos hone)).mp ⟨r, hlast, hdays⟩⟩
  · intro days r
    have hspells := spellsCount_days (days.toNat + 1)
    rw [backFrom, orOutOfBounds_eq_ok, endingOn?_eq_some_iff, parse_eq_ok_iff hspells]
    push_cast
    constructor
    · rintro ⟨hlast, hdays⟩
      exact ⟨by omega, hlast, by omega⟩
    · rintro ⟨-, hlast, hdays⟩
      exact ⟨hlast, by omega⟩

/-- Two weeks, the most weeks that a word can count, and a fortnight counted in both ways. -/
theorem parse_counts_weeks :
    let today : Date := ⟨2026, 1, 15, by decide⟩
    SpellsCount (lowercase (trim " +02W ".toList)) 2 7 ∧
      SpellsCount (lowercase (trim "9223372036854775807w".toList)) 9223372036854775807 7 ∧
      (∃ r, parse today " +02W " = .ok r ∧ r.last = today ∧ r.days = 14) ∧
      parse today "9223372036854775807w" =
        .error (.invalidRange (.outOfBounds "9223372036854775807w")) ∧
      ∀ r, backFrom today 13 = .ok r ↔ parse today "14d" = .ok r := by
  intro today
  obtain ⟨hcounts, hback⟩ := parse_counts today
  have hlow : lowercase (trim " +02W ".toList) = ['+'] ++ ['0', '2'] ++ ['w'] := by
    decide +kernel
  have hhigh : lowercase (trim "9223372036854775807w".toList) =
      [] ++ "9223372036854775807".toList ++ ['w'] := by
    decide +kernel
  have htwo : SpellsCount (lowercase (trim " +02W ".toList)) 2 7 := by
    rw [hlow]
    exact .count (.whole .plus (digits_of_all (by decide) (by decide))) .week
  have hmost : SpellsCount (lowercase (trim "9223372036854775807w".toList))
      9223372036854775807 7 := by
    rw [hhigh]
    exact .count (.whole .absent (digits_of_all (by decide) (by decide))) .week
  have hrange := hcounts htwo
  have hfault := hcounts hmost
  rw [if_pos (by decide)] at hrange
  rw [if_neg (by decide), hhigh] at hfault
  exact ⟨htwo, hmost, hrange, hfault, hback 13⟩

end DayRange

end EventReport.Calendar
