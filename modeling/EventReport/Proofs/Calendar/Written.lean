import EventReport.Calendar.DayRange
import EventReport.Proofs.Number.Digits

/-! # Written dates are read

A date is written with digits and perhaps a sign, none of them blank, and its written form is read
back to the date, whatever follows it (`readDate_dashed`). So the end of a range is read back
(`parseBound_dashed`). -/

set_option autoImplicit false

namespace EventReport.Calendar

open Number Text

/-! ## Digits -/

theorem isDigit_digit {n : Nat} (h : n < 10) : (digit n).isDigit := by
  have : ∀ n < 10, (digit n).isDigit := by decide
  exact this n h

theorem toNat_digit {n : Nat} (h : n < 10) : (digit n).toNat = '0'.toNat + n := by
  have : ∀ n < 10, (digit n).toNat = '0'.toNat + n := by decide
  exact this n h

theorem isDigit_twoDigits (n : Nat) : ∀ c ∈ twoDigits n, c.isDigit := by
  simp only [twoDigits, List.forall_mem_cons]
  exact ⟨isDigit_digit (by omega), isDigit_digit (by omega), nofun⟩

theorem isDigit_fourDigits (n : Nat) : ∀ c ∈ fourDigits n, c.isDigit := by
  simp only [fourDigits, List.forall_mem_cons]
  exact ⟨isDigit_digit (by omega), isDigit_digit (by omega), isDigit_digit (by omega),
    isDigit_digit (by omega), nofun⟩

theorem isDigit_yearDigits (n : Nat) : ∀ c ∈ yearDigits n, c.isDigit := by
  unfold yearDigits
  split
  · exact isDigit_fourDigits n
  · exact fun c hc => Nat.isDigit_of_mem_toDigits (by decide) (by decide) hc

/-- A year is written with digits, and perhaps a sign. -/
theorem mem_writtenYear {year : Int} {c : Char} (h : c ∈ writtenYear year) :
    (c = '+' ∨ c = '-') ∨ c.isDigit := by
  unfold writtenYear at h
  split at h
  · rcases List.mem_cons.mp h with rfl | h
    · exact .inl (.inr rfl)
    · exact .inr (isDigit_yearDigits _ c h)
  · split at h
    · exact .inr (isDigit_fourDigits _ c h)
    · rcases List.mem_cons.mp h with rfl | h
      · exact .inl (.inl rfl)
      · exact .inr (isDigit_yearDigits _ c h)

theorem digitsValue_twoDigits {n : Nat} (h : n < 100) : digitsValue (twoDigits n) = n := by
  simp only [digitsValue, twoDigits, Nat.ofDigitChars_cons, Nat.ofDigitChars_nil]
  rw [toNat_digit (by omega), toNat_digit (by omega)]
  omega

theorem digitsValue_fourDigits {n : Nat} (h : n ≤ 9999) : digitsValue (fourDigits n) = n := by
  simp only [digitsValue, fourDigits, Nat.ofDigitChars_cons, Nat.ofDigitChars_nil]
  rw [toNat_digit (by omega), toNat_digit (by omega), toNat_digit (by omega),
    toNat_digit (by omega)]
  omega

theorem digitsValue_yearDigits (n : Nat) : digitsValue (yearDigits n) = n := by
  unfold yearDigits
  split
  · exact digitsValue_fourDigits ‹_›
  · exact Nat.ofDigitChars_toDigits (by decide) (by decide)

theorem length_yearDigits_pos (n : Nat) : 0 < (yearDigits n).length := by
  unfold yearDigits
  split
  · exact Nat.succ_pos _
  · exact Nat.length_toDigits_pos

theorem isBlank_of_isDigit {c : Char} (h : c.isDigit) : isBlank c = false := by
  have := isDigit_bounds h
  simp only [isBlank, Bool.or_eq_false_iff, Bool.and_eq_false_iff, decide_eq_false_iff_not,
    beq_eq_false_iff_ne]
  omega

/-! ## Numbers -/

/-- Digits are read as a number if their places are used up or no digit follows. -/
theorem readNumber_append {least most : Nat} {digits rest : List Char}
    (hd : ∀ c ∈ digits, c.isDigit) (hleast : least ≤ digits.length)
    (hmost : digits.length ≤ most)
    (hrest : digits.length = most ∨ ∀ c ∈ rest.head?, c.isDigit = false) :
    readNumber least most (digits ++ rest) = some (digitsValue digits, rest) := by
  have hleading : leadingDigits most (digits ++ rest) = digits := by
    rw [leadingDigits, List.take_append, List.take_of_length_le hmost,
      List.takeWhile_append_of_pos hd]
    rcases hrest with rfl | hrest
    · simp
    · cases rest with
      | nil => simp
      | cons c rest =>
        have hc : c.isDigit = false := hrest c rfl
        cases most - digits.length <;> simp [hc]
  rw [readNumber]
  simp only [hleading]
  rw [if_neg (by omega), List.drop_left]

theorem readNumber_twoDigits {least n : Nat} (hleast : least ≤ 2) (h : n < 100)
    (rest : List Char) : readNumber least 2 (twoDigits n ++ rest) = some (n, rest) := by
  rw [readNumber_append (isDigit_twoDigits n) hleast (Nat.le_refl 2) (.inl rfl),
    digitsValue_twoDigits h]

theorem readNumber_fourDigits {least n : Nat} (hleast : least ≤ 4) (h : n ≤ 9999)
    (rest : List Char) : readNumber least 4 (fourDigits n ++ rest) = some (n, rest) := by
  rw [readNumber_append (isDigit_fourDigits n) hleast (Nat.le_refl 4) (.inl rfl),
    digitsValue_fourDigits h]

theorem trimLeft_cons_of_isDigit {c : Char} (h : c.isDigit) (cs : List Char) :
    trimLeft (c :: cs) = c :: cs :=
  List.dropWhile_cons_of_neg (by simp [isBlank_of_isDigit h])

theorem readPart_twoDigits {n : Nat} (h : n < 100) (rest : List Char) :
    readPart 2 (twoDigits n ++ rest) = some (n, rest) := by
  have hread := readNumber_twoDigits (Nat.le_add_left 1 1) h rest
  rw [readPart, twoDigits, List.cons_append, trimLeft_cons_of_isDigit (isDigit_digit (by omega))]
  exact hread

/-! ## Dates -/

theorem daysIn_le (year : Int) (month : Nat) : daysIn year month ≤ 31 := by
  unfold daysIn
  split
  all_goals first | omega | (split <;> omega)

theorem readYear_minus (cs : List Char) :
    readYear ('-' :: cs) = (readNumber 1 cs.length cs).map fun (n, rest) => (-(n : Int), rest) :=
  rfl

theorem readYear_plus (cs : List Char) :
    readYear ('+' :: cs) = (readNumber 1 cs.length cs).map fun (n, rest) => ((n : Int), rest) :=
  rfl

theorem readYear_of_isDigit {c : Char} (h : c.isDigit) (cs : List Char) :
    readYear (c :: cs) = (readNumber 1 4 (c :: cs)).map fun (n, rest) => ((n : Int), rest) := by
  rw [readYear, trimLeft_cons_of_isDigit h]
  split
  · simp_all [show ¬ '-'.isDigit by decide]
  · simp_all [show ¬ '+'.isDigit by decide]
  · rfl

/-- A written year is read up to the dash that follows it. -/
theorem readYear_written (year : Int) (rest : List Char) :
    readYear (writtenYear year ++ '-' :: rest) = some (year, '-' :: rest) := by
  -- A year with a sign takes in all digits that follow, so the dash has to end it.
  have hdash : ∀ c ∈ ('-' :: rest).head?, c.isDigit = false := by
    rintro _ ⟨⟩
    rfl
  have hsigned : readNumber 1 (yearDigits year.natAbs ++ '-' :: rest).length
      (yearDigits year.natAbs ++ '-' :: rest) = some (year.natAbs, '-' :: rest) := by
    rw [readNumber_append (isDigit_yearDigits _) (length_yearDigits_pos _) (by simp) (.inr hdash),
      digitsValue_yearDigits]
  unfold writtenYear
  split
  · have hyear : -(year.natAbs : Int) = year := by omega
    rw [List.cons_append, readYear_minus, hsigned]
    simp only [Option.map_some, hyear]
  · have hyear : (year.natAbs : Int) = year := by omega
    split
    · have hread : readNumber 1 4 (fourDigits year.natAbs ++ '-' :: rest) =
          some (year.natAbs, '-' :: rest) :=
        readNumber_fourDigits (Nat.le_add_left 1 3) (by omega) _
      rw [fourDigits, List.cons_append, readYear_of_isDigit (isDigit_digit (by omega)),
        ← List.cons_append, ← fourDigits, hread]
      simp only [Option.map_some, hyear]
    · rw [List.cons_append, readYear_plus, hsigned]
      simp only [Option.map_some, hyear]

/-- A written date is read, whatever follows it. -/
theorem readDate_dashed (d : Date) (rest : List Char) :
    readDate (d.dashed ++ rest) = some (d, rest) := by
  obtain ⟨year, month, day, hdate⟩ := d
  obtain ⟨-, -, -, hmonth, -, hday⟩ := id hdate
  have hdays := daysIn_le year month
  have hparts : Date.ofParts? year month day = some ⟨year, month, day, hdate⟩ := dif_pos hdate
  have htext : Date.dashed ⟨year, month, day, hdate⟩ ++ rest =
      writtenYear year ++ '-' :: (twoDigits month ++ '-' :: (twoDigits day ++ rest)) := by
    simp [Date.dashed]
  rw [htext, readDate, readYear_written]
  simp [readChar, readPart_twoDigits (show month < 100 by omega),
    readPart_twoDigits (show day < 100 by omega), hparts]

/-! ## Ends of ranges -/

/-- A date is written with digits, dashes and perhaps a sign. -/
theorem mem_dashed {d : Date} {c : Char} (h : c ∈ d.dashed) : (c = '+' ∨ c = '-') ∨ c.isDigit := by
  simp only [Date.dashed, List.mem_append, List.mem_cons] at h
  rcases h with (hyear | rfl | hmonth) | rfl | hday
  · exact mem_writtenYear hyear
  · exact .inl (.inr rfl)
  · exact .inr (isDigit_twoDigits _ c hmonth)
  · exact .inl (.inr rfl)
  · exact .inr (isDigit_twoDigits _ c hday)

theorem isBlank_of_mem_dashed (d : Date) : ∀ c ∈ d.dashed, isBlank c = false := by
  intro c hc
  rcases mem_dashed hc with (rfl | rfl) | hdigit
  · decide
  · decide
  · exact isBlank_of_isDigit hdigit

theorem readDay?_dashed (d : Date) : readDay? d.dashed = some d := by
  have hread := readDate_dashed d []
  rw [List.append_nil] at hread
  rw [readDay?, hread]
  rfl

/-- A written date is read as the end of a range. -/
theorem parseBound_dashed (d : Date) : parseBound (String.ofList d.dashed) = .ok d := by
  rw [parseBound, String.toList_ofList, trim_eq_self (isBlank_of_mem_dashed d), readDay?_dashed]
  rfl

end EventReport.Calendar
