/-! # Calendar dates

A `Date` is a day of the proleptic Gregorian calendar between the years `minYear` and `maxYear`.
Dates are ordered by year, month and day. `Date.dayNumber` counts days from the first of January of
the year zero, `Date.ofDayNumber?` is its inverse (`dayNumber_of_ofDayNumber?`,
`ofDayNumber?_dayNumber`), and the count agrees with the order (`le_iff_dayNumber_le`). `Date.next?`
steps to the following day by the calendar alone.
-/

namespace EventReport.Calendar

/-- The first year that can be represented. -/
def minYear : Int := -262143

/-- The last year that can be represented. -/
def maxYear : Int := 262142

/-- Years that have a 29th of February. -/
def isLeap (year : Int) : Bool :=
  year % 4 = 0 && (year % 100 ≠ 0 || year % 400 = 0)

/-- The number of days of a month; zero for numbers that are no month. -/
def daysIn (year : Int) (month : Nat) : Nat :=
  match month with
  | 1 | 3 | 5 | 7 | 8 | 10 | 12 => 31
  | 4 | 6 | 9 | 11 => 30
  | 2 => if isLeap year then 29 else 28
  | _ => 0

/-- The parts name a day of the calendar in the years that can be represented. -/
def IsDate (year : Int) (month day : Nat) : Prop :=
  minYear ≤ year ∧ year ≤ maxYear ∧ 1 ≤ month ∧ month ≤ 12 ∧ 1 ≤ day ∧ day ≤ daysIn year month

instance (year : Int) (month day : Nat) : Decidable (IsDate year month day) := by
  unfold IsDate; infer_instance

/-- A day of the calendar. -/
structure Date where
  year : Int
  month : Nat
  day : Nat
  isDate : IsDate year month day
  deriving DecidableEq

namespace Date

/-- The date with the given parts, if there is one. -/
def ofParts? (year : Int) (month day : Nat) : Option Date :=
  if h : IsDate year month day then some ⟨year, month, day, h⟩ else none

theorem isSome_ofParts?_iff {year : Int} {month day : Nat} :
    (ofParts? year month day).isSome ↔ IsDate year month day := by
  unfold ofParts?
  split <;> simp_all

/-! ## Order -/

/-- Earlier by year, then month, then day; equal dates included. -/
protected def le (a b : Date) : Prop :=
  a.year < b.year ∨
    (a.year = b.year ∧ (a.month < b.month ∨ (a.month = b.month ∧ a.day ≤ b.day)))

instance : LE Date := ⟨Date.le⟩

instance (a b : Date) : Decidable (a ≤ b) := by
  change Decidable (Date.le a b); unfold Date.le; infer_instance

/-! ## The following day -/

/-- The day after, if it can be represented. -/
def next? (d : Date) : Option Date :=
  (ofParts? d.year d.month (d.day + 1)).or
    ((ofParts? d.year (d.month + 1) 1).or (ofParts? (d.year + 1) 1 1))

/-! ## Counting days -/

/-- The days from the start of year zero to the start of `year`, negative for earlier years: 365 a
year and one for every leap year between. -/
def daysBeforeYear (year : Int) : Int :=
  365 * year + (year + 3) / 4 - (year + 99) / 100 + (year + 399) / 400

/-- The days of the year before the first of the month. -/
def daysBeforeMonth (year : Int) : Nat → Nat
  | 0 => 0
  | month + 1 => daysBeforeMonth year month + daysIn year month

/-- The days from the first of January of the year zero. -/
def dayNumber (d : Date) : Int :=
  daysBeforeYear d.year + daysBeforeMonth d.year d.month + d.day - 1

/-- The year that the day with this number lies in: an estimate by the mean length of a year, and
one step to the side where it misses. -/
def yearOfDayNumber (n : Int) : Int :=
  let guess := n * 400 / 146097
  if n < daysBeforeYear guess then guess - 1
  else if daysBeforeYear (guess + 1) ≤ n then guess + 1
  else guess

/-- The month that lies `offset` days after the first of `month`, and the days since its first; at
most `fuel` months on. -/
def monthAt (year : Int) : (fuel month offset : Nat) → Nat × Nat
  | 0, month, offset => (month, offset)
  | fuel + 1, month, offset =>
    if offset < daysIn year month then (month, offset)
    else monthAt year fuel (month + 1) (offset - daysIn year month)

/-- The day with the given number, if it can be represented. -/
def ofDayNumber? (n : Int) : Option Date :=
  let year := yearOfDayNumber n
  let (month, offset) := monthAt year 11 1 (n - daysBeforeYear year).toNat
  ofParts? year month (offset + 1)

/-- The number of the first of January 1970. -/
def epochDayNumber : Int := 719528

/-- The day of an instant that is given in seconds from the start of the year 1970. -/
def ofEpochSeconds? (seconds : Int) : Option Date :=
  ofDayNumber? (epochDayNumber + seconds / 86400)

/-! ## The count and its inverse -/

theorem isLeap_eq_true {year : Int} (h : isLeap year = true) :
    year % 4 = 0 ∧ (year % 100 ≠ 0 ∨ year % 400 = 0) := by
  simpa [isLeap] using h

theorem isLeap_eq_false {year : Int} (h : isLeap year = false) :
    year % 4 ≠ 0 ∨ (year % 100 = 0 ∧ year % 400 ≠ 0) := by
  simp only [isLeap, Bool.and_eq_false_iff, decide_eq_false_iff_not, Bool.or_eq_false_iff,
    ne_eq] at h
  omega

/-- A year has 365 days, a leap year one more. -/
theorem daysBeforeYear_succ (year : Int) :
    daysBeforeYear (year + 1) = daysBeforeYear year + 365 + if isLeap year then 1 else 0 := by
  unfold daysBeforeYear
  cases h : isLeap year
  · have := isLeap_eq_false h
    simp only [Bool.false_eq_true, if_false]
    omega
  · have := isLeap_eq_true h
    simp only [if_true]
    omega

theorem daysBeforeYear_le {a b : Int} (h : a < b) : daysBeforeYear (a + 1) ≤ daysBeforeYear b := by
  unfold daysBeforeYear
  omega

/-- The mean year of 146097 / 400 days is never off by two days. -/
theorem daysBeforeYear_mean (year : Int) :
    146097 * year - 396 ≤ 400 * daysBeforeYear year ∧
      400 * daysBeforeYear year ≤ 146097 * year + 699 := by
  unfold daysBeforeYear
  omega

/-- The day lies in the year found for it. -/
theorem yearOfDayNumber_bounds (n : Int) :
    daysBeforeYear (yearOfDayNumber n) ≤ n ∧ n < daysBeforeYear (yearOfDayNumber n + 1) := by
  unfold yearOfDayNumber
  generalize hg : n * 400 / 146097 = guess
  have before := daysBeforeYear_mean (guess - 1)
  have after := daysBeforeYear_mean (guess + 1 + 1)
  simp only
  split
  · rw [Int.sub_add_cancel]
    omega
  · split <;> omega

/-- The twelve months make up the year. -/
theorem daysBeforeMonth_year (year : Int) :
    daysBeforeMonth year 13 = 365 + if isLeap year then 1 else 0 := by
  cases h : isLeap year <;> simp [daysBeforeMonth, daysIn, h]

/-- The month found lies among the months searched, the days since its first fall in it, and the
place in the year is kept. -/
theorem monthAt_bounds (year : Int) (fuel month offset : Nat)
    (h : daysBeforeMonth year month + offset < daysBeforeMonth year (month + fuel + 1)) :
    let found := monthAt year fuel month offset
    month ≤ found.1 ∧ found.1 ≤ month + fuel ∧ found.2 < daysIn year found.1 ∧
      daysBeforeMonth year found.1 + found.2 = daysBeforeMonth year month + offset := by
  induction fuel generalizing month offset with
  | zero =>
    simp only [daysBeforeMonth] at h
    exact ⟨Nat.le_refl _, Nat.le_refl _, Nat.lt_of_add_lt_add_left h, rfl⟩
  | succ fuel ih =>
    have next : daysBeforeMonth year (month + 1) = daysBeforeMonth year month + daysIn year month :=
      rfl
    simp only [monthAt]
    split
    · exact ⟨Nat.le_refl _, Nat.le_add_right _ _, ‹_›, rfl⟩
    · have := ih (month + 1) (offset - daysIn year month) (by
        rw [show month + 1 + fuel + 1 = month + (fuel + 1) + 1 by omega]
        omega)
      simp only at this ⊢
      omega

/-- The month and the day found for a number count up to it. -/
theorem monthAt_dayNumber (n : Int) :
    let year := yearOfDayNumber n
    let found := monthAt year 11 1 (n - daysBeforeYear year).toNat
    1 ≤ found.1 ∧ found.1 ≤ 12 ∧ found.2 < daysIn year found.1 ∧
      daysBeforeYear year + daysBeforeMonth year found.1 + found.2 = n := by
  have bounds := yearOfDayNumber_bounds n
  generalize yearOfDayNumber n = year at *
  rw [daysBeforeYear_succ] at bounds
  have one : daysBeforeMonth year 1 = 0 := rfl
  have found := monthAt_bounds year 11 1 (n - daysBeforeYear year).toNat (by
      rw [one, daysBeforeMonth_year]
      split at bounds <;> simp_all <;> omega)
  simp only [one] at found ⊢
  omega

/-- The day found for a number has that number. -/
theorem dayNumber_of_ofDayNumber? {n : Int} {d : Date} (h : ofDayNumber? n = some d) :
    d.dayNumber = n := by
  have found := monthAt_dayNumber n
  simp only [ofDayNumber?, ofParts?] at h found
  split at h
  · obtain rfl := Option.some.inj h
    simp only [dayNumber]
    omega
  · cases h

/-- A number has a day exactly if it lies between those of the first and the last day. -/
theorem isSome_ofDayNumber?_iff (n : Int) :
    (ofDayNumber? n).isSome ↔ daysBeforeYear minYear ≤ n ∧ n < daysBeforeYear (maxYear + 1) := by
  have bounds := yearOfDayNumber_bounds n
  have found := monthAt_dayNumber n
  simp only [ofDayNumber?, isSome_ofParts?_iff, IsDate] at found ⊢
  generalize yearOfDayNumber n = year at *
  have low : minYear ≤ year ↔ daysBeforeYear minYear ≤ n := by
    unfold daysBeforeYear minYear at *
    omega
  have high : year ≤ maxYear ↔ n < daysBeforeYear (maxYear + 1) := by
    unfold daysBeforeYear maxYear at *
    omega
  rw [← low, ← high]
  omega

/-! ## The count and the order -/

theorem daysBeforeMonth_le (year : Int) {a b : Nat} (h : a < b) :
    daysBeforeMonth year a + daysIn year a ≤ daysBeforeMonth year b := by
  induction b with
  | zero => omega
  | succ b ih =>
    rcases Nat.lt_succ_iff_lt_or_eq.mp h with h | rfl
    · have := ih h
      simp only [daysBeforeMonth]
      omega
    · exact Nat.le_refl _

/-- A day lies in its year. -/
theorem dayNumber_bounds (d : Date) :
    daysBeforeYear d.year ≤ d.dayNumber ∧ d.dayNumber < daysBeforeYear (d.year + 1) := by
  obtain ⟨year, month, day, _, _, h1, h12, hd, hday⟩ := d
  have := daysBeforeMonth_le year (a := month) (b := 13) (by omega)
  rw [daysBeforeMonth_year] at this
  rw [daysBeforeYear_succ]
  simp only [dayNumber]
  split at this <;> simp_all <;> omega

/-- A date that does not come before or on another has the larger number. -/
theorem dayNumber_lt_of_not_le {a b : Date} (h : ¬ b ≤ a) : a.dayNumber < b.dayNumber := by
  change ¬ Date.le b a at h
  unfold Date.le at h
  rcases Int.lt_or_le a.year b.year with hy | hy
  · have := daysBeforeYear_le hy
    have := a.dayNumber_bounds
    have := b.dayNumber_bounds
    omega
  · have hy : b.year = a.year := by omega
    obtain ⟨ay, am, ad, _, _, _, _, had, hada⟩ := a
    obtain ⟨yb, bm, bd, _, _, _, _, hbd, hbdb⟩ := b
    simp only at hy h
    subst hy
    simp only [dayNumber]
    rcases Nat.lt_or_ge am bm with hm | hm
    · have := daysBeforeMonth_le yb hm
      omega
    · obtain rfl : bm = am := by omega
      omega

theorem le_antisymm {a b : Date} (hab : a ≤ b) (hba : b ≤ a) : a = b := by
  change Date.le a b at hab
  change Date.le b a at hba
  unfold Date.le at hab hba
  obtain ⟨ay, am, ad, ha⟩ := a
  obtain ⟨yb, bm, bd, hb⟩ := b
  simp only at hab hba
  simp only [mk.injEq]
  omega

/-- Dates are ordered as their numbers are. -/
theorem le_iff_dayNumber_le {a b : Date} : a ≤ b ↔ a.dayNumber ≤ b.dayNumber := by
  constructor
  · intro h
    by_cases h' : b ≤ a
    · obtain rfl := le_antisymm h h'
      exact Int.le_refl _
    · exact Int.le_of_lt (dayNumber_lt_of_not_le h')
  · intro h
    by_cases h' : a ≤ b
    · exact h'
    · have := dayNumber_lt_of_not_le h'
      omega

/-- A day is the one found for its number. -/
theorem ofDayNumber?_dayNumber (d : Date) : ofDayNumber? d.dayNumber = some d := by
  have bounds := d.dayNumber_bounds
  have low : daysBeforeYear minYear ≤ daysBeforeYear d.year := by
    have := d.isDate.1
    unfold daysBeforeYear
    omega
  have high : daysBeforeYear (d.year + 1) ≤ daysBeforeYear (maxYear + 1) := by
    have := d.isDate.2.1
    unfold daysBeforeYear
    omega
  have found := (isSome_ofDayNumber?_iff d.dayNumber).mpr ⟨by omega, by omega⟩
  obtain ⟨e, he⟩ := Option.isSome_iff_exists.mp found
  have same := dayNumber_of_ofDayNumber? he
  have eq : e = d :=
    le_antisymm (le_iff_dayNumber_le.mpr (by omega)) (le_iff_dayNumber_le.mpr (by omega))
  rw [he, eq]

end Date

end EventReport.Calendar
