import Mathlib.Data.List.Chain
import EventReport.Calendar.DayRange

/-! # The days of a range, one by one

`DayRange.dates` steps from day to day by the calendar, `DayRange.days` subtracts day numbers.
`Lists` says what it is to list the days from one to another. The steps of the calendar agree with
the numbers (`Date.next?_cases`), so the days given are a list of the range, except that the last
day of the calendar (`Date.final`), which has no day after it, is never given (`dates_lists`). -/

set_option autoImplicit false

namespace EventReport.Calendar

namespace Date

/-! ## The day after -/

/-- The first day of the calendar. -/
def start : Date := ⟨minYear, 1, 1, by decide⟩

/-- The last day of the calendar. -/
def final : Date := ⟨maxYear, 12, 31, by decide⟩

/-- `b` is the day after `a`: it comes later, and no day lies between. -/
def Precedes (a b : Date) : Prop :=
  ¬ b ≤ a ∧ ∀ d : Date, d ≤ a ∨ b ≤ d

theorem dayNumber_inj {a b : Date} (h : a.dayNumber = b.dayNumber) : a = b :=
  le_antisymm (le_iff_dayNumber_le.mpr (by omega)) (le_iff_dayNumber_le.mpr (by omega))

theorem le_final (d : Date) : d ≤ final := by
  obtain ⟨year, month, day, hdate⟩ := d
  obtain ⟨-, hyear, -, hmonth, -, hday⟩ := id hdate
  show Date.le _ _
  simp only [Date.le, final]
  by_cases hlast : year = maxYear ∧ month = 12
  · obtain ⟨rfl, rfl⟩ := hlast
    exact .inr ⟨rfl, .inr ⟨rfl, hday⟩⟩
  · omega

theorem daysIn_pos (year : Int) {month : Nat} (h1 : 1 ≤ month) (h12 : month ≤ 12) :
    1 ≤ daysIn year month := by
  unfold daysIn
  split <;> grind

/-- The number of the first of January. -/
theorem dayNumber_newYear {year : Int} (h : IsDate year 1 1) :
    dayNumber ⟨year, 1, 1, h⟩ = daysBeforeYear year := by
  simp [dayNumber, daysBeforeMonth, daysIn]

/-- The 31st of December is one day short of the next year. -/
theorem dayNumber_december {year : Int} {day : Nat} (h : IsDate year 12 day)
    (hday : day = daysIn year 12) :
    dayNumber ⟨year, 12, day, h⟩ + 1 = daysBeforeYear (year + 1) := by
  have hyear : daysBeforeMonth year 12 + daysIn year 12 = 365 + if isLeap year then 1 else 0 :=
    daysBeforeMonth_year year
  rw [daysBeforeYear_succ]
  simp only [dayNumber, hday]
  by_cases hleap : isLeap year
  · rw [if_pos hleap] at hyear ⊢
    omega
  · rw [if_neg hleap] at hyear ⊢
    omega

/-- The step to the next day adds one to the number of the day, and only the last day of the
calendar has none. -/
theorem next?_cases (d : Date) :
    (∃ e, d.next? = some e ∧ e.dayNumber = d.dayNumber + 1) ∨ (d.next? = none ∧ d = final) := by
  obtain ⟨year, month, day, hdate⟩ := d
  obtain ⟨hlow, hhigh, h1, h12, hd, hday⟩ := id hdate
  unfold next? ofParts?
  by_cases hsame : IsDate year month (day + 1)
  · refine .inl ⟨⟨year, month, day + 1, hsame⟩, by simp [hsame], ?_⟩
    simp only [dayNumber]
    omega
  -- The month is over: the day is its last.
  have hlast : day = daysIn year month := by
    unfold IsDate at hsame
    omega
  by_cases hmonth : IsDate year (month + 1) 1
  · refine .inl ⟨⟨year, month + 1, 1, hmonth⟩, by simp [hsame, hmonth], ?_⟩
    simp only [dayNumber, daysBeforeMonth]
    omega
  -- So is the year: every other month has a first day.
  have hdecember : month = 12 := by
    by_cases hless : month < 12
    · exact absurd ⟨hlow, hhigh, by omega, by omega, Nat.le_refl 1,
        daysIn_pos year (by omega) (by omega)⟩ hmonth
    · omega
  subst hdecember
  by_cases hyear : IsDate (year + 1) 1 1
  · refine .inl ⟨⟨year + 1, 1, 1, hyear⟩, by simp [hsame, hmonth, hyear], ?_⟩
    rw [dayNumber_newYear, dayNumber_december hdate hlast]
  · refine .inr ⟨by simp [hsame, hmonth, hyear], ?_⟩
    have hmax : year = maxYear := by
      by_cases hless : year < maxYear
      · exact absurd ⟨by omega, by omega, by decide, by decide, by decide, by simp [daysIn]⟩ hyear
      · omega
    subst hmax
    simp only [final, mk.injEq, true_and]
    exact hlast

/-- A day whose number is one more is the day after. -/
theorem precedes_of_dayNumber {a b : Date} (h : b.dayNumber = a.dayNumber + 1) :
    a.Precedes b := by
  refine ⟨fun hle => ?_, fun d => ?_⟩
  · have := le_iff_dayNumber_le.mp hle
    omega
  · rw [le_iff_dayNumber_le, le_iff_dayNumber_le]
    omega

end Date

/-! ## Lists of days -/

/-- The list has the days from `first` to `last` in order, each the day after the one before, and
no others, and it is as long as the day numbers say. -/
structure Lists (first last : Date) (days : List Date) : Prop where
  starts : days.head? = some first
  ends : days.getLast? = some last
  steps : days.IsChain Date.Precedes
  covers : ∀ d : Date, d ∈ days ↔ first ≤ d ∧ d ≤ last
  counted : (days.length : Int) = last.dayNumber - first.dayNumber + 1

namespace Lists

theorem single (day : Date) : Lists day day [day] where
  starts := rfl
  ends := rfl
  steps := by simp
  covers d := by
    rw [List.mem_singleton]
    constructor
    · rintro rfl
      exact ⟨Date.le_iff_dayNumber_le.mpr (Int.le_refl _),
        Date.le_iff_dayNumber_le.mpr (Int.le_refl _)⟩
    · rintro ⟨hfirst, hlast⟩
      exact Date.le_antisymm hlast hfirst
  counted := by simp

/-- One more day at the front. -/
theorem cons {day next last : Date} {days : List Date} (h : Lists next last days)
    (hnext : next.dayNumber = day.dayNumber + 1) : Lists day last (day :: days) := by
  obtain ⟨rest, rfl⟩ : ∃ rest, days = next :: rest := List.head?_eq_some_iff.mp h.starts
  have hlast : next ≤ last := ((h.covers next).mp List.mem_cons_self).2
  exact {
    starts := rfl
    ends := by rw [List.getLast?_cons_cons]; exact h.ends
    steps := List.isChain_cons_cons.mpr ⟨Date.precedes_of_dayNumber hnext, h.steps⟩
    covers := fun d => by
      rw [List.mem_cons, h.covers d]
      have heq : d = day ↔ d.dayNumber = day.dayNumber :=
        ⟨fun hd => hd ▸ rfl, Date.dayNumber_inj⟩
      rw [heq]
      simp only [Date.le_iff_dayNumber_le] at hlast ⊢
      omega
    counted := by
      have := h.counted
      rw [List.length_cons]
      omega }

end Lists

/-! ## The days that are given -/

namespace DayRange

/-- The first days of more days. -/
theorem take_datesFrom (last : Date) {few most : Nat} (h : few ≤ most) (day : Date) :
    (datesFrom last most day).take few = datesFrom last few day := by
  induction few generalizing most day with
  | zero => rfl
  | succ few ih =>
    obtain ⟨most, rfl⟩ : ∃ n, most = n + 1 := ⟨most - 1, by omega⟩
    simp only [datesFrom]
    split
    · rfl
    · split
      · rw [List.take_succ_cons, ih (by omega)]
      · rfl

/-- The day that a list of all days has and the days given have not. -/
def missing (last : Date) : List Date :=
  if last = Date.final then [last] else []

/-- With enough of them asked for, the days given and the missing one list the days from `day` to
`last`. -/
theorem lists_datesFrom {last : Date} {most : Nat} {day : Date} (hle : day ≤ last)
    (hmost : last.dayNumber - day.dayNumber + 1 ≤ most) :
    Lists day last (datesFrom last most day ++ missing last) := by
  have hnumber := Date.le_iff_dayNumber_le.mp hle
  induction most generalizing day with
  | zero => omega
  | succ most ih =>
    rcases day.next?_cases with ⟨next, hnext, hstep⟩ | ⟨hnone, rfl⟩
    · simp only [datesFrom, hnext, if_pos hle, List.cons_append]
      by_cases hmore : next ≤ last
      · have hrest := Date.le_iff_dayNumber_le.mp hmore
        exact (ih hmore (by omega) hrest).cons hstep
      · -- The range is over, and this is not the end of the calendar.
        have hend : day = last := by
          rw [Date.le_iff_dayNumber_le] at hmore
          exact Date.dayNumber_inj (by omega)
        have hfinal : last ≠ Date.final := by
          rintro rfl
          exact hmore next.le_final
        have hover : datesFrom last most next = [] := by
          cases most with
          | zero => rfl
          | succ most =>
            simp only [datesFrom, if_neg hmore]
            split <;> rfl
        rw [hover, missing, if_neg hfinal, ← hend]
        exact Lists.single day
    · have hend : last = Date.final := Date.le_antisymm last.le_final hle
      simp only [datesFrom, hnone, List.nil_append]
      rw [hend, missing, if_pos rfl]
      exact Lists.single Date.final

/-- **The days of a range.** However many are asked for, the days given are the first of one list,
and as many of it as the range has days are all of it. That list has the days of the range, from the
first to the last, each the day after the one before, as many as `days` counts; if the range ends on
the last day of the calendar, that day is missing from it. -/
theorem dates_lists (r : DayRange) :
    (∀ most, r.dates most = (r.dates r.days.toNat).take most) ∧
      (r.last ≠ Date.final → Lists r.first r.last (r.dates r.days.toNat)) ∧
      (r.last = Date.final → Lists r.first r.last (r.dates r.days.toNat ++ [Date.final])) := by
  have hlists : ∀ most : Nat, r.days ≤ most →
      Lists r.first r.last (r.dates most ++ missing r.last) :=
    fun most hmost => lists_datesFrom r.first_le_last hmost
  have hpos : 0 < r.days := by
    have := Date.le_iff_dayNumber_le.mp r.first_le_last
    unfold days
    omega
  refine ⟨fun most => ?_, fun hlast => ?_, fun hlast => ?_⟩
  · rcases Nat.le_total most r.days.toNat with hless | hmore
    · exact (take_datesFrom r.last hless r.first).symm
    · have hall : r.dates r.days.toNat = (r.dates most).take r.days.toNat :=
        (take_datesFrom r.last hmore r.first).symm
      have hlength : (r.dates most).length ≤ r.days.toNat := by
        have hcounted : ((r.dates most ++ missing r.last).length : Int) = r.days :=
          (hlists most (by omega)).counted
        rw [List.length_append] at hcounted
        omega
      rw [hall, List.take_of_length_le hlength, List.take_of_length_le (by omega)]
  · have := hlists r.days.toNat (by omega)
    rwa [missing, if_neg hlast, List.append_nil] at this
  · have := hlists r.days.toNat (by omega)
    rw [missing, if_pos hlast] at this
    rwa [← hlast]

/-- Four days around a leap day, and the last two days of the calendar. -/
theorem dates_lists_leapDay :
    let r : DayRange := ⟨⟨2024, 2, 27, by decide⟩, ⟨2024, 3, 1, by decide⟩, by decide⟩
    let s : DayRange := ⟨⟨262142, 12, 30, by decide⟩, Date.final, by decide⟩
    r.last ≠ Date.final ∧ s.last = Date.final ∧
      Lists r.first r.last [⟨2024, 2, 27, by decide⟩, ⟨2024, 2, 28, by decide⟩,
        ⟨2024, 2, 29, by decide⟩, ⟨2024, 3, 1, by decide⟩] ∧
      Lists s.first s.last [⟨262142, 12, 30, by decide⟩, Date.final] := by
  intro r s
  have hr : r.last ≠ Date.final := by decide
  have hs : s.last = Date.final := rfl
  have hdates : r.dates r.days.toNat = [⟨2024, 2, 27, by decide⟩, ⟨2024, 2, 28, by decide⟩,
      ⟨2024, 2, 29, by decide⟩, ⟨2024, 3, 1, by decide⟩] := by decide
  have hgiven : s.dates s.days.toNat = [⟨262142, 12, 30, by decide⟩] := by decide
  obtain ⟨-, hlists, -⟩ := dates_lists r
  obtain ⟨-, -, hmissing⟩ := dates_lists s
  have hfour := hlists hr
  have htwo := hmissing hs
  rw [hdates] at hfour
  rw [hgiven] at htwo
  exact ⟨hr, hs, hfour, htwo⟩

/-- Not every range has all its days given: of the last two days of the calendar, which `days`
counts as two, only the first is. -/
theorem dates_final : ¬ ∀ r : DayRange, Lists r.first r.last (r.dates r.days.toNat) := by
  intro h
  let s : DayRange := ⟨⟨262142, 12, 30, by decide⟩, Date.final, by decide⟩
  have hgiven : s.dates s.days.toNat = [⟨262142, 12, 30, by decide⟩] := by decide
  have hends : (s.dates s.days.toNat).getLast? = some Date.final := (h s).ends
  rw [hgiven] at hends
  exact absurd hends (by decide)

end DayRange

end EventReport.Calendar
