import EventReport.Proofs.Calendar.Suffix
import EventReport.Proofs.Number.Decimal

/-! # Days with a time of day

An end of a range may be written with a time of day, and with the offset of the clock that showed
it. `SpellsTime` and `SpellsOffset` say how these are written and what they stand for. The forms of
an end are tried one after the other, and each of them takes the same day off the front of the text
(`readTimestamp?_append`, `readInstant_timestamp`).

The last form goes through a moment of universal time, where the day is another one for many times
and offsets. The clock that the moment was read from shows the written day again, so neither the
time nor the offset ever shifts it (`parseBound_timestamp`). -/

set_option autoImplicit false

namespace EventReport.Calendar

open Number Text

/-! ## The notation -/

/-- The text is a fraction of a second, or the empty text in place of one. -/
inductive SpellsFraction : List Char → Prop
  | absent : SpellsFraction []
  | point {digits : List Char} : Digits digits → SpellsFraction ('.' :: digits)

/-- The text is a time of day, so many whole seconds after midnight. -/
inductive SpellsTime : List Char → ℕ → Prop
  | time {hour minute second : ℕ} {fraction : List Char} : hour ≤ 23 → minute ≤ 59 →
      second ≤ 59 → SpellsFraction fraction →
      SpellsTime
        (twoDigits hour ++ ':' :: (twoDigits minute ++ ':' :: (twoDigits second ++ fraction)))
        ((hour * 60 + minute) * 60 + second)

/-- The text is the offset of a clock that is so many seconds ahead of universal time. -/
inductive SpellsOffset : List Char → ℤ → Prop
  | universal : SpellsOffset ['Z'] 0
  | ahead {hours minutes : ℕ} : hours ≤ 23 → minutes ≤ 59 →
      SpellsOffset ('+' :: (twoDigits hours ++ ':' :: twoDigits minutes))
        ((hours * 60 + minutes) * 60)
  | behind {hours minutes : ℕ} : hours ≤ 23 → minutes ≤ 59 →
      SpellsOffset ('-' :: (twoDigits hours ++ ':' :: twoDigits minutes))
        (-((hours * 60 + minutes) * 60))

theorem SpellsTime.lt {time : List Char} {s : ℕ} (h : SpellsTime time s) : s < daySeconds := by
  cases h
  simp only [daySeconds]
  omega

/-! ## Blanks -/

theorem isBlank_twoDigits (n : ℕ) : ∀ c ∈ twoDigits n, isBlank c = false :=
  fun c hc => isBlank_of_isDigit (isDigit_twoDigits n c hc)

theorem SpellsFraction.isBlank {fraction : List Char} (h : SpellsFraction fraction) :
    ∀ c ∈ fraction, isBlank c = false := by
  cases h with
  | absent => exact nofun
  | point hdigits =>
    rw [List.forall_mem_cons]
    exact ⟨by decide, fun c hc => isBlank_of_isDigit (hdigits.isDigit c hc)⟩

theorem SpellsTime.isBlank {time : List Char} {s : ℕ} (h : SpellsTime time s) :
    ∀ c ∈ time, isBlank c = false := by
  cases h with
  | time _ _ _ hfraction =>
    simp only [List.forall_mem_append, List.forall_mem_cons]
    exact ⟨isBlank_twoDigits _, by decide, isBlank_twoDigits _, by decide, isBlank_twoDigits _,
      hfraction.isBlank⟩

theorem SpellsOffset.isBlank {offset : List Char} {o : ℤ} (h : SpellsOffset offset o) :
    ∀ c ∈ offset, isBlank c = false := by
  cases h with
  | universal => exact List.forall_mem_singleton.mpr (by decide)
  | ahead | behind =>
    simp only [List.forall_mem_append, List.forall_mem_cons]
    exact ⟨by decide, isBlank_twoDigits _, by decide, isBlank_twoDigits _⟩

/-! ## Times and offsets are read -/

/-- Two digits are read as their number, whatever follows them. -/
def ReadsTwoDigits (part : Reading ℕ) : Prop :=
  ∀ n < 100, ∀ rest, part (twoDigits n ++ rest) = some (n, rest)

theorem readsTwoDigits_lenient : ReadsTwoDigits (readPart 2) :=
  fun _ h rest => readPart_twoDigits h rest

theorem readsTwoDigits_strict : ReadsTwoDigits (readNumber 2 2) :=
  fun _ h rest => readNumber_twoDigits (Nat.le_refl 2) h rest

/-- The text does not go on with what could belong to a time of day. -/
def EndsTime (rest : List Char) : Prop :=
  ∀ c ∈ rest.head?, c.isDigit = false ∧ c ≠ '.'

theorem readFraction_append {fraction rest : List Char} (h : SpellsFraction fraction)
    (hrest : EndsTime rest) : readFraction (fraction ++ rest) = some ((), rest) := by
  cases h with
  | absent =>
    cases rest with
    | nil => rfl
    | cons c cs =>
      have hc : c ≠ '.' := (hrest c rfl).2
      rw [List.nil_append, readFraction]
      exact fun _ h => hc (List.cons.inj h).1
  | @point digits hdigits =>
    have hdrop : (digits ++ rest).dropWhile Char.isDigit = rest :=
      congrArg Prod.snd (spanDigits_append hdigits.isDigit fun c hc => (hrest c hc).1)
    have hlength : rest.length ≠ (digits ++ rest).length := by
      have := List.length_pos_of_ne_nil hdigits.ne_nil
      rw [List.length_append]
      omega
    rw [List.cons_append, readFraction]
    simp only [hdrop, hlength, if_false]

/-- A written time of day is read up to its end. -/
theorem readTime_append {part : Reading ℕ} (hpart : ReadsTwoDigits part) {time rest : List Char}
    {s : ℕ} (h : SpellsTime time s) (hrest : EndsTime rest) :
    readTime part (time ++ rest) = some (s, rest) := by
  cases h with
  | @time hour minute second fraction hhour hminute hsecond hfraction =>
    have htime : isTimeOfDay hour minute second = true := by
      simp only [isTimeOfDay, Bool.and_eq_true, decide_eq_true_eq]
      omega
    have hs : secondOfDay hour minute second = (hour * 60 + minute) * 60 + second := by
      rw [secondOfDay, Nat.min_eq_left hsecond]
    simp only [readTime, List.append_assoc, List.cons_append, hpart hour (by omega),
      hpart minute (by omega), hpart second (by omega), readChar, if_true, htime,
      readFraction_append hfraction hrest, hs, Option.bind_eq_bind, Option.bind_some,
      Option.pure_def]

theorem readOffset_of_spells {offset : List Char} {o : ℤ} (h : SpellsOffset offset o) :
    readOffset offset = some (o, []) := by
  have htwo := readsTwoDigits_strict
  cases h with
  | universal => rfl
  | @ahead hours minutes hhours hminutes | @behind hours minutes hhours hminutes =>
    have hminute := htwo minutes (by omega) []
    rw [List.append_nil] at hminute
    simp [readOffset, isOffsetSign, htwo hours (by omega), hminute, readChar, hhours, hminutes]

/-- An offset begins with a letter or a sign. -/
theorem SpellsOffset.endsTime {offset : List Char} {o : ℤ} (h : SpellsOffset offset o) :
    EndsTime offset := by
  intro c hc
  cases h <;> cases hc <;> decide

theorem SpellsOffset.ne_nil {offset : List Char} {o : ℤ} (h : SpellsOffset offset o) :
    offset ≠ [] := by
  cases h <;> exact List.cons_ne_nil _ _

/-! ## The forms of an end of a range -/

/-- A form that leaves some of the text over does not apply. -/
theorem whole_of_ne_nil {α : Type} {value : α} {rest : List Char} (h : rest ≠ []) :
    whole (some (value, rest)) = none := by
  cases rest with
  | nil => exact absurd rfl h
  | cons => rfl

theorem readDay?_append {d : Date} {rest : List Char} (h : rest ≠ []) :
    readDay? (d.dashed ++ rest) = none := by
  rw [readDay?, readDate_dashed, whole_of_ne_nil h]

/-- The form without an offset takes the day and the time off the front of the text. -/
theorem readTimestamp?_append {d : Date} {time rest : List Char} {s : ℕ} (htime : SpellsTime time s)
    (hrest : EndsTime rest) :
    readTimestamp? (d.dashed ++ 'T' :: (time ++ rest)) = whole (some (d, rest)) := by
  have hread := readTime_append readsTwoDigits_lenient htime hrest
  simp [readTimestamp?, readDate_dashed, readChar, hread]

/-- A date with a plain year has all its digits and no sign. -/
theorem Date.dashed_eq {d : Date} (h : d.HasPlainYear) :
    d.dashed =
      fourDigits d.year.natAbs ++ '-' :: (twoDigits d.month ++ '-' :: twoDigits d.day) := by
  rw [dashed, h.writtenYear_eq, List.append_assoc, List.cons_append]

/-- The strict form is read as the moment at which the clock shows the day and the time. -/
theorem readInstant_timestamp {d : Date} (hyear : d.HasPlainYear) {time offset : List Char} {s : ℕ}
    {o : ℤ} (htime : SpellsTime time s) (hoffset : SpellsOffset offset o) :
    readInstant (d.dashed ++ 'T' :: (time ++ offset)) = some (Instant.shown d s o, []) := by
  have hparts : Date.ofParts? d.year d.month d.day = some d := dif_pos d.isDate
  obtain ⟨-, -, -, hmonth, -, hday⟩ := d.isDate
  have hdays := daysIn_le d.year d.month
  have habs : (d.year.natAbs : ℤ) = d.year := Int.natAbs_of_nonneg hyear.1
  have hfour := readNumber_fourDigits (Nat.le_refl 4) hyear.natAbs_le
  have htwo := readsTwoDigits_strict
  simp only [readInstant, Date.dashed_eq hyear, List.append_assoc, List.cons_append, hfour,
    htwo d.month (by omega), htwo d.day (by omega), readChar, if_true, habs, hparts, readSeparator,
    readTime_append htwo htime hoffset.endsTime, readOffset_of_spells hoffset, true_or,
    Option.bind_eq_bind, Option.bind_some, Option.pure_def]

/-- What a clock far ahead or behind showed is its own day. -/
theorem readInstant?_timestamp {d : Date} (hyear : d.HasPlainYear) {time offset : List Char} {s : ℕ}
    {o : ℤ} (htime : SpellsTime time s) (hoffset : SpellsOffset offset o) :
    readInstant? (d.dashed ++ 'T' :: (time ++ offset)) = some d := by
  rw [readInstant?, readInstant_timestamp hyear htime hoffset]
  exact Instant.localDay?_shown d htime.lt o

theorem isBlank_timestamp (d : Date) {time rest : List Char} {s : ℕ} (htime : SpellsTime time s)
    (hrest : ∀ c ∈ rest, isBlank c = false) :
    ∀ c ∈ d.dashed ++ 'T' :: (time ++ rest), isBlank c = false := by
  simp only [List.forall_mem_append, List.forall_mem_cons]
  exact ⟨isBlank_of_mem_dashed d, by decide, htime.isBlank, hrest⟩

/-- **An end of a range is the day that is written**, alone, with a time of day, or with a time of
day and an offset: neither of these shifts it, also where the day by universal time is another. -/
theorem parseBound_timestamp {d : Date} (hyear : d.HasPlainYear) {time offset : List Char} {s : ℕ}
    {o : ℤ} (htime : SpellsTime time s) (hoffset : SpellsOffset offset o) :
    parseBound (String.ofList d.dashed) = .ok d ∧
      parseBound (String.ofList (d.dashed ++ 'T' :: time)) = .ok d ∧
      parseBound (String.ofList (d.dashed ++ 'T' :: (time ++ offset))) = .ok d := by
  refine ⟨parseBound_dashed d, ?_, ?_⟩
  · have hday : readDay? (d.dashed ++ 'T' :: time) = none := readDay?_append (List.cons_ne_nil _ _)
    have hends : EndsTime [] := nofun
    have htimestamp := readTimestamp?_append (d := d) htime hends
    have hblank := isBlank_timestamp d htime (List.forall_mem_nil _)
    rw [List.append_nil] at htimestamp hblank
    rw [parseBound, String.toList_ofList, trim_eq_self hblank, hday, htimestamp]
    rfl
  · have hday : readDay? (d.dashed ++ 'T' :: (time ++ offset)) = none :=
      readDay?_append (List.cons_ne_nil _ _)
    -- The form without an offset reads as far as the offset, which is then left over.
    have htimestamp : readTimestamp? (d.dashed ++ 'T' :: (time ++ offset)) = none := by
      rw [readTimestamp?_append htime hoffset.endsTime]
      exact whole_of_ne_nil hoffset.ne_nil
    rw [parseBound, String.toList_ofList, trim_eq_self (isBlank_timestamp d htime hoffset.isBlank),
      hday, htimestamp, readInstant?_timestamp hyear htime hoffset]
    rfl

/-- Half an hour after midnight, by a clock so far ahead that it is still the leap day by universal
time. -/
theorem parseBound_timestamp_ahead :
    let d : Date := ⟨2024, 3, 1, by decide⟩
    let leapDay : Date := ⟨2024, 2, 29, by decide⟩
    parseBound "2024-03-01" = .ok d ∧ parseBound "2024-03-01T00:30:00.250" = .ok d ∧
      parseBound "2024-03-01T00:30:00.250+14:00" = .ok d ∧
      (Instant.shown d 1800 50400).universal / daySeconds = leapDay.dayNumber := by
  intro d leapDay
  let time := twoDigits 0 ++ ':' :: (twoDigits 30 ++ ':' :: (twoDigits 0 ++ ['.', '2', '5', '0']))
  let offset := '+' :: (twoDigits 14 ++ ':' :: twoDigits 0)
  have hfraction : SpellsFraction ['.', '2', '5', '0'] :=
    .point (digits_of_all (by decide) (by decide))
  have htime : SpellsTime time 1800 := .time (by decide) (by decide) (by decide) hfraction
  have hoffset : SpellsOffset offset 50400 := .ahead (by decide) (by decide)
  have hdayText : String.ofList d.dashed = "2024-03-01" := by decide
  have hlocalText : String.ofList (d.dashed ++ 'T' :: time) = "2024-03-01T00:30:00.250" := by
    decide
  have haheadText : String.ofList (d.dashed ++ 'T' :: (time ++ offset)) =
      "2024-03-01T00:30:00.250+14:00" := by decide
  obtain ⟨hday, hlocal, hahead⟩ := parseBound_timestamp (d := d) (by decide) htime hoffset
  rw [hdayText] at hday
  rw [hlocalText] at hlocal
  rw [haheadText] at hahead
  exact ⟨hday, hlocal, hahead, by decide⟩

end EventReport.Calendar
