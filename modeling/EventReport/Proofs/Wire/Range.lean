import EventReport.Proofs.Calendar.Suffix
import EventReport.Proofs.Outcome
import EventReport.Wire.Request
import Mathlib.Data.Option.Basic

/-! # The range of a document

An end of a range is read from a text in one of three forms, two of which take a year with a sign
and any number of digits. Without a sign the year has at most four digits
(`Calendar.hasPlainYear_of_parseBound`), so the condition on the tables that comes of an accepted
document is written with eight digits for each end that is unsigned (`ofText_suffixPredicate`). With
a sign it need not be (`ofText_signedYear`). -/

set_option autoImplicit false

namespace EventReport

open Json Number Text

/-! ## Years without a sign -/

namespace Calendar

theorem readNumber_lt {least most n : Nat} {cs rest : List Char}
    (h : readNumber least most cs = some (n, rest)) : n < Nat.pow 10 most := by
  have hdigits : ∀ c ∈ leadingDigits most cs, c.isDigit := fun c hc =>
    List.all_eq_true.mp List.all_takeWhile c hc
  have hlength : (leadingDigits most cs).length ≤ most :=
    (List.takeWhile_prefix _).length_le.trans (List.length_take_le _ _)
  simp only [readNumber] at h
  split at h
  · cases h
  · cases h
    exact (digitsValue_lt hdigits).trans_le (Nat.pow_le_pow_right (by decide) hlength)

/-- The text does not begin with a sign. -/
def IsUnsigned (cs : List Char) : Prop :=
  cs.head? ≠ some '+' ∧ cs.head? ≠ some '-'

instance (cs : List Char) : Decidable (IsUnsigned cs) := by
  unfold IsUnsigned; infer_instance

/-- No blank stands before a text whose blanks at the ends are taken off. -/
theorem trimLeft_trim (cs : List Char) : trimLeft (trim cs) = trim cs := by
  have hprefix : trim cs <+: trimLeft cs := by
    have := List.reverse_prefix.mpr (List.dropWhile_suffix isBlank (l := (trimLeft cs).reverse))
    rwa [List.reverse_reverse] at this
  cases htrim : trim cs with
  | nil => rfl
  | cons c rest =>
    rw [htrim] at hprefix
    obtain ⟨tail, htail⟩ := hprefix
    have hc : isBlank c = false := by
      have := List.head?_dropWhile_not isBlank cs
      rw [trimLeft] at htail
      rw [← htail] at this
      simpa using this
    exact List.dropWhile_cons_of_neg (by simp [hc])

/-- A year without a sign has at most four digits. -/
theorem readYear_bounds {cs rest : List Char} {year : Int} (hunsigned : IsUnsigned cs)
    (hblank : trimLeft cs = cs) (h : readYear cs = some (year, rest)) :
    0 ≤ year ∧ year ≤ 9999 := by
  rw [readYear, hblank] at h
  split at h
  · exact absurd rfl hunsigned.2
  · exact absurd rfl hunsigned.1
  · obtain ⟨⟨n, rest⟩, hn, h⟩ := Option.map_eq_some_iff.mp h
    cases h
    have : n < 10000 := readNumber_lt hn
    omega

theorem year_of_ofParts? {year : Int} {month day : Nat} {d : Date}
    (h : Date.ofParts? year month day = some d) : d.year = year := by
  unfold Date.ofParts? at h
  split at h
  · cases h
    rfl
  · cases h

theorem whole_eq_some {α : Type} {x : Option (α × List Char)} {value : α}
    (h : whole x = some value) : x = some (value, []) := by
  unfold whole at h
  split at h
  · cases h
    rfl
  · cases h

theorem hasPlainYear_of_readDate {cs rest : List Char} {d : Date} (hunsigned : IsUnsigned cs)
    (hblank : trimLeft cs = cs) (h : readDate cs = some (d, rest)) : d.HasPlainYear := by
  simp only [readDate, Option.bind_eq_bind, Option.bind_eq_some_iff, Option.pure_def,
    Option.some.injEq, Prod.exists, Prod.mk.injEq] at h
  obtain ⟨year, _, hyear, _, _, _, month, _, _, _, _, _, day, _, _, d', hd, rfl, _⟩ := h
  rw [Date.HasPlainYear, year_of_ofParts? hd]
  exact readYear_bounds hunsigned hblank hyear

/-- A time of day lies within the day. -/
theorem readTime_lt {part : Reading Nat} {cs rest : List Char} {second : Nat}
    (h : readTime part cs = some (second, rest)) : second < daySeconds := by
  simp only [readTime, Option.bind_eq_bind, Option.bind_eq_some_iff, Prod.exists] at h
  obtain ⟨hour, _, _, _, _, _, minute, _, _, _, _, _, leap, _, _, h⟩ := h
  split at h
  · rename_i htime
    obtain ⟨_, _, h⟩ := Option.bind_eq_some_iff.mp h
    cases h
    simp only [isTimeOfDay, Bool.and_eq_true, decide_eq_true_eq] at htime
    simp only [secondOfDay, daySeconds]
    omega
  · cases h

/-- The strict form has a year of four digits. -/
theorem hasPlainYear_of_readInstant? {cs : List Char} {d : Date} (h : readInstant? cs = some d) :
    d.HasPlainYear := by
  obtain ⟨i, hread, hday⟩ := Option.bind_eq_some_iff.mp h
  have hread := whole_eq_some hread
  simp only [readInstant, Option.bind_eq_bind, Option.bind_eq_some_iff, Option.pure_def,
    Option.some.injEq, Prod.exists, Prod.mk.injEq] at hread
  obtain ⟨year, _, hyear, _, _, _, month, _, _, _, _, _, day, _, _, d', hd, _, _, _, second, _,
    hsecond, offset, _, _, rfl, _⟩ := hread
  rw [Instant.localDay?_shown d' (readTime_lt hsecond)] at hday
  cases hday
  have : year < 10000 := readNumber_lt hyear
  have := year_of_ofParts? hd
  unfold Date.HasPlainYear
  omega

/-- **An end of a range that has no sign has a plain year**, whichever of the forms it is in. -/
theorem hasPlainYear_of_parseBound {text : String} {d : Date}
    (hunsigned : IsUnsigned (trim text.toList)) (h : parseBound text = .ok d) :
    d.HasPlainYear := by
  have hblank := trimLeft_trim text.toList
  simp only [parseBound] at h
  split at h
  · rename_i day hday
    cases h
    rcases (Option.orElse_eq_some ..).mp hday with hday | ⟨-, hday⟩
    · exact hasPlainYear_of_readDate hunsigned hblank (whole_eq_some hday)
    · rcases (Option.orElse_eq_some ..).mp hday with htime | ⟨-, hinstant⟩
      · have htime := whole_eq_some htime
        simp only [Option.bind_eq_bind, Option.bind_eq_some_iff, Option.pure_def,
          Option.some.injEq, Prod.exists, Prod.mk.injEq] at htime
        obtain ⟨_, _, hdate, _, _, _, _, _, _, rfl, _⟩ := htime
        exact hasPlainYear_of_readDate hunsigned hblank hdate
      · exact hasPlainYear_of_readInstant? hinstant
  · cases h

end Calendar

/-! ## Accepted documents -/

open Calendar

theorem range_of_toRequest {record : RequestRecord} {r : Request}
    (h : record.toRequest = .ok r) :
    parseBound record.range.first = .ok r.range.first ∧
      parseBound record.range.last = .ok r.range.last := by
  obtain ⟨range, hrange, h⟩ := bind_eq_ok.mp h
  obtain ⟨_, _, h⟩ := bind_eq_ok.mp h
  obtain ⟨_, _, h⟩ := bind_eq_ok.mp h
  cases h
  obtain ⟨first, hfirst, hrange⟩ := bind_eq_ok.mp hrange
  obtain ⟨last, hlast, hrange⟩ := bind_eq_ok.mp hrange
  unfold DayRange.between at hrange
  split at hrange
  · cases hrange
    exact ⟨hfirst, hlast⟩
  · cases hrange

theorem ofText_eq_ok {text : String} {r : Request} (h : Request.ofText text = .ok r) :
    ∃ record, decode RequestRecord.read text = .ok record ∧ record.toRequest = .ok r := by
  unfold Request.ofText at h
  split at h
  · exact ⟨_, by assumption, h⟩
  · cases h

/-- **The condition of an accepted document has eight digits for each end without a sign**, and for
an end with a sign exactly if its year is plain all the same. Two ends of eight digits are in the
order of their bytes. -/
theorem ofText_suffixPredicate {text : String} {r : Request} (h : Request.ofText text = .ok r) :
    ∃ (record : RequestRecord) (low high : String),
      decode RequestRecord.read text = .ok record ∧
      r.range.suffixPredicate = "_TABLE_SUFFIX BETWEEN '" ++ low ++ "' AND '" ++ high ++ "'" ∧
      (IsDayText low ↔ r.range.first.HasPlainYear) ∧
      (IsDayText high ↔ r.range.last.HasPlainYear) ∧
      (IsUnsigned (trim record.range.first.toList) → IsDayText low) ∧
      (IsUnsigned (trim record.range.last.toList) → IsDayText high) ∧
      (IsDayText low → IsDayText high → bytes low ≤ bytes high) := by
  obtain ⟨record, hrecord, hrequest⟩ := ofText_eq_ok h
  obtain ⟨hfirst, hlast⟩ := range_of_toRequest hrequest
  have hlow := Date.isDayText_compact_iff r.range.first
  have hhigh := Date.isDayText_compact_iff r.range.last
  exact ⟨record, _, _, hrecord, rfl, hlow, hhigh,
    fun hunsigned => hlow.mpr (hasPlainYear_of_parseBound hunsigned hfirst),
    fun hunsigned => hhigh.mpr (hasPlainYear_of_parseBound hunsigned hlast),
    fun hplain hplain' => (Date.bytes_compact_le_iff (hlow.mp hplain) (hhigh.mp hplain')).mpr
      r.range.first_le_last⟩

/-- A document whose range ends with a time of day. -/
def timestampDocument : String :=
  "\x7b\"dateRange\": \x7b\"start\": \" 24-1-5 \", \"end\": \"2024-02-29T23:59:59+02:00\"\x7d\x7d"

/-- A short date and a time of day with an offset become days of eight digits. -/
theorem ofText_suffixPredicate_timestamp :
    ∃ r low high, Request.ofText timestampDocument = .ok r ∧
      r.range.suffixPredicate = "_TABLE_SUFFIX BETWEEN '" ++ low ++ "' AND '" ++ high ++ "'" ∧
      IsDayText low ∧ IsDayText high ∧ bytes low ≤ bytes high := by
  have haccepted : (Request.ofText timestampDocument).isOk = true := by decide +kernel
  have hrange : (decode RequestRecord.read timestampDocument).toOption.map (·.range) =
      some ⟨" 24-1-5 ", "2024-02-29T23:59:59+02:00"⟩ := by decide +kernel
  cases hr : Request.ofText timestampDocument with
  | error e => rw [hr] at haccepted; cases haccepted
  | ok r =>
    obtain ⟨record, low, high, hrecord, hcondition, -, -, hlow, hhigh, hle⟩ :=
      ofText_suffixPredicate hr
    rw [hrecord] at hrange
    have hends : record.range = _ := Option.some.inj hrange
    rw [hends] at hlow hhigh
    have hlow := hlow (by decide)
    have hhigh := hhigh (by decide)
    exact ⟨r, low, high, rfl, hcondition, hlow, hhigh, hle hlow hhigh⟩

/-- A document whose range ends in a year of five digits, which has a sign. -/
def signedYearDocument : String :=
  "\x7b\"metrics\":[\x7b\"apiName\":\"events\"\x7d]," ++
    "\"dateRange\":\x7b\"start\":\"2024-01-01\",\"end\":\"+12024-01-01\"\x7d\x7d"

/-- The document is accepted, its condition has a sign among its digits, and it picks no table, not
even that of the first day. -/
theorem ofText_signedYear :
    ∃ r, Request.ofText signedYearDocument = .ok r ∧
      r.range.suffixPredicate = "_TABLE_SUFFIX BETWEEN '20240101' AND '+120240101'" ∧
      (¬ ∃ low high, IsDayText low ∧ IsDayText high ∧
        r.range.suffixPredicate = "_TABLE_SUFFIX BETWEEN '" ++ low ++ "' AND '" ++ high ++ "'") ∧
      ¬ bytes "20240101" ≤ bytes "+120240101" ∧
      ∀ suffix, ¬ Picks r.range.suffixPredicate suffix := by
  have hrange : (Request.ofText signedYearDocument).toOption.map (·.range) =
      some ⟨⟨2024, 1, 1, by decide⟩, ⟨12024, 1, 1, by decide⟩, by decide⟩ := by decide +kernel
  cases hr : Request.ofText signedYearDocument with
  | error e => rw [hr] at hrange; cases hrange
  | ok r =>
    rw [hr] at hrange
    have hends : r.range = _ := Option.some.inj hrange
    have htext : r.range.suffixPredicate =
        "_TABLE_SUFFIX BETWEEN '20240101' AND '+120240101'" := by
      rw [hends]
      decide
    refine ⟨r, rfl, htext, ?_, by decide, not_picks_of_signed ?_ ?_⟩
    · rintro ⟨low, high, ⟨hlow, -⟩, ⟨hhigh, -⟩, h⟩
      have := congrArg (fun s => s.toList.length) (htext.symm.trans h)
      simp [hlow, hhigh] at this
    · rw [hends]
      decide
    · rw [hends]
      decide

end EventReport
