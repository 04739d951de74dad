import EventReport.Proofs.Report.Tokens

/-! # The tables of a range of days

The condition of a range on the suffix of a table compares texts, while a range holds days.
`Picks` says which suffixes a condition lets through, by the bytes of the texts between its quotes.
A day whose year has four digits and no sign (`Date.HasPlainYear`) is written with eight digits,
which are ordered by their bytes as the days are (`Date.bytes_compact_le_iff`), so the condition
picks the suffixes of the days of the range and of no others (`suffixPredicate_picks`). -/

set_option autoImplicit false

namespace EventReport

open Number Sql Text

/-! ## Bytes of digits -/

namespace Text

/-- The bytes of a text, which the lexicographic order of lists compares one by one. -/
def bytes (s : String) : List UInt8 :=
  s.toByteArray.data.toList

/-- A character of ASCII is one byte. -/
theorem bytes_cons {c : Char} (h : c.toNat ≤ 127) (cs : List Char) :
    bytes (String.ofList (c :: cs)) = UInt8.ofNat c.toNat :: bytes (String.ofList cs) := by
  have hascii : c.val ≤ 127 := UInt32.le_iff_toNat_le.mpr h
  have hchar : String.utf8EncodeChar c = [UInt8.ofNat c.toNat] :=
    String.utf8EncodeChar_eq_singleton (Char.utf8Size_eq_one_iff.mpr hascii)
  simp [bytes, List.utf8Encode_singleton, hchar]

theorem ofNat_lt_iff {a b : Nat} (ha : a < 256) (hb : b < 256) :
    UInt8.ofNat a < UInt8.ofNat b ↔ a < b := by
  rw [UInt8.lt_iff_toNat_lt, UInt8.toNat_ofNat_of_lt' ha, UInt8.toNat_ofNat_of_lt' hb]

theorem ofNat_inj {a b : Nat} (ha : a < 256) (hb : b < 256) :
    UInt8.ofNat a = UInt8.ofNat b ↔ a = b := by
  rw [← UInt8.toNat_inj, UInt8.toNat_ofNat_of_lt' ha, UInt8.toNat_ofNat_of_lt' hb]

/-- **Digits of one length are ordered by their bytes as by their value.** -/
theorem bytes_le_bytes_iff : ∀ {as bs : List Char}, (∀ c ∈ as, c.isDigit) →
    (∀ c ∈ bs, c.isDigit) → as.length = bs.length →
    (bytes (String.ofList as) ≤ bytes (String.ofList bs) ↔ digitsValue as ≤ digitsValue bs)
  | [], [], _, _, _ => by simp
  | [], _ :: _, _, _, h => nomatch h
  | _ :: _, [], _, _, h => nomatch h
  | a :: as, b :: bs, ha, hb, hlength => by
    obtain ⟨ha, has⟩ := List.forall_mem_cons.mp ha
    obtain ⟨hb, hbs⟩ := List.forall_mem_cons.mp hb
    have hlen : as.length = bs.length := Nat.succ.inj hlength
    obtain ⟨ha48, ha57⟩ := isDigit_bounds ha
    obtain ⟨hb48, hb57⟩ := isDigit_bounds hb
    have hvas := digitsValue_lt has
    have hvbs := digitsValue_lt hbs
    rw [bytes_cons (by omega), bytes_cons (by omega), List.cons_le_cons_iff,
      bytes_le_bytes_iff has hbs hlen, ofNat_lt_iff (by omega) (by omega),
      ofNat_inj (by omega) (by omega), digitsValue_cons, digitsValue_cons]
    rw [hlen] at hvas ⊢
    -- The first digits decide unless they are equal: what follows is less than one of their steps.
    generalize Nat.pow 10 bs.length = place at *
    rcases Nat.lt_trichotomy a.toNat b.toNat with hab | hab | hab
    · have := Nat.mul_le_mul_left place (show a.toNat - 48 + 1 ≤ b.toNat - 48 by omega)
      rw [Nat.mul_add] at this
      omega
    · rw [hab]
      omega
    · have := Nat.mul_le_mul_left place (show b.toNat - 48 + 1 ≤ a.toNat - 48 by omega)
      rw [Nat.mul_add] at this
      omega

end Text

/-! ## Days as eight digits -/

namespace Calendar

theorem isDigit_iff {c : Char} : c.isDigit ↔ '0' ≤ c ∧ c ≤ '9' := by
  simp [Char.isDigit, Char.le_def]

/-- The text has eight digits and nothing else. -/
def IsDayText (s : String) : Prop :=
  s.toList.length = 8 ∧ ∀ c ∈ s.toList, '0' ≤ c ∧ c ≤ '9'

namespace Date

/-- The year is written with four digits and no sign. -/
def HasPlainYear (d : Date) : Prop :=
  0 ≤ d.year ∧ d.year ≤ 9999

instance (d : Date) : Decidable d.HasPlainYear := by
  unfold HasPlainYear; infer_instance

theorem HasPlainYear.natAbs_le {d : Date} (h : d.HasPlainYear) : d.year.natAbs ≤ 9999 := by
  obtain ⟨hlow, hhigh⟩ := h
  omega

theorem HasPlainYear.writtenYear_eq {d : Date} (h : d.HasPlainYear) :
    writtenYear d.year = fourDigits d.year.natAbs := by
  obtain ⟨hlow, hhigh⟩ := h
  rw [writtenYear, if_neg (by omega), if_pos hhigh]

theorem compact_eq {d : Date} (h : d.HasPlainYear) :
    d.compact = fourDigits d.year.natAbs ++ twoDigits d.month ++ twoDigits d.day := by
  rw [compact, h.writtenYear_eq]

theorem isDigit_compact {d : Date} (h : d.HasPlainYear) : ∀ c ∈ d.compact, c.isDigit := by
  rw [compact_eq h]
  simp only [List.forall_mem_append]
  exact ⟨⟨isDigit_fourDigits _, isDigit_twoDigits _⟩, isDigit_twoDigits _⟩

theorem length_compact {d : Date} (h : d.HasPlainYear) : d.compact.length = 8 := by
  rw [compact_eq h]
  rfl

/-- A day is written with eight digits exactly if its year is plain; any other year has a sign. -/
theorem isDayText_compact_iff (d : Date) :
    IsDayText (String.ofList d.compact) ↔ d.HasPlainYear := by
  rw [IsDayText, String.toList_ofList]
  constructor
  · rintro ⟨-, hdigits⟩
    have hfirst : ∀ c cs, writtenYear d.year = c :: cs → '0' ≤ c := fun c cs h =>
      (hdigits c (by rw [compact, h]; exact List.mem_cons_self)).1
    unfold writtenYear at hfirst
    split at hfirst
    · exact absurd (hfirst '-' _ rfl) (by decide)
    · split at hfirst
      · exact ⟨by omega, by assumption⟩
      · exact absurd (hfirst '+' _ rfl) (by decide)
  · intro h
    exact ⟨length_compact h, fun c hc => isDigit_iff.mp (isDigit_compact h c hc)⟩

/-- The eight digits as a number. -/
theorem digitsValue_compact {d : Date} (h : d.HasPlainYear) :
    digitsValue d.compact = d.year.natAbs * 10000 + d.month * 100 + d.day := by
  obtain ⟨-, -, -, hmonth, -, hday⟩ := d.isDate
  have hdays := daysIn_le d.year d.month
  have hplace : ∀ n, Nat.pow 10 (twoDigits n).length = 100 := fun _ => rfl
  rw [compact_eq h, digitsValue_append, digitsValue_append, hplace, hplace,
    digitsValue_fourDigits h.natAbs_le, digitsValue_twoDigits (by omega),
    digitsValue_twoDigits (by omega)]
  omega

/-- Days with plain years are ordered as the bytes of their digits are. -/
theorem bytes_compact_le_iff {a b : Date} (ha : a.HasPlainYear) (hb : b.HasPlainYear) :
    bytes (String.ofList a.compact) ≤ bytes (String.ofList b.compact) ↔ a ≤ b := by
  rw [bytes_le_bytes_iff (isDigit_compact ha) (isDigit_compact hb)
    ((length_compact ha).trans (length_compact hb).symm), digitsValue_compact ha,
    digitsValue_compact hb]
  obtain ⟨-, -, -, hma, -, hda⟩ := a.isDate
  obtain ⟨-, -, -, hmb, -, hdb⟩ := b.isDate
  have := daysIn_le a.year a.month
  have := daysIn_le b.year b.month
  have hya : (a.year.natAbs : Int) = a.year := Int.natAbs_of_nonneg ha.1
  have hyb : (b.year.natAbs : Int) = b.year := Int.natAbs_of_nonneg hb.1
  change _ ↔ Date.le a b
  unfold Date.le
  omega

end Date

/-! ## The tables of a range -/

/-- The condition picks the tables with the suffix: read as a part of a statement it asks for a
suffix between two texts, and the bytes of the suffix lie between the bytes of these. -/
def Picks (condition suffix : String) : Prop :=
  ∃ low high,
    tokens? true condition = some [.word "_TABLE_SUFFIX", .blank, .word "BETWEEN", .blank,
      .literal ("'" ++ low ++ "'"), .blank, .word "AND", .blank, .literal ("'" ++ high ++ "'")] ∧
    bytes low ≤ bytes suffix ∧ bytes suffix ≤ bytes high

theorem picks_suffixPredicate_iff (r : DayRange) (suffix : String) :
    Picks r.suffixPredicate suffix ↔
      bytes (String.ofList r.first.compact) ≤ bytes suffix ∧
        bytes suffix ≤ bytes (String.ofList r.last.compact) := by
  have hread := tokens?_of_spells (r.spells true)
  constructor
  · rintro ⟨low, high, htokens, hlow, hhigh⟩
    rw [hread] at htokens
    simp only [DayRange.suffixTokens, Date.literal, Option.some.injEq, List.cons.injEq, true_and,
      Token.literal.injEq, String.append_left_inj, String.append_right_inj, and_true] at htokens
    obtain ⟨rfl, rfl⟩ := htokens
    exact ⟨hlow, hhigh⟩
  · rintro ⟨hlow, hhigh⟩
    exact ⟨_, _, hread, hlow, hhigh⟩

/-- **The condition of a range picks the tables of its days and no others.** The ends of the range
and the day whose table it is have years from 0 to 9999. -/
theorem suffixPredicate_picks {r : DayRange} (hfirst : r.first.HasPlainYear)
    (hlast : r.last.HasPlainYear) {d : Date} (hd : d.HasPlainYear) :
    Picks r.suffixPredicate (String.ofList d.compact) ↔ r.first ≤ d ∧ d ≤ r.last := by
  rw [picks_suffixPredicate_iff, Date.bytes_compact_le_iff hfirst hd,
    Date.bytes_compact_le_iff hd hlast]

/-- From the last day of a year to the leap day of the next one. -/
theorem suffixPredicate_picks_leapDay :
    let r : DayRange := ⟨⟨2023, 12, 31, by decide⟩, ⟨2024, 2, 29, by decide⟩, by decide⟩
    Picks r.suffixPredicate "20240229" ∧ ¬ Picks r.suffixPredicate "20240301" := by
  intro r
  have hfirst : r.first.HasPlainYear := by decide
  have hlast : r.last.HasPlainYear := by decide
  have hleap : "20240229" = String.ofList (Date.compact ⟨2024, 2, 29, by decide⟩) := by decide
  have hnext : "20240301" = String.ofList (Date.compact ⟨2024, 3, 1, by decide⟩) := by decide
  rw [hleap, hnext, suffixPredicate_picks hfirst hlast (by decide),
    suffixPredicate_picks hfirst hlast (by decide)]
  decide

/-- A sign comes before every digit. So a range that ends in a year with a sign but begins in one
without picks no table at all. -/
theorem not_picks_of_signed {r : DayRange} (hfirst : r.first.HasPlainYear)
    (hlast : ¬ r.last.HasPlainYear) (suffix : String) : ¬ Picks r.suffixPredicate suffix := by
  rw [picks_suffixPredicate_iff]
  rintro ⟨hlow, hhigh⟩
  have hle : bytes (String.ofList r.first.compact) ≤ bytes (String.ofList r.last.compact) :=
    List.le_trans hlow hhigh
  obtain ⟨c, cs, hcs⟩ : ∃ c cs, r.first.compact = c :: cs :=
    List.exists_cons_of_length_pos (by rw [Date.length_compact hfirst]; decide)
  have hc : c.isDigit := Date.isDigit_compact hfirst c (by rw [hcs]; exact List.mem_cons_self)
  have hc := isDigit_bounds hc
  have hyear : 9999 < r.last.year := by
    have := r.first_le_last
    change Date.le _ _ at this
    unfold Date.le at this
    unfold Date.HasPlainYear at hfirst hlast
    omega
  obtain ⟨ds, hds⟩ : ∃ ds, r.last.compact = '+' :: ds :=
    ⟨_, by rw [Date.compact, writtenYear, if_neg (by omega), if_neg (by omega)]; rfl⟩
  rw [hcs, hds, bytes_cons (by omega), bytes_cons (by decide), List.cons_le_cons_iff,
    ofNat_lt_iff (by omega) (by decide), ofNat_inj (by omega) (by decide)] at hle
  have : '+'.toNat = 43 := rfl
  omega

end Calendar

end EventReport
