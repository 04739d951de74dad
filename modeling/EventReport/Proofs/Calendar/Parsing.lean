import EventReport.Proofs.Calendar.Written
import EventReport.Proofs.Outcome
import EventReport.Proofs.Text.Lowercase
import EventReport.Proofs.Text.Trim
import EventReport.Wire.Request

/-! # Ranges that a user writes

`DayRange.parse` tries the forms of a range one after the other. Which form a text has can be told
from its last character and its commas: the words end in a `y` (`not_word`), a count in its unit
(`readCount?_eq_none`), and two days have a comma between them (`splitAtComma?_append`).

So two written days with a comma between are read back as the range between them, whatever blanks
stand around them, and so are the ends of a range in a document (`parse_written`). -/

set_option autoImplicit false

namespace EventReport.Calendar

open Number Text

/-! ## The forms of a range -/

namespace DayRange

theorem splitAtComma?_append {first : List Char} (h : ',' ∉ first) (last : List Char) :
    splitAtComma? (first ++ ',' :: last) = some (first, last) := by
  have hfirst : ∀ c ∈ first, (decide (c ≠ ',')) = true := by
    intro c hc
    simp only [decide_eq_true_eq]
    rintro rfl
    exact h hc
  rw [splitAtComma?, List.dropWhile_append_of_pos hfirst, List.takeWhile_append_of_pos hfirst]
  simp

theorem splitAtComma?_eq_none {cs : List Char} (h : ',' ∉ cs) : splitAtComma? cs = none := by
  have hnil : cs.dropWhile (· ≠ ',') = [] := by
    rw [List.dropWhile_eq_nil_iff]
    intro c hc
    simp only [decide_eq_true_eq]
    rintro rfl
    exact h hc
  rw [splitAtComma?, hnil]

/-- The words that stand for a range end in the same letter. -/
theorem not_word {cs : List Char} (h : cs.getLast? ≠ some 'y') :
    String.ofList cs ≠ "today" ∧ String.ofList cs ≠ "yesterday" := by
  constructor
  · intro hword
    rw [← String.toList_inj, String.toList_ofList] at hword
    exact h (by rw [hword]; decide)
  · intro hword
    rw [← String.toList_inj, String.toList_ofList] at hword
    exact h (by rw [hword]; decide)

section Forms

variable {today : Date} {text : String} {cs : List Char}
  (hcs : lowercase (trim text.toList) = cs) (hlast : cs.getLast? ≠ some 'y')
include hcs hlast

theorem parse_of_count {count unit : Nat} (hcount : readCount? cs = some (count, unit)) :
    parse today text = lastDays today count unit (String.ofList cs) := by
  obtain ⟨htoday, hyesterday⟩ := not_word hlast
  simp only [parse, hcs, htoday, hyesterday, hcount, if_false]

theorem parse_of_days {first last : List Char} (hcount : readCount? cs = none)
    (hdays : splitAtComma? cs = some (first, last)) :
    parse today text = (do
      let first ← parseDay first
      let last ← parseDay last
      between first last) := by
  obtain ⟨htoday, hyesterday⟩ := not_word hlast
  simp only [parse, hcs, htoday, hyesterday, hcount, hdays, if_false]

theorem parse_of_unknown (hcount : readCount? cs = none) (hdays : splitAtComma? cs = none) :
    parse today text = .error (.invalidRange (.unknownFormat (String.ofList cs))) := by
  obtain ⟨htoday, hyesterday⟩ := not_word hlast
  simp only [parse, hcs, htoday, hyesterday, hcount, hdays, if_false]
  rfl

end Forms

/-- A text whose last character is no unit is no count. -/
theorem readCount?_eq_none {cs : List Char} (h : ∀ c ∈ cs.getLast?, unitDays? c = none) :
    readCount? cs = none := by
  unfold readCount?
  cases hlast : cs.getLast? with
  | none => rfl
  | some c =>
    have hunit : unitDays? c = none := h c hlast
    cases readWord? cs.dropLast <;> simp [hunit]

end DayRange

/-! ## Written days among blanks -/

/-- A written date ends in a digit. -/
theorem isDigit_getLast?_dashed (d : Date) : ∀ c ∈ d.dashed.getLast?, c.isDigit := by
  intro c hc
  have hlast : d.dashed.getLast? = some (digit (d.day % 10)) := by
    simp [Date.dashed, twoDigits]
  rw [hlast] at hc
  cases hc
  exact isDigit_digit (by omega)

theorem unitDays?_of_isDigit {c : Char} (h : c.isDigit) : DayRange.unitDays? c = none := by
  unfold DayRange.unitDays?
  split
  · exact absurd h (by decide)
  · exact absurd h (by decide)
  · rfl

theorem isSmall_of_isDigit {c : Char} (h : c.isDigit) : IsSmall c := by
  have hc := isDigit_bounds h
  have hcapital : 'A'.toNat = 65 := rfl
  exact isSmall_of_ascii (by omega) (by omega)

theorem isSmall_of_mem_dashed {d : Date} {c : Char} (h : c ∈ d.dashed) : IsSmall c := by
  rcases mem_dashed h with (rfl | rfl) | hdigit
  · decide +kernel
  · decide +kernel
  · exact isSmall_of_isDigit hdigit

/-- There is no comma in a written date or in the blanks around it. -/
theorem comma_notMem_of_trims {cs : List Char} {d : Date} (h : Trims cs d.dashed) : ',' ∉ cs := by
  obtain ⟨⟨before, after, rfl, hbefore, hafter⟩, -, -⟩ := h
  simp only [List.mem_append, not_or]
  refine ⟨fun hc => absurd (hbefore _ hc) (by decide), fun hc => ?_,
    fun hc => absurd (hafter _ hc) (by decide)⟩
  rcases mem_dashed hc with (hc | hc) | hc <;> exact absurd hc (by decide)

theorem parseDay_of_trims {cs : List Char} {d : Date} (h : Trims cs d.dashed) :
    DayRange.parseDay cs = .ok d := by
  rw [DayRange.parseDay, h.trim_eq, readDay?_dashed]
  rfl

/-- A day that a document gives may have blanks around it. -/
theorem parseBound_of_trims {cs : List Char} {d : Date} (h : Trims cs d.dashed) :
    parseBound (String.ofList cs) = .ok d := by
  rw [parseBound, String.toList_ofList, h.trim_eq, readDay?_dashed]
  rfl

theorem isSmall_of_trims {cs : List Char} {d : Date} (h : Trims cs d.dashed) :
    ∀ c ∈ cs, IsSmall c := by
  obtain ⟨⟨before, after, rfl, hbefore, hafter⟩, -, -⟩ := h
  intro c hc
  simp only [List.mem_append] at hc
  rcases hc with hc | hc | hc
  · exact isSmall_of_isBlank (hbefore c hc)
  · exact isSmall_of_mem_dashed hc
  · exact isSmall_of_isBlank (hafter c hc)

/-- Of the blanks around two written days only those at the ends are taken off. -/
theorem trim_days {first last : List Char} {d e : Date} (hfirst : Trims first d.dashed)
    (hlast : Trims last e.dashed) :
    ∃ first' last', trim (first ++ ',' :: last) = first' ++ ',' :: last' ∧
      Trims first' d.dashed ∧ Trims last' e.dashed ∧
      (first' ++ ',' :: last').getLast? = e.dashed.getLast? := by
  obtain ⟨⟨before, between, rfl, hbefore, hbetween⟩, hhead, hend⟩ := hfirst
  obtain ⟨⟨between', after, rfl, hbetween', hafter⟩, hhead', hend'⟩ := hlast
  have hd : d.dashed ≠ [] := by simp [Date.dashed]
  have he : e.dashed ≠ [] := by simp [Date.dashed]
  have hfinal : (d.dashed ++ between ++ ',' :: (between' ++ e.dashed)).getLast? =
      e.dashed.getLast? := by
    rw [← List.cons_append, ← List.append_assoc, List.getLast?_append_of_ne_nil _ he]
  refine ⟨d.dashed ++ between, between' ++ e.dashed, Trims.trim_eq ⟨?_, ?_, ?_⟩,
    ⟨⟨[], between, rfl, List.forall_mem_nil _, hbetween⟩, hhead, hend⟩,
    ⟨⟨between', [], by simp, hbetween', List.forall_mem_nil _⟩, hhead', hend'⟩, hfinal⟩
  · exact ⟨before, after, by simp, hbefore, hafter⟩
  · simpa [List.head?_append_of_ne_nil _ hd] using hhead
  · rwa [hfinal]

/-- **A written range is read back.** Two written days with a comma between are read as the range
from one to the other, whatever blanks stand around each of them and whatever day is today. As the
ends of the range of a document they give the same range. -/
theorem DayRange.parse_written (today : Date) {r : DayRange} {first last : List Char}
    (hfirst : Trims first r.first.dashed) (hlast : Trims last r.last.dashed) :
    parse today (String.ofList (first ++ ',' :: last)) = .ok r ∧
      parseBound (String.ofList first) = .ok r.first ∧
      parseBound (String.ofList last) = .ok r.last ∧
      RangeRecord.toRange ⟨String.ofList first, String.ofList last⟩ = .ok r := by
  have hbetween : between r.first r.last = .ok r := dif_pos r.first_le_last
  have hbound := parseBound_of_trims hfirst
  have hbound' := parseBound_of_trims hlast
  obtain ⟨first', last', htrim, hfirst', hlast', hend⟩ := trim_days hfirst hlast
  have hdigit : ∀ c ∈ (first' ++ ',' :: last').getLast?, c.isDigit := by
    rw [hend]
    exact isDigit_getLast?_dashed r.last
  have hsmall : lowercase (trim (String.ofList (first ++ ',' :: last)).toList) =
      first' ++ ',' :: last' := by
    rw [String.toList_ofList, htrim]
    apply lowercase_eq_self
    intro c hc
    rcases List.mem_append.mp hc with hc | hc
    · exact isSmall_of_trims hfirst' c hc
    · rcases List.mem_cons.mp hc with rfl | hc
      · decide +kernel
      · exact isSmall_of_trims hlast' c hc
  refine ⟨?_, hbound, hbound', ?_⟩
  · rw [parse_of_days hsmall (fun hy => absurd (hdigit _ hy) (by decide))
      (readCount?_eq_none fun c hc => unitDays?_of_isDigit (hdigit c hc))
      (splitAtComma?_append (comma_notMem_of_trims hfirst') last'),
      parseDay_of_trims hfirst', parseDay_of_trims hlast']
    exact hbetween
  · rw [RangeRecord.toRange, hbound, hbound']
    exact hbetween

/-- From a leap day before the year zero to one of a year of five digits. -/
theorem DayRange.parse_written_leapDays :
    let r : DayRange := ⟨⟨-4, 2, 29, by decide⟩, ⟨12024, 2, 29, by decide⟩, by decide⟩
    let today : Date := ⟨2026, 1, 15, by decide⟩
    parse today "\u3000-0004-02-29\t,\n +12024-02-29 " = .ok r ∧
      RangeRecord.toRange ⟨"\u3000-0004-02-29\t", "\n +12024-02-29 "⟩ = .ok r := by
  intro r today
  have hfirst : Trims "\u3000-0004-02-29\t".toList r.first.dashed := trim_eq_iff.mp (by decide)
  have hlast : Trims "\n +12024-02-29 ".toList r.last.dashed := trim_eq_iff.mp (by decide)
  obtain ⟨hparse, -, -, hrecord⟩ := parse_written today hfirst hlast
  exact ⟨hparse, hrecord⟩

end EventReport.Calendar
