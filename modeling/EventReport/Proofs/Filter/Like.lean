import Mathlib.Data.List.Infix
import EventReport.Filter.Predicate
import EventReport.Proofs.Sql.Literal

/-! # What LIKE matches

`LikeMatches` says which texts a pattern matches, and `literalValue?` which pattern a literal stands
for. The pattern of a value between wildcards has every character of the value stand for itself
(`likeMatches_flatMap`), and the literal of the pattern, in which each of its backslashes is two,
reads back as it (`literalValue?_pattern`). So the tests for the beginning, the end and a part of a
text match the texts that begin with the value, end with it and contain it (`compile_like`). -/

set_option autoImplicit false

namespace EventReport

open Sql

/-! ## Literals -/

namespace Sql

/-- Reads on after the quote that opens a literal: the value up to the first quote that no backslash
takes along, and the text after it. A backslash stands for the character after it. -/
def takenBody? : List Char → Option (List Char × List Char)
  | [] => none
  | '\'' :: rest => some ([], rest)
  | '\\' :: [] => none
  | '\\' :: c :: rest => (takenBody? rest).map fun (value, after) => (c :: value, after)
  | c :: rest => (takenBody? rest).map fun (value, after) => (c :: value, after)

/-- The value of a literal that is the whole of a text. -/
def literalValue? (text : String) : Option String :=
  match text.toList with
  | '\'' :: rest =>
    match takenBody? rest with
    | some (value, []) => some (String.ofList value)
    | _ => none
  | _ => none

/-- The character of a pattern that stands for a character alone: a backslash takes the wildcards
and the backslash along. -/
def likeChar : Char → List Char
  | '\\' => ['\\', '\\']
  | '%' => ['\\', '%']
  | '_' => ['\\', '_']
  | c => [c]

theorem takenBody?_cons {c : Char} (hq : c ≠ '\'') (hb : c ≠ '\\') (rest : List Char) :
    takenBody? (c :: rest) = (takenBody? rest).map fun (value, after) => (c :: value, after) := by
  rw [takenBody?]
  · exact hq
  · exact fun h _ => hb h
  · exact fun _ _ h _ => hb h

/-- Characters that need no escape are read as they are. -/
theorem takenBody?_append {cs : List Char} (h : ∀ c ∈ cs, c ≠ '\'' ∧ c ≠ '\\')
    (rest : List Char) : takenBody? (cs ++ rest) =
      (takenBody? rest).map fun (value, after) => (cs ++ value, after) := by
  induction cs with
  | nil => simp
  | cons c cs ih =>
    obtain ⟨⟨hq, hb⟩, hcs⟩ := List.forall_mem_cons.mp h
    rw [List.cons_append, takenBody?_cons hq hb, ih hcs, Option.map_map]
    rfl

theorem likeChar_eq {c : Char} (h : c ∉ ['\\', '%', '_']) : likeChar c = [c] := by
  unfold likeChar
  split
  · simp at h
  · simp at h
  · simp at h
  · rfl

/-- What stands for a character in the literal of a pattern reads as what stands for it in the
pattern. -/
theorem takenBody?_escapePatternChar (c : Char) (rest : List Char) :
    takenBody? (escapePatternChar c ++ rest) =
      (takenBody? rest).map fun (value, after) => (likeChar c ++ value, after) := by
  by_cases hspecial : c ∈ ['\\', '\'', '%', '_']
  · simp only [List.mem_cons, List.not_mem_nil, or_false] at hspecial
    rcases hspecial with rfl | rfl | rfl | rfl <;>
      simp [escapePatternChar, likeChar, takenBody?, Function.comp_def]
  · rw [escapePatternChar_eq hspecial, List.singleton_append]
    simp only [List.mem_cons, List.not_mem_nil, or_false, not_or] at hspecial
    obtain ⟨hb, hq, hp, hu⟩ := hspecial
    rw [likeChar_eq (by simp [hb, hp, hu]), takenBody?_cons hq hb]
    rfl

/-- The value between the wildcards of a literal reads as a pattern that it alone matches. -/
theorem takenBody?_flatMap (value rest : List Char) :
    takenBody? (value.flatMap escapePatternChar ++ rest) =
      (takenBody? rest).map fun (pattern, after) => (value.flatMap likeChar ++ pattern, after) := by
  induction value with
  | nil => simp
  | cons c cs ih =>
    rw [List.flatMap_cons, List.append_assoc, takenBody?_escapePatternChar, ih, Option.map_map]
    simp [Function.comp_def]

/-- **The literal of a pattern reads back as the pattern.** -/
theorem literalValue?_pattern {before after : String}
    (hb : ∀ c ∈ before.toList, c ≠ '\'' ∧ c ≠ '\\') (ha : ∀ c ∈ after.toList, c ≠ '\'' ∧ c ≠ '\\')
    (value : String) : literalValue? (Quoting.escaped.pattern before value after) =
      some (String.ofList (before.toList ++ value.toList.flatMap likeChar ++ after.toList)) := by
  have htext : (Quoting.escaped.pattern before value after).toList =
      '\'' :: (before.toList ++ (value.toList.flatMap escapePatternChar ++
        (after.toList ++ ['\'']))) := by
    simp [Quoting.pattern, escapePattern]
  have hend : takenBody? ['\''] = some ([], []) := rfl
  rw [literalValue?, htext]
  simp only [takenBody?_append hb, takenBody?_flatMap, takenBody?_append ha, hend, Option.map_some]
  simp

/-! ## Patterns -/

/-- The pattern matches the text. A percent sign stands for any characters, an underscore for any
one character, a backslash for the character after it, and any other character for itself. -/
inductive LikeMatches : List Char → List Char → Prop
  | done : LikeMatches [] []
  | any (skipped : List Char) {pattern text : List Char} : LikeMatches pattern text →
      LikeMatches ('%' :: pattern) (skipped ++ text)
  | one (c : Char) {pattern text : List Char} : LikeMatches pattern text →
      LikeMatches ('_' :: pattern) (c :: text)
  | taken (c : Char) {pattern text : List Char} : LikeMatches pattern text →
      LikeMatches ('\\' :: c :: pattern) (c :: text)
  | same {c : Char} {pattern text : List Char} : c ∉ ['%', '_', '\\'] → LikeMatches pattern text →
      LikeMatches (c :: pattern) (c :: text)

theorem likeMatches_nil {text : List Char} : LikeMatches [] text ↔ text = [] := by
  constructor
  · rintro ⟨⟩
    rfl
  · rintro rfl
    exact .done

theorem likeMatches_any {pattern text : List Char} : LikeMatches ('%' :: pattern) text ↔
    ∃ skipped rest, text = skipped ++ rest ∧ LikeMatches pattern rest := by
  constructor
  · intro h
    cases h with
    | any skipped h => exact ⟨skipped, _, rfl, h⟩
    | same hc _ => simp at hc
  · rintro ⟨skipped, rest, rfl, h⟩
    exact .any skipped h

/-- What stands for a character in a pattern matches it alone. -/
theorem likeMatches_likeChar {c : Char} {pattern text : List Char} :
    LikeMatches (likeChar c ++ pattern) text ↔ ∃ rest, text = c :: rest ∧
      LikeMatches pattern rest := by
  by_cases hspecial : c ∈ ['\\', '%', '_']
  · have hchar : likeChar c = ['\\', c] := by
      simp only [List.mem_cons, List.not_mem_nil, or_false] at hspecial
      rcases hspecial with rfl | rfl | rfl <;> rfl
    rw [hchar]
    constructor
    · intro h
      cases h with
      | taken _ h => exact ⟨_, rfl, h⟩
      | same hc _ => simp at hc
    · rintro ⟨rest, rfl, h⟩
      exact .taken c h
  · rw [likeChar_eq hspecial]
    simp only [List.mem_cons, List.not_mem_nil, or_false, not_or] at hspecial
    obtain ⟨hb, hp, hu⟩ := hspecial
    constructor
    · intro h
      cases h with
      | any | one | taken => contradiction
      | same _ h => exact ⟨_, rfl, h⟩
    · rintro ⟨rest, rfl, h⟩
      exact .same (by simp [hb, hp, hu]) h

/-- **A value in a pattern matches itself alone.** -/
theorem likeMatches_flatMap {value pattern text : List Char} :
    LikeMatches (value.flatMap likeChar ++ pattern) text ↔
      ∃ rest, text = value ++ rest ∧ LikeMatches pattern rest := by
  induction value generalizing text with
  | nil => simp
  | cons c cs ih =>
    rw [List.flatMap_cons, List.append_assoc, likeMatches_likeChar]
    constructor
    · rintro ⟨after, rfl, hafter⟩
      obtain ⟨rest, rfl, h⟩ := ih.mp hafter
      exact ⟨rest, rfl, h⟩
    · rintro ⟨rest, rfl, h⟩
      exact ⟨cs ++ rest, rfl, ih.mpr ⟨rest, rfl, h⟩⟩

theorem likeMatches_prefix {value text : List Char} :
    LikeMatches (value.flatMap likeChar ++ ['%']) text ↔ value <+: text := by
  rw [likeMatches_flatMap]
  constructor
  · rintro ⟨rest, rfl, -⟩
    exact List.prefix_append value rest
  · rintro ⟨rest, rfl⟩
    exact ⟨rest, rfl, likeMatches_any.mpr ⟨rest, [], by simp, .done⟩⟩

theorem likeMatches_suffix {value text : List Char} :
    LikeMatches ('%' :: (value.flatMap likeChar ++ [])) text ↔ value <:+ text := by
  rw [likeMatches_any]
  constructor
  · rintro ⟨skipped, rest, rfl, hrest⟩
    obtain ⟨_, rfl, hend⟩ := likeMatches_flatMap.mp hrest
    rw [likeMatches_nil.mp hend, List.append_nil]
    exact List.suffix_append skipped value
  · rintro ⟨skipped, rfl⟩
    exact ⟨skipped, value, rfl, likeMatches_flatMap.mpr ⟨[], by simp, .done⟩⟩

theorem likeMatches_infix {value text : List Char} :
    LikeMatches ('%' :: (value.flatMap likeChar ++ ['%'])) text ↔ value <:+: text := by
  rw [likeMatches_any]
  constructor
  · rintro ⟨skipped, rest, rfl, h⟩
    obtain ⟨after, rfl⟩ := likeMatches_prefix.mp h
    exact ⟨skipped, after, by simp⟩
  · rintro ⟨skipped, after, rfl⟩
    exact ⟨skipped, value ++ after, by simp, likeMatches_prefix.mpr (List.prefix_append _ _)⟩

end Sql

/-! ## Tests -/

/-- The test is written as LIKE and a literal, and the pattern that the literal stands for matches
the texts that `accepts` holds of and no others. -/
def LiteralTest.LikeExactly (test : LiteralTest) (accepts : List Char → Prop) : Prop :=
  ∃ literal pattern, (∀ field, test.render field = field ++ " LIKE " ++ literal) ∧
    literalValue? literal = some pattern ∧
    ∀ subject : String, LikeMatches pattern.toList subject.toList ↔ accepts subject.toList

theorem likeExactly_pattern {before after : String} (hb : before = "" ∨ before = "%")
    (ha : after = "" ∨ after = "%") {value : String} {accepts : List Char → Prop}
    (h : ∀ text, LikeMatches (before.toList ++ value.toList.flatMap likeChar ++ after.toList) text ↔
      accepts text) :
    (LiteralTest.like (Quoting.escaped.pattern before value after)).LikeExactly accepts := by
  have hwild : ∀ {s : String}, s = "" ∨ s = "%" → ∀ c ∈ s.toList, c ≠ '\'' ∧ c ≠ '\\' := by
    rintro _ (rfl | rfl) c hc
    · simp at hc
    · obtain rfl : c = '%' := by simpa using hc
      decide
  refine ⟨_, _, fun field => rfl, literalValue?_pattern (hwild hb) (hwild ha) value,
    fun subject => ?_⟩
  rw [String.toList_ofList]
  exact h subject.toList

/-- **The tests for the beginning, the end and a part of a text.** They are written as LIKE with a
pattern that is matched by the texts that begin with the value, end with it and contain it, whatever
characters the value has. -/
theorem compile_like (value : String) (caseSensitive : Bool) :
    (TextTest.compile .escaped ⟨.beginsWith, value, caseSensitive⟩).LikeExactly
        (value.toList <+: ·) ∧
      (TextTest.compile .escaped ⟨.endsWith, value, caseSensitive⟩).LikeExactly
        (value.toList <:+ ·) ∧
      (TextTest.compile .escaped ⟨.contains, value, caseSensitive⟩).LikeExactly
        (value.toList <:+: ·) := by
  exact ⟨likeExactly_pattern (.inl rfl) (.inr rfl) fun _ => likeMatches_prefix,
    likeExactly_pattern (.inr rfl) (.inl rfl) fun _ => likeMatches_suffix,
    likeExactly_pattern (.inr rfl) (.inr rfl) fun _ => likeMatches_infix⟩

end EventReport
