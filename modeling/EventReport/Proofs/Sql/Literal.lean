import Mathlib.Data.List.Basic
import EventReport.Sql.Quoting

/-! # Reading a literal back

`readLiteral?` reads a literal off the front of a text. What escaped quoting writes for a value, be
it a text or a regular expression, reads back as that value and ends where the literal ends,
whatever follows; and no other text does (`readLiteral?_escaped`).

Between its quotes such a literal holds the value with every backslash doubled first and a backslash
put before every quote then. -/

set_option autoImplicit false

namespace EventReport.Sql

/-- Reads on after the quote that opens a literal: the value up to the first quote that no backslash
takes along, and the text after it. A backslash stands before a backslash or a quote only. -/
def readBody? : List Char → Option (List Char × List Char)
  | [] => none
  | '\'' :: rest => some ([], rest)
  | '\\' :: '\\' :: rest => (readBody? rest).map fun (value, after) => ('\\' :: value, after)
  | '\\' :: '\'' :: rest => (readBody? rest).map fun (value, after) => ('\'' :: value, after)
  | '\\' :: _ => none
  | c :: rest => (readBody? rest).map fun (value, after) => (c :: value, after)

/-- Reads a literal: its value and the text after it. -/
def readLiteral? (text : String) : Option (String × String) :=
  match text.toList with
  | '\'' :: rest =>
    (readBody? rest).map fun (value, after) => (String.ofList value, String.ofList after)
  | _ => none

/-- The characters with `new` in the place of every `c`. -/
def replaced (c : Char) (new : List Char) (cs : List Char) : List Char :=
  cs.flatMap fun d => if d = c then new else [d]

/-! ## One character -/

theorem escapeChar_eq {c : Char} (h : c ∉ ['\\', '\'']) : escapeChar c = [c] := by
  unfold escapeChar
  split
  · simp at h
  · simp at h
  · rfl

theorem escapePatternChar_eq {c : Char} (h : c ∉ ['\\', '\'', '%', '_']) :
    escapePatternChar c = [c] := by
  unfold escapePatternChar
  split
  · simp at h
  · simp at h
  · simp at h
  · simp at h
  · rfl

theorem readBody?_escapeChar (c : Char) (rest : List Char) :
    readBody? (escapeChar c ++ rest) =
      (readBody? rest).map fun (value, after) => (c :: value, after) := by
  by_cases hb : c = '\\'
  · subst hb; rfl
  by_cases hq : c = '\''
  · subst hq; rfl
  rw [escapeChar_eq (by simp [hb, hq]), List.singleton_append, readBody?]
  · exact hq
  · exact fun _ h _ => hb h
  · exact fun _ h _ => hb h
  · exact hb

/-! ## Whole literals -/

/-- Every backslash is doubled, and then a backslash is put before every quote. -/
theorem escapeText_eq_replaced (value : String) : (escapeText value).toList =
    replaced '\'' ['\\', '\''] (replaced '\\' ['\\', '\\'] value.toList) := by
  rw [escapeText, String.toList_ofList, replaced, replaced, List.flatMap_assoc]
  refine List.flatMap_congr fun c _ => ?_
  by_cases hb : c = '\\'
  · subst hb; rfl
  by_cases hq : c = '\''
  · subst hq; rfl
  rw [escapeChar_eq (by simp [hb, hq]), if_neg hb, List.flatMap_singleton, if_neg hq]

/-- An escaped value is read back up to the quote after it. -/
theorem readBody?_flatMap (value rest : List Char) :
    readBody? (value.flatMap escapeChar ++ '\'' :: rest) = some (value, rest) := by
  induction value with
  | nil => rfl
  | cons c cs ih => rw [List.flatMap_cons, List.append_assoc, readBody?_escapeChar, ih]; rfl

/-- Nothing else is read as the value. -/
theorem eq_flatMap_of_readBody? {text value rest : List Char}
    (h : readBody? text = some (value, rest)) :
    text = value.flatMap escapeChar ++ '\'' :: rest := by
  fun_induction readBody? text generalizing value with
  | case1 | case5 => cases h
  | case2 => cases h; rfl
  | case3 text ih | case4 text ih =>
    obtain ⟨⟨value, after⟩, hread, heq⟩ := Option.map_eq_some_iff.mp h
    cases heq
    rw [ih hread]
    rfl
  | case6 c text hq _ _ hb ih =>
    obtain ⟨⟨value, after⟩, hread, heq⟩ := Option.map_eq_some_iff.mp h
    cases heq
    have hc : c ∉ ['\\', '\''] :=
      List.not_mem_cons_of_ne_of_not_mem hb (mt List.mem_singleton.mp hq)
    rw [ih hread, List.flatMap_cons, escapeChar_eq hc]
    rfl

theorem toList_literal (value : String) : (Quoting.escaped.literal value).toList =
    '\'' :: (value.toList.flatMap escapeChar ++ ['\'']) := by
  simp [Quoting.literal, escapeText]

/-- **A literal reads back as its value.** What escaped quoting writes for a text or a regular
expression is read as exactly that, and the text after it is left, whatever it is. No other text is
read so. Between the quotes every backslash is doubled, and then a backslash put before every
quote. -/
theorem readLiteral?_escaped (value rest : String) :
    readLiteral? (Quoting.escaped.literal value ++ rest) = some (value, rest) ∧
      readLiteral? (Quoting.escaped.regexp value ++ rest) = some (value, rest) ∧
      (∀ text, readLiteral? text = some (value, rest) →
        text = Quoting.escaped.literal value ++ rest) ∧
      (Quoting.escaped.literal value).toList = '\'' ::
        (replaced '\'' ['\\', '\''] (replaced '\\' ['\\', '\\'] value.toList) ++ ['\'']) := by
  have hread : readLiteral? (Quoting.escaped.literal value ++ rest) = some (value, rest) := by
    have htext : (Quoting.escaped.literal value ++ rest).toList =
        '\'' :: (value.toList.flatMap escapeChar ++ '\'' :: rest.toList) := by
      simp [toList_literal]
    simp [readLiteral?, htext, readBody?_flatMap]
  refine ⟨hread, hread, fun text h => ?_, ?_⟩
  · rw [readLiteral?] at h
    split at h
    · rename_i body htext
      obtain ⟨⟨v, after⟩, hbody, heq⟩ := Option.map_eq_some_iff.mp h
      obtain ⟨rfl, rfl⟩ := Prod.mk.inj heq
      rw [← String.toList_inj, htext, eq_flatMap_of_readBody? hbody, String.toList_append,
        toList_literal]
      simp
    · cases h
  · rw [toList_literal, ← escapeText_eq_replaced, escapeText, String.toList_ofList]

/-- A value that ends in a backslash and a quote, before a text that has quotes. -/
theorem readLiteral?_escaped_quotes :
    readLiteral? "'a\\\\\\'' OR 'b'" = some ("a\\'", " OR 'b'") ∧
      "'a\\\\\\'' OR 'b'" = Quoting.escaped.literal "a\\'" ++ " OR 'b'" := by
  have hread : readLiteral? "'a\\\\\\'' OR 'b'" = some ("a\\'", " OR 'b'") := by decide
  obtain ⟨-, -, honly, -⟩ := readLiteral?_escaped "a\\'" " OR 'b'"
  exact ⟨hread, honly _ hread⟩

/-- In the other order the backslash before a quote is doubled, and the quote closes the literal. -/
example :
    let body := replaced '\\' ['\\', '\\'] (replaced '\'' ['\\', '\''] "it's".toList)
    readBody? (body ++ ['\'']) = some ("it\\".toList, "s'".toList) := by
  decide

end EventReport.Sql
