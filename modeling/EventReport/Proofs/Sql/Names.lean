import EventReport.Proofs.Outcome
import EventReport.Sql.Quoting

/-! # Names that are accepted

Escaped quoting accepts the names that are plain (`IsPlainName`), and an alias exactly if it accepts
the name (`isPlainName_aliasOf`). A check of a name has a fault if it is not plain (`nameFaults`),
and stops at that. -/

set_option autoImplicit false

namespace EventReport

open Sql

/-! ## Plain names -/

/-- A text that is not empty, of letters and digits of ASCII and the characters of `extra`. -/
def IsPlainName (extra : List Char) (name : String) : Prop :=
  name ≠ "" ∧ ∀ c ∈ name.toList,
    ('A' ≤ c ∧ c ≤ 'Z') ∨ ('a' ≤ c ∧ c ≤ 'z') ∨ ('0' ≤ c ∧ c ≤ '9') ∨ c ∈ extra

theorem isAlphanum_iff (c : Char) : c.isAlphanum = true ↔
    ('A' ≤ c ∧ c ≤ 'Z') ∨ ('a' ≤ c ∧ c ≤ 'z') ∨ ('0' ≤ c ∧ c ≤ '9') := by
  show (decide (c.val ≥ 'A'.val ∧ c.val ≤ 'Z'.val) ||
    decide (c.val ≥ 'a'.val) && decide (c.val ≤ 'z'.val) ||
    decide (c.val ≥ '0'.val) && decide (c.val ≤ '9'.val)) = true ↔ _
  simp [Char.le_def, or_assoc]

theorem isName_iff {extra : Char → Bool} {chars : List Char}
    (h : ∀ c, extra c = true ↔ c ∈ chars) (name : String) :
    isName extra name = true ↔ IsPlainName chars name := by
  simp [isName, IsPlainName, isAlphanum_iff, h, or_assoc]

instance (extra : List Char) (name : String) : Decidable (IsPlainName extra name) :=
  decidable_of_iff (isName extra.contains name = true) (isName_iff (by simp) name)

theorem isIdentifier_iff (name : String) : isIdentifier name = true ↔ IsPlainName ['_', '.'] name :=
  isName_iff (by simp) name

theorem isTablePart_iff (part : String) : isTablePart part = true ↔ IsPlainName ['_', '-'] part :=
  isName_iff (by simp) part

/-- An alias is plain exactly if the name is. -/
theorem isPlainName_aliasOf (name : String) :
    IsPlainName ['_', '.'] (aliasOf name) ↔ IsPlainName ['_', '.'] name := by
  have hempty : aliasOf name = "" ↔ name = "" := by
    rw [aliasOf, ← String.toList_inj, String.toList_ofList, ← String.toList_inj,
      String.toList_empty, List.flatMap_eq_nil_iff, List.eq_nil_iff_forall_not_mem]
    refine forall₂_congr fun c _ => ?_
    split <;> simp
  refine and_congr (not_congr hempty) ?_
  rw [aliasOf, String.toList_ofList, List.forall_mem_flatMap]
  refine forall₂_congr fun c _ => ?_
  split
  · rename_i hdot
    simp [hdot]
  · simp

/-! ## Checks -/

/-- The fault of a name that escaped quoting refuses, which is shown in another form. -/
def nameFaults (q : Quoting) (extra : List Char) (name shown : String) : List ReportError :=
  match q with
  | .verbatim => []
  | .escaped => if IsPlainName extra name then [] else [.invalidIdentifier shown]

theorem nameFaults_eq_nil {q : Quoting} {extra : List Char} {name shown : String} :
    nameFaults q extra name shown = [] ↔ (q = .escaped → IsPlainName extra name) := by
  cases q <;> simp [nameFaults]

theorem stopsAtFirst_check {extra : List Char} {name shown : String} {ok : Bool}
    (h : ok = true ↔ IsPlainName extra name) :
    StopsAtFirst (nameFaults .escaped extra name shown)
      (if ok then pure shown else throw (.invalidIdentifier shown)) := by
  by_cases hname : IsPlainName extra name
  · rw [nameFaults, if_pos hname, if_pos (h.mpr hname)]
    exact .ok shown
  · rw [nameFaults, if_neg hname, if_neg (mt h.mp hname)]
    exact .error _ []

theorem stopsAtFirst_identifier (q : Quoting) (name : String) :
    StopsAtFirst (nameFaults q ['_', '.'] name name) (q.identifier name) := by
  cases q with
  | verbatim => exact .ok name
  | escaped => exact stopsAtFirst_check (isIdentifier_iff name)

theorem stopsAtFirst_alias (q : Quoting) (name : String) :
    StopsAtFirst (nameFaults q ['_', '.'] name (aliasOf name)) (q.identifier (aliasOf name)) := by
  cases q with
  | verbatim => exact .ok _
  | escaped => exact stopsAtFirst_check ((isIdentifier_iff _).trans (isPlainName_aliasOf name))

theorem stopsAtFirst_tablePart (q : Quoting) (part : String) :
    StopsAtFirst (nameFaults q ['_', '-'] part part) (q.tablePart part) := by
  cases q with
  | verbatim => exact .ok part
  | escaped => exact stopsAtFirst_check (isTablePart_iff part)

end EventReport
