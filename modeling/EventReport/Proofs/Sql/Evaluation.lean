import Mathlib.Algebra.BigOperators.Group.List.Basic
import Mathlib.Algebra.Field.Rat
import Mathlib.Data.List.Dedup
import Mathlib.Data.List.ReduceOption
import EventReport.Calendar.Date
import EventReport.Sql.Column

/-! # What a SELECT computes

A `Stage` is a SELECT list with a GROUP BY list. `Stage.run?` evaluates it over rows: rows with
equal values in the named columns form a group, NULLs being equal; without names there is one group
of all rows if an item is an aggregate. Aggregates skip NULLs, and the sum of nothing is NULL. A
stage has no result if a name is ambiguous or an item neither is an aggregate nor is grouped.

`partition` is the division of rows into groups. Dividing groups once more by what the rows of each
have in common is the same as dividing the rows at once (`dedup_map_partition`,
`flatten_filter_partition_perm`). -/

set_option autoImplicit false

namespace EventReport.Sql

/-! ## Values -/

/-- What a column may hold, NULL apart. -/
inductive Cell where
  | text (text : String)
  | number (number : ℚ)
  | day (day : Calendar.Date)
  deriving DecidableEq

/-- A cell, or NULL. -/
abbrev Value := Option Cell

def Cell.number? : Cell → Option ℚ
  | number q => some q
  | _ => none

/-- The sum of the numbers that there are, if there are any. -/
def nullableSum (qs : List (Option ℚ)) : Option ℚ :=
  if qs.reduceOption = [] then none else some qs.reduceOption.sum

namespace Value

/-- SUM, which is asked of numbers only. -/
def sum (vs : List Value) : Value :=
  (nullableSum (vs.map (·.bind Cell.number?))).map .number

def count (vs : List Value) : Value :=
  some (.number vs.reduceOption.length)

/-- COUNT of different values. -/
def countDistinct (vs : List Value) : Value :=
  some (.number vs.reduceOption.dedup.length)

end Value

/-! ## Stages -/

/-- Rows with equal keys together. -/
def partition {ρ κ : Type} [DecidableEq κ] (key : ρ → κ) (rows : List ρ) : List (List ρ) :=
  (rows.map key).dedup.map fun k => rows.filter (key · = k)

/-! ## Dividing rows into groups -/

section

variable {ρ κ δ : Type} [DecidableEq κ] [DecidableEq δ]

/-- Of values that are computed, those computed from different ones are all there are. -/
theorem dedup_map_dedup (f : κ → δ) (l : List κ) : (l.dedup.map f).dedup = (l.map f).dedup := by
  induction l with
  | nil => rfl
  | cons a l ih =>
    have hmem : f a ∈ l.dedup.map f ↔ f a ∈ l.map f := by simp only [List.mem_map, List.mem_dedup]
    rw [List.map_cons]
    by_cases ha : a ∈ l
    · rw [List.dedup_cons_of_mem ha, List.dedup_cons_of_mem (List.mem_map_of_mem ha), ih]
    · rw [List.dedup_cons_of_notMem ha, List.map_cons]
      by_cases hf : f a ∈ l.map f
      · rw [List.dedup_cons_of_mem hf, List.dedup_cons_of_mem (hmem.mpr hf), ih]
      · rw [List.dedup_cons_of_notMem hf, List.dedup_cons_of_notMem (fun h => hf (hmem.mp h)), ih]

/-- The rows of different keys are the rows of any of the keys. -/
theorem flatMap_filter_perm (key : ρ → κ) (rows : List ρ) {ks : List κ} (h : ks.Nodup) :
    (ks.flatMap fun k => rows.filter (key · = k)).Perm (rows.filter (key · ∈ ks)) := by
  induction ks with
  | nil => simp
  | cons k ks ih =>
    obtain ⟨hk, hks⟩ := List.nodup_cons.mp h
    -- The rows with the first key come apart from those with the others.
    have hfirst : (rows.filter (key · ∈ k :: ks)).filter (key · = k) = rows.filter (key · = k) := by
      rw [List.filter_filter]
      refine List.filter_congr fun x _ => ?_
      by_cases hx : key x = k <;> simp [hx]
    have hrest : (rows.filter (key · ∈ k :: ks)).filter (fun x => !decide (key x = k)) =
        rows.filter (key · ∈ ks) := by
      rw [List.filter_filter]
      refine List.filter_congr fun x _ => ?_
      by_cases hx : key x = k
      · simp [hx, hk]
      · simp [hx]
    have hsplit := List.filter_append_perm (key · = k) (rows.filter (key · ∈ k :: ks))
    rw [hfirst, hrest] at hsplit
    rw [List.flatMap_cons]
    exact ((ih hks).append_left _).trans hsplit

/-- A group consists of the rows that have the key of one of them. -/
theorem mem_partition {key : ρ → κ} {rows ms : List ρ} :
    ms ∈ partition key rows ↔ ∃ x ∈ rows, ms = rows.filter (key · = key x) := by
  simp only [partition, List.mem_map, List.mem_dedup]
  constructor
  · rintro ⟨_, ⟨x, hx, rfl⟩, rfl⟩
    exact ⟨x, hx, rfl⟩
  · rintro ⟨x, hx, rfl⟩
    exact ⟨_, ⟨x, hx, rfl⟩, rfl⟩

theorem partition_ne_nil {key : ρ → κ} {rows : List ρ} (h : rows ≠ []) :
    partition key rows ≠ [] := by
  obtain ⟨x, hx⟩ := List.exists_mem_of_ne_nil rows h
  exact List.ne_nil_of_mem (mem_partition.mpr ⟨x, hx, rfl⟩)

theorem partition_const {key : ρ → κ} {rows : List ρ} {k : κ} (h : ∀ x, key x = k)
    (hne : rows ≠ []) : partition key rows = [rows] := by
  have hkeys : rows.map key = List.replicate rows.length k :=
    List.eq_replicate_iff.mpr ⟨List.length_map _, by simp [h]⟩
  have hlength : rows.length ≠ 0 := fun h => hne (List.length_eq_zero_iff.mp h)
  rw [partition, hkeys, List.replicate_dedup hlength]
  simp [h]

variable {key : ρ → κ} {coarse : ρ → δ} {rows : List ρ} {F : List ρ → δ}

theorem dedup_map_partition (hF : ∀ x ∈ rows, F (rows.filter (key · = key x)) = coarse x) :
    ((partition key rows).map F).dedup = (rows.map coarse).dedup := by
  rw [partition, List.map_map, dedup_map_dedup, List.map_map]
  exact congrArg List.dedup (List.map_congr_left hF)

/-- The rows of the groups of a key are the rows of that key. -/
theorem flatten_filter_partition_perm
    (hF : ∀ x ∈ rows, F (rows.filter (key · = key x)) = coarse x) (d : δ) :
    ((partition key rows).filter (F · = d)).flatten.Perm (rows.filter (coarse · = d)) := by
  have hkeys := (List.nodup_dedup (rows.map key)).filter
    fun k => decide (F (rows.filter (key · = k)) = d)
  have hperm := flatMap_filter_perm key rows hkeys
  have hrows : rows.filter (key · ∈ (rows.map key).dedup.filter
      fun k => decide (F (rows.filter (key · = k)) = d)) = rows.filter (coarse · = d) := by
    refine List.filter_congr fun x hx => ?_
    have hmem : key x ∈ (rows.map key).dedup := List.mem_dedup.mpr (List.mem_map_of_mem hx)
    simp [List.mem_filter, hmem, hF x hx]
  rw [hrows] at hperm
  rwa [partition, List.filter_map, ← List.flatMap_def]

end

/-! ## Expressions over groups -/

namespace Expr

def isAggregate : Expr → Bool
  | sum _ | count _ | countDistinct _ => true
  | _ => false

/-- What is read of each row: an aggregate reads a column. -/
def operand : Expr → Expr
  | sum name | count name | countDistinct name => column name
  | e => e

/-- The value of the expression over the rows of a group, in which the values of all that is no
aggregate are equal. -/
def overRows {ρ : Type} (read : ρ → Expr → Value) (rows : List ρ) (e : Expr) : Value :=
  let values := rows.map (read · e.operand)
  match e with
  | sum _ => Value.sum values
  | count _ => Value.count values
  | countDistinct _ => Value.countDistinct values
  | _ => values.head?.join

end Expr

/-- The name under which the item is read. -/
def Item.exposed? (item : Item) : Option String :=
  match item.name?, item.expr with
  | some name, _ => some name
  | none, .column name => some name
  | none, _ => none

/-- A row of results: values with their names. -/
abbrev Row := List (String × Value)

/-- Reads a column of a row of results. -/
def Row.read (row : Row) : Expr → Value
  | .column name => (row.lookup name).join
  | _ => none

/-- A SELECT list with a GROUP BY list. -/
structure Stage where
  items : List Item
  groups : List String

namespace Stage

variable {ρ : Type} (read : ρ → Expr → Value)

def hasAggregate (s : Stage) : Bool :=
  s.items.any (·.expr.isAggregate)

/-- The values of a row in the named columns. -/
def key (s : Stage) (row : ρ) : List Value :=
  s.groups.map fun name =>
    (s.items.find? (·.exposed? = some name)).bind fun item => read row item.expr

/-- The groups of the rows. -/
def groupsOf (s : Stage) (rows : List ρ) : List (List ρ) :=
  if s.groups ≠ [] then partition (s.key read) rows
  else if s.hasAggregate then [rows]
  else rows.map ([·])

/-- One row of results for each group. -/
def results (s : Stage) (rows : List ρ) : List Row :=
  (s.groupsOf read rows).map fun members =>
    s.items.map fun item => (item.exposed?.getD "", item.expr.overRows read members)

/-- The name belongs to exactly one item. -/
def exposes (s : Stage) (name : String) : Bool :=
  (s.items.filter (·.exposed? = some name)).length = 1

/-- What the next stage can read of the results. -/
def offers (s : Stage) : Expr → Bool
  | .column name => s.exposes name
  | _ => false

/-- Each group is the name of one item, which is no aggregate; if there are groups or aggregates,
all other items are aggregates; and what is read can be read. -/
def isValid (s : Stage) (offered : Expr → Bool) : Bool :=
  s.groups.all (fun name => s.exposes name &&
    s.items.all fun item => item.exposed? ≠ some name || !item.expr.isAggregate) &&
  (s.items.all fun item => item.expr.isAggregate || (s.groups = [] && !s.hasAggregate) ||
    s.groups.any (item.exposed? = some ·)) &&
  s.items.all fun item => offered item.expr.operand

def run? (s : Stage) (offered : Expr → Bool) (rows : List ρ) : Option (List Row) :=
  if s.isValid offered then some (s.results read rows) else none

end Stage

/-! ## Results of a stage -/

section

variable {ρ σ κ : Type} [DecidableEq κ]

theorem partition_map (key : σ → κ) (f : ρ → σ) (rows : List ρ) :
    partition key (rows.map f) = (partition (key ∘ f) rows).map (List.map f) := by
  rw [partition, partition, List.map_map, List.map_map]
  exact List.map_congr_left fun k _ => List.filter_map

theorem Stage.groupsOf_eq_partition (read : ρ → Expr → Value) {s : Stage} {rows : List ρ}
    (h : s.groups ≠ [] ∨ s.hasAggregate) (hne : rows ≠ []) :
    s.groupsOf read rows = partition (s.key read) rows := by
  unfold groupsOf
  by_cases hg : s.groups = []
  · have hkey : ∀ x, s.key read x = [] := fun x => by rw [key, hg, List.map_nil]
    rw [if_neg (not_not_intro hg), if_pos (h.resolve_left (not_not_intro hg)),
      partition_const hkey hne]
  · rw [if_pos hg]

/-- What is no aggregate has the value that all rows of the group have. -/
theorem Expr.overRows_eq_of_forall {read : ρ → Expr → Value} {e : Expr} (he : e.isAggregate = false)
    {rows : List ρ} (hne : rows ≠ []) {v : Value} (h : ∀ x ∈ rows, read x e = v) :
    e.overRows read rows = v := by
  obtain ⟨x, rows, rfl⟩ := List.exists_cons_of_ne_nil hne
  have hx := h x List.mem_cons_self
  cases e with
  | sum | count | countDistinct => cases he
  | column | param | eventDay | sessionKey => simpa [overRows, operand] using hx

end

/-! ## Aggregates over groups of groups -/

theorem nullableSum_perm {a b : List (Option ℚ)} (h : a.Perm b) :
    nullableSum a = nullableSum b := by
  have hr : a.reduceOption.Perm b.reduceOption := h.filterMap id
  have hnil : a.reduceOption = [] ↔ b.reduceOption = [] := by
    rw [← List.length_eq_zero_iff, ← List.length_eq_zero_iff, hr.length_eq]
  rw [nullableSum, nullableSum, hr.sum_eq, if_congr hnil rfl rfl]

theorem nullableSum_append (a b : List (Option ℚ)) :
    nullableSum (a ++ b) = nullableSum [nullableSum a, nullableSum b] := by
  unfold nullableSum
  by_cases ha : a.reduceOption = [] <;> by_cases hb : b.reduceOption = [] <;>
    simp [ha, hb, List.reduceOption_append]

theorem nullableSum_singleton (q : Option ℚ) : nullableSum [q] = q := by
  cases q <;> simp [nullableSum]

theorem nullableSum_flatten (ls : List (List (Option ℚ))) :
    nullableSum (ls.map nullableSum) = nullableSum ls.flatten := by
  induction ls with
  | nil => rfl
  | cons l ls ih =>
    have hcons := nullableSum_append [nullableSum l] (ls.map nullableSum)
    rw [nullableSum_singleton, ih, List.singleton_append] at hcons
    rw [List.map_cons, hcons, List.flatten_cons, nullableSum_append]

theorem nullableSum_map_some {qs : List ℚ} (h : qs ≠ []) :
    nullableSum (qs.map some) = some qs.sum := by
  have hr : (qs.map some).reduceOption = qs := by
    rw [List.reduceOption, List.filterMap_map]
    exact List.filterMap_some
  rw [nullableSum, hr, if_neg h]

namespace Value

theorem sum_perm {a b : List Value} (h : a.Perm b) : sum a = sum b := by
  rw [sum, sum, nullableSum_perm (h.map _)]

theorem count_perm {a b : List Value} (h : a.Perm b) : count a = count b := by
  have hr : a.reduceOption.Perm b.reduceOption := h.filterMap id
  rw [count, count, hr.length_eq]

/-- How many different values there are depends on nothing but which there are. -/
theorem countDistinct_congr {a b : List Value} (h : ∀ v, v ∈ a ↔ v ∈ b) :
    countDistinct a = countDistinct b := by
  have hmem : ∀ c, c ∈ a.reduceOption.dedup ↔ c ∈ b.reduceOption.dedup := fun c => by
    rw [List.mem_dedup, List.mem_dedup, List.reduceOption_mem_iff, List.reduceOption_mem_iff, h]
  have hperm := (List.perm_ext_iff_of_nodup (List.nodup_dedup _) (List.nodup_dedup _)).mpr hmem
  rw [countDistinct, countDistinct, hperm.length_eq]

theorem sum_sums (ls : List (List Value)) : sum (ls.map sum) = sum ls.flatten := by
  have hnumber (q : Option ℚ) : (q.map Cell.number).bind Cell.number? = q := by cases q <;> rfl
  have hsums : (ls.map sum).map (·.bind Cell.number?) =
      (ls.map (List.map (·.bind Cell.number?))).map nullableSum := by
    rw [List.map_map, List.map_map]
    exact List.map_congr_left fun l _ => hnumber _
  rw [sum, hsums, nullableSum_flatten, ← List.map_flatten, ← sum]

theorem sum_counts {ls : List (List Value)} (h : ls ≠ []) :
    sum (ls.map count) = count ls.flatten := by
  have hcounts : (ls.map count).map (·.bind Cell.number?) =
      (ls.map fun l => (l.reduceOption.length : ℚ)).map some := by
    rw [List.map_map, List.map_map]
    rfl
  have hlength : (ls.map fun l => (l.reduceOption.length : ℚ)).sum =
      (ls.flatten.reduceOption.length : ℚ) := by
    clear h hcounts
    induction ls with
    | nil => rfl
    | cons l ls ih =>
      rw [List.map_cons, List.sum_cons, ih, List.flatten_cons, List.reduceOption_append,
        List.length_append, Nat.cast_add]
  rw [sum, hcounts, nullableSum_map_some (by simpa using h), hlength]
  rfl

end Value

end EventReport.Sql
