import EventReport.Sql.Select
import Mathlib.Data.List.Basic
import Mathlib.Data.List.Induction

/-! # Steps to a SELECT

The SELECT that a sequence of steps builds has the parts that the steps add, clause by clause and in
their order, and of the conditions on groups the last one (`ofSteps_eq`). So it is the same for two
sequences exactly if they add the same, and they do exactly if one can be `Rearranged` into the
other: steps on different clauses change places, lists are split, empty lists go, and so does a
condition on groups that another one follows (`render_ofSteps_congr`). -/

set_option autoImplicit false

namespace EventReport.Sql.Select

/-! ## What steps add -/

/-- The clauses that steps add to. -/
inductive Clause where
  | columns
  | conditions
  | groups
  | having
  | order
  deriving DecidableEq, Repr

/-- The clause that the step adds to. -/
def Step.clause : Step → Clause
  | .columns _ => .columns
  | .condition _ => .conditions
  | .groups _ => .groups
  | .having _ => .having
  | .order _ => .order

/-- What the step adds to its clause. -/
def Step.parts : Step → List String
  | .columns items => items
  | .condition predicate => [predicate]
  | .groups names => names
  | .having predicate => [predicate]
  | .order term => [term]

/-- What the steps add to the clause, in order. -/
def added (k : Clause) (steps : List Step) : List String :=
  (steps.filter (·.clause = k)).flatMap Step.parts

@[simp] theorem added_nil (k : Clause) : added k [] = [] := rfl

theorem added_append (k : Clause) (steps steps' : List Step) :
    added k (steps ++ steps') = added k steps ++ added k steps' := by
  simp [added]

theorem added_cons (k : Clause) (a : Step) (steps : List Step) :
    added k (a :: steps) = (if a.clause = k then a.parts else []) ++ added k steps := by
  by_cases h : a.clause = k <;> simp [added, h]

/-- The condition on groups after the steps, which is the last one. -/
def lastHaving (steps : List Step) : Option String :=
  (added .having steps).getLast?

theorem lastHaving_cons (a : Step) (steps : List Step) :
    lastHaving (a :: steps) =
      (lastHaving steps).or (if a.clause = .having then a.parts.getLast? else none) := by
  rw [lastHaving, added_cons, List.getLast?_append]
  by_cases h : a.clause = .having <;> simp [lastHaving, h]

/-- The sequences of steps add the same to every clause. -/
structure SameAdditions (steps steps' : List Step) : Prop where
  columns : added .columns steps = added .columns steps'
  conditions : added .conditions steps = added .conditions steps'
  groups : added .groups steps = added .groups steps'
  having : lastHaving steps = lastHaving steps'
  order : added .order steps = added .order steps'

/-! ## What steps build -/

/-- The SELECT that the steps build, one after the other. -/
def ofSteps (source : Source) (steps : List Step) : Select :=
  steps.foldl add { source }

theorem ofSteps_concat (source : Source) (steps : List Step) (a : Step) :
    ofSteps source (steps ++ [a]) = (ofSteps source steps).add a := by
  simp [ofSteps]

/-- The SELECT has what the steps add to each clause. -/
theorem ofSteps_eq (source : Source) (steps : List Step) :
    ofSteps source steps =
      { source
        columns := added .columns steps
        conditions := added .conditions steps
        groups := added .groups steps
        having := lastHaving steps
        order := added .order steps } := by
  -- The induction is from the end, as the last condition on groups is the one that stays.
  induction steps using List.reverseRecOn with
  | nil => rfl
  | append_singleton steps a ih =>
    rw [ofSteps_concat, ih]
    cases a <;> simp [add, lastHaving, added_append, added_cons, Step.clause, Step.parts]

theorem ofSteps_eq_iff (source : Source) (steps steps' : List Step) :
    ofSteps source steps = ofSteps source steps' ↔ SameAdditions steps steps' := by
  rw [ofSteps_eq, ofSteps_eq, Select.mk.injEq]
  constructor
  · rintro ⟨-, hcolumns, hconditions, hgroups, hhaving, horder⟩
    exact ⟨hcolumns, hconditions, hgroups, hhaving, horder⟩
  · intro h
    exact ⟨rfl, h.columns, h.conditions, h.groups, h.having, h.order⟩

/-! ## Rearrangements -/

/-- One sequence of steps comes from the other by changes that keep what is added. -/
inductive Rearranged : List Step → List Step → Prop
  | swap {a b : Step} (rest : List Step) : a.clause ≠ b.clause →
      Rearranged (a :: b :: rest) (b :: a :: rest)
  | splitColumns (items items' : List String) (rest : List Step) :
      Rearranged (.columns (items ++ items') :: rest) (.columns items :: .columns items' :: rest)
  | splitGroups (names names' : List String) (rest : List Step) :
      Rearranged (.groups (names ++ names') :: rest) (.groups names :: .groups names' :: rest)
  | noColumns (rest : List Step) : Rearranged (.columns [] :: rest) rest
  | noGroups (rest : List Step) : Rearranged (.groups [] :: rest) rest
  | earlierHaving (predicate predicate' : String) (rest : List Step) :
      Rearranged (.having predicate :: .having predicate' :: rest) (.having predicate' :: rest)
  | cons (a : Step) {steps steps' : List Step} : Rearranged steps steps' →
      Rearranged (a :: steps) (a :: steps')
  | refl (steps : List Step) : Rearranged steps steps
  | symm {steps steps' : List Step} : Rearranged steps steps' → Rearranged steps' steps
  | trans {steps steps' steps'' : List Step} : Rearranged steps steps' →
      Rearranged steps' steps'' → Rearranged steps steps''

theorem SameAdditions.cons (a : Step) {steps steps' : List Step} (h : SameAdditions steps steps') :
    SameAdditions (a :: steps) (a :: steps') := by
  constructor
  · rw [added_cons, added_cons, h.columns]
  · rw [added_cons, added_cons, h.conditions]
  · rw [added_cons, added_cons, h.groups]
  · rw [lastHaving_cons, lastHaving_cons, h.having]
  · rw [added_cons, added_cons, h.order]

/-- Steps that are rearranged add the same. -/
theorem Rearranged.sameAdditions {steps steps' : List Step} (h : Rearranged steps steps') :
    SameAdditions steps steps' := by
  induction h with
  | @swap a b rest hab =>
    have hadded : ∀ k, added k (a :: b :: rest) = added k (b :: a :: rest) := by
      intro k
      by_cases ha : a.clause = k
      · have hb : b.clause ≠ k := fun hb => hab (ha.trans hb.symm)
        simp [added_cons, ha, hb]
      · simp [added_cons, ha]
    exact ⟨hadded _, hadded _, hadded _, congrArg List.getLast? (hadded _), hadded _⟩
  | splitColumns | splitGroups | noColumns | noGroups | earlierHaving =>
    constructor <;> simp [lastHaving_cons, added_cons, Step.clause, Step.parts]
  | cons a _ ih => exact ih.cons a
  | refl => exact ⟨rfl, rfl, rfl, rfl, rfl⟩
  | symm _ ih =>
    exact ⟨ih.columns.symm, ih.conditions.symm, ih.groups.symm, ih.having.symm, ih.order.symm⟩
  | trans _ _ ih ih' =>
    exact ⟨ih.columns.trans ih'.columns, ih.conditions.trans ih'.conditions,
      ih.groups.trans ih'.groups, ih.having.trans ih'.having, ih.order.trans ih'.order⟩

namespace Rearranged

theorem append_left (before : List Step) {steps steps' : List Step} (h : Rearranged steps steps') :
    Rearranged (before ++ steps) (before ++ steps') := by
  induction before with
  | nil => exact h
  | cons a before ih => exact ih.cons a

/-- A step goes behind steps on other clauses. -/
theorem behind {a : Step} {steps : List Step} (h : ∀ b ∈ steps, b.clause ≠ a.clause)
    (rest : List Step) : Rearranged (a :: (steps ++ rest)) (steps ++ a :: rest) := by
  induction steps with
  | nil => exact .refl _
  | cons b steps ih =>
    obtain ⟨hb, hsteps⟩ := List.forall_mem_cons.mp h
    exact (Rearranged.swap (steps ++ rest) (Ne.symm hb)).trans ((ih hsteps).cons b)

end Rearranged

/-! ## Steps in the order of the clauses -/

/-- Steps that add the parts to the clause: one for a whole list, and of the conditions on groups
only the last. -/
def Clause.steps : Clause → List String → List Step
  | .columns, parts => [.columns parts]
  | .conditions, parts => parts.map .condition
  | .groups, parts => [.groups parts]
  | .having, parts => parts.getLast?.toList.map .having
  | .order, parts => parts.map .order

theorem Clause.clause_of_mem_steps {k : Clause} {parts : List String} {a : Step}
    (h : a ∈ k.steps parts) : a.clause = k := by
  cases k with
  | columns | groups =>
    obtain rfl := List.mem_singleton.mp h
    rfl
  | conditions | having | order =>
    obtain ⟨_, -, rfl⟩ := List.mem_map.mp h
    rfl

/-- A step before the steps on its clause becomes one with them. -/
theorem Rearranged.absorb (a : Step) (parts : List String) (rest : List Step) :
    Rearranged (a :: (a.clause.steps parts ++ rest))
      (a.clause.steps (a.parts ++ parts) ++ rest) := by
  cases a with
  | columns items => exact (Rearranged.splitColumns items parts rest).symm
  | groups names => exact (Rearranged.splitGroups names parts rest).symm
  | condition | order => exact .refl _
  | having predicate =>
    simp only [Step.clause, Step.parts, Clause.steps, List.cons_append, List.nil_append,
      List.getLast?_cons]
    cases parts.getLast? with
    | none => exact .refl _
    | some predicate' => exact .earlierHaving predicate predicate' rest

/-- Steps that add the same to the clauses, one clause after the other. -/
def arranged (ks : List Clause) (steps : List Step) : List Step :=
  ks.flatMap fun k => k.steps (added k steps)

theorem arranged_cons (k : Clause) (ks : List Clause) (steps : List Step) :
    arranged (k :: ks) steps = k.steps (added k steps) ++ arranged ks steps :=
  List.flatMap_cons

/-- A step adds nothing to other clauses. -/
theorem arranged_of_notMem {a : Step} {ks : List Clause} (h : a.clause ∉ ks) (steps : List Step) :
    arranged ks (a :: steps) = arranged ks steps := by
  refine List.flatMap_congr fun k hk => ?_
  have hne : a.clause ≠ k := fun hak => h (hak ▸ hk)
  rw [added_cons, if_neg hne, List.nil_append]

/-- A step finds its place among the steps in the order of the clauses. -/
theorem rearranged_arranged_cons (a : Step) (steps : List Step) {ks : List Clause} (hks : ks.Nodup)
    (ha : a.clause ∈ ks) : Rearranged (a :: arranged ks steps) (arranged ks (a :: steps)) := by
  induction ks with
  | nil => simp at ha
  | cons k ks ih =>
    obtain ⟨hk, hks⟩ := List.nodup_cons.mp hks
    rw [arranged_cons, arranged_cons, added_cons]
    by_cases hak : a.clause = k
    · subst hak
      rw [if_pos rfl, arranged_of_notMem hk]
      exact Rearranged.absorb a _ _
    · have hothers : ∀ b ∈ k.steps (added k steps), b.clause ≠ a.clause := by
        intro b hb hba
        exact hak (hba.symm.trans (Clause.clause_of_mem_steps hb))
      have hplace := ih hks ((List.mem_cons.mp ha).resolve_left hak)
      rw [if_neg hak, List.nil_append]
      exact (Rearranged.behind hothers _).trans (hplace.append_left _)

/-- All clauses, in their order. -/
def Clause.all : List Clause := [.columns, .conditions, .groups, .having, .order]

theorem Clause.mem_all (k : Clause) : k ∈ Clause.all := by
  cases k <;> decide

/-- Every sequence of steps can be brought into the order of the clauses. -/
theorem rearranged_arranged (steps : List Step) :
    Rearranged steps (arranged Clause.all steps) := by
  induction steps with
  | nil => exact ((Rearranged.noColumns _).trans (.noGroups [])).symm
  | cons a steps ih =>
    exact (ih.cons a).trans (rearranged_arranged_cons a steps (by decide) (Clause.mem_all _))

theorem SameAdditions.arranged_eq {steps steps' : List Step} (h : SameAdditions steps steps') :
    arranged Clause.all steps = arranged Clause.all steps' := by
  have hhaving := h.having
  simp only [lastHaving] at hhaving
  simp [arranged, Clause.all, Clause.steps, h.columns, h.conditions, h.groups, h.order, hhaving]

/-- Steps that add the same can be rearranged into each other. -/
theorem sameAdditions_iff_rearranged (steps steps' : List Step) :
    SameAdditions steps steps' ↔ Rearranged steps steps' := by
  constructor
  · intro h
    have hsteps := rearranged_arranged steps
    rw [h.arranged_eq] at hsteps
    exact hsteps.trans (rearranged_arranged steps').symm
  · exact Rearranged.sameAdditions

/-- **Only what is added to each clause counts.** From one source, two sequences of steps that add
the same to every clause build the same statement, where a single column is a list of one. Two
sequences add the same exactly if one can be rearranged into the other, and exactly if both build
the same SELECT. -/
theorem render_ofSteps_congr (source : Source) (steps steps' : List Step) :
    (SameAdditions steps steps' ↔ Rearranged steps steps') ∧
      (SameAdditions steps steps' ↔ ofSteps source steps = ofSteps source steps') ∧
      (SameAdditions steps steps' →
        (ofSteps source steps).render = (ofSteps source steps').render) := by
  refine ⟨sameAdditions_iff_rearranged steps steps', ?_, ?_⟩
  · exact (ofSteps_eq_iff source steps steps').symm
  · intro h
    rw [(ofSteps_eq_iff source steps steps').mpr h]

/-- Steps out of the order of the clauses, with an empty list and a condition on groups that does
not last. -/
def scatteredSteps : List Step :=
  [.order "n DESC", .having "n > 1", .columns ["a"], .groups [], .condition "x = 1",
    .columns ["COUNT(*) AS n"], .having "n > 5", .groups ["a"]]

/-- The steps that add the same, clause by clause. -/
def gatheredSteps : List Step :=
  [.columns ["a", "COUNT(*) AS n"], .condition "x = 1", .groups ["a"], .having "n > 5",
    .order "n DESC"]

theorem render_ofSteps_congr_scattered :
    SameAdditions scatteredSteps gatheredSteps ∧ Rearranged scatteredSteps gatheredSteps ∧
      (ofSteps (.table "t") scatteredSteps).render =
        (ofSteps (.table "t") gatheredSteps).render ∧
      (ofSteps (.table "t") gatheredSteps).render =
        "SELECT a, COUNT(*) AS n FROM `t` WHERE x = 1 GROUP BY a HAVING n > 5 ORDER BY n DESC" := by
  obtain ⟨hrearranged, -, hrender⟩ :=
    render_ofSteps_congr (.table "t") scatteredSteps gatheredSteps
  have h : SameAdditions scatteredSteps gatheredSteps := ⟨rfl, rfl, rfl, rfl, rfl⟩
  exact ⟨h, hrearranged.mp h, hrender h, by decide⟩

end EventReport.Sql.Select
