import Mathlib.Data.List.ReduceOption
import EventReport.Filter.Predicate
import EventReport.Proofs.Sql.Spelling

/-! # What filters compile to

`Filter.compileAt_rec` is induction along a successful compilation: a property of a filter and its
predicate holds if it holds of every leaf and its atom, and of every group whose members have it.
The depth of the filter and its limit are of no account then: a filter that compiles becomes its
`Filter.predicate?`. This is `Regular`: each group in it has at least two members, and its atoms are
the compiled leaves. It is blank exactly if there are none (`Filter.blank_iff`). -/

set_option autoImplicit false

namespace EventReport

open Sql

/-! ## Leaves, levels and atoms -/

namespace Filter

mutual

/-- The conditions of a filter from left to right. -/
def leaves : Filter → List Condition
  | .leaf c => [c]
  | .node _ members => leavesAll members

def leavesAll : List Filter → List Condition
  | [] => []
  | f :: fs => leaves f ++ leavesAll fs

end

theorem leavesAll_eq_flatMap : ∀ fs : List Filter, leavesAll fs = fs.flatMap leaves
  | [] => rfl
  | f :: fs => by rw [leavesAll, leavesAll_eq_flatMap fs, List.flatMap_cons]

mutual

/-- The number of levels of a filter: a condition is one, and so is a group above its members. -/
def height : Filter → Nat
  | .leaf _ => 1
  | .node _ members => heightAll members + 1

def heightAll : List Filter → Nat
  | [] => 0
  | f :: fs => max (height f) (heightAll fs)

end

theorem one_le_height (f : Filter) : 1 ≤ f.height := by
  cases f with
  | leaf c => exact Nat.le_refl 1
  | node k fs => exact Nat.le_add_left 1 _

theorem heightAll_append (fs gs : List Filter) :
    heightAll (fs ++ gs) = max (heightAll fs) (heightAll gs) := by
  induction fs with
  | nil => rw [List.nil_append, heightAll, Nat.zero_max]
  | cons f fs ih => rw [List.cons_append, heightAll, heightAll, ih, Nat.max_assoc]

/-- No group of the filter is empty. -/
inductive NoEmptyGroup : Filter → Prop
  | leaf (c : Condition) : NoEmptyGroup (.leaf c)
  | node (k : Connective) {fs : List Filter} : fs ≠ [] → (∀ f ∈ fs, NoEmptyGroup f) →
      NoEmptyGroup (.node k fs)

/-- A filter without empty groups has conditions. -/
theorem NoEmptyGroup.leaves_ne_nil {f : Filter} (h : f.NoEmptyGroup) : f.leaves ≠ [] := by
  induction h with
  | leaf c => exact List.cons_ne_nil c []
  | @node k fs hne _ ih =>
    obtain ⟨f, hf⟩ := List.exists_mem_of_ne_nil fs hne
    obtain ⟨c, hc⟩ := List.exists_mem_of_ne_nil f.leaves (ih f hf)
    rw [leaves, leavesAll_eq_flatMap]
    exact List.ne_nil_of_mem (List.mem_flatMap.mpr ⟨f, hf, hc⟩)

end Filter

namespace Predicate

mutual

/-- The atoms of a predicate from left to right. -/
def atoms : Predicate → List Atom
  | .atom a => [a]
  | .group _ members => atomsAll members

def atomsAll : List Predicate → List Atom
  | [] => []
  | p :: ps => atoms p ++ atomsAll ps

end

theorem renderAll_eq_map : ∀ ps : List Predicate, renderAll ps = ps.map render
  | [] => rfl
  | p :: ps => by rw [renderAll, renderAll_eq_map ps, List.map_cons]

theorem atomsAll_eq_flatMap : ∀ ps : List Predicate, atomsAll ps = ps.flatMap atoms
  | [] => rfl
  | p :: ps => by rw [atomsAll, atomsAll_eq_flatMap ps, List.flatMap_cons]

/-- Every group has at least two members, and every atom satisfies `P`. -/
inductive Regular (P : Atom → Prop) : Predicate → Prop
  | atom {a : Atom} : P a → Regular P (.atom a)
  | group {k : Connective} {p q : Predicate} {ps : List Predicate} :
      (∀ m ∈ p :: q :: ps, Regular P m) → Regular P (.group k (p :: q :: ps))

theorem Regular.mono {P Q : Atom → Prop} (h : ∀ a, P a → Q a) {p : Predicate}
    (hp : p.Regular P) : p.Regular Q := by
  induction hp with
  | atom ha => exact .atom (h _ ha)
  | group _ ih => exact .group ih

theorem regular_join {P : Atom → Prop} {k : Connective} {ps : List Predicate}
    (h : ∀ m ∈ ps, m.Regular P) : ∀ p ∈ join k ps, p.Regular P := by
  match ps, h with
  | [], _ => simp [join]
  | [p], h => simpa [join] using h
  | p :: q :: ps, h =>
    intro r hr
    obtain rfl : .group k (p :: q :: ps) = r := by simpa [join] using hr
    exact .group h

end Predicate

/-! ## Conditions -/

/-- What a condition becomes: a custom test of a text looks up a parameter, and any other test
compares a column, of which the name is accepted. -/
inductive Condition.Becomes (q : Quoting) : Condition → Atom → Prop
  | param (key : String) (test : TextTest) :
      Becomes q ⟨key, true, .text test⟩ (.param (q.literal key) (test.compile q))
  | column {field : String} (test : TextTest) : q.identifier field = .ok field →
      Becomes q ⟨field, false, .text test⟩ (.column field (test.compile q))
  | number {field : String} (custom : Bool) {test : NumberTest} {value : String} :
      q.identifier field = .ok field → q.number test.value = .ok value →
      Becomes q ⟨field, custom, .number test⟩ (.number field test.comparison value)

/-- A condition that compiles becomes its atom. -/
theorem Condition.becomes_of_compile {q : Quoting} {c : Condition} {a : Atom}
    (h : c.compile q = .ok a) : c.Becomes q a := by
  obtain ⟨field, custom, test⟩ := c
  cases test with
  | text test =>
    cases custom with
    | true =>
      obtain rfl := pure_eq_ok.mp h
      exact .param field test
    | false =>
      obtain ⟨shown, hshown, h⟩ := bind_eq_ok.mp h
      obtain rfl := pure_eq_ok.mp h
      obtain rfl := Quoting.identifier_eq hshown
      exact .column test hshown
  | number test =>
    obtain ⟨shown, hshown, h⟩ := bind_eq_ok.mp h
    obtain ⟨value, hvalue, h⟩ := bind_eq_ok.mp h
    obtain rfl := pure_eq_ok.mp h
    obtain rfl := Quoting.identifier_eq hshown
    exact .number custom hshown hvalue
  | inList test | between test => cases h

/-! ## Induction along a compilation -/

namespace Filter

/-- A property of a filter and of what it compiles to that compiling builds up from the leaves. -/
structure CompileRule (q : Quoting) (motive : Filter → Option Predicate → Prop) : Prop where
  leaf : ∀ c a, c.compile q = .ok a → motive (.leaf c) (some (.atom a))
  node : ∀ k fs parts, List.Forall₂ motive fs parts →
    motive (.node k fs) (Predicate.join k parts.reduceOption)

mutual

/-- **Induction along a compilation.** -/
theorem compileAt_rec {options : CompileOptions} {motive : Filter → Option Predicate → Prop}
    (hm : CompileRule options.quoting motive) :
    ∀ (f : Filter) {depth : UInt64} {part : Option Predicate},
      f.compileAt options depth = .ok part → motive f part
  | .leaf c, depth, part, h => by
    rw [compileAt] at h
    split at h
    · cases h
    · obtain ⟨a, ha, h⟩ := bind_eq_ok.mp h
      obtain rfl := pure_eq_ok.mp h
      exact hm.leaf c a ha
  | .node k fs, depth, part, h => by
    rw [compileAt] at h
    split at h
    · cases h
    · obtain ⟨ps, hps, h⟩ := bind_eq_ok.mp h
      obtain rfl := pure_eq_ok.mp h
      obtain ⟨parts, hparts, rfl⟩ := compileMembers_rec hm fs hps
      exact hm.node k fs parts hparts

theorem compileMembers_rec {options : CompileOptions} {motive : Filter → Option Predicate → Prop}
    (hm : CompileRule options.quoting motive) :
    ∀ (fs : List Filter) {depth : UInt64} {ps : List Predicate},
      compileMembers options depth fs = .ok ps →
        ∃ parts, List.Forall₂ motive fs parts ∧ ps = parts.reduceOption
  | [], depth, ps, h => by
    rw [compileMembers] at h
    exact ⟨[], .nil, (pure_eq_ok.mp h).symm⟩
  | f :: fs, depth, ps, h => by
    rw [compileMembers] at h
    obtain ⟨part, hpart, h⟩ := bind_eq_ok.mp h
    obtain ⟨rest, hrest, h⟩ := bind_eq_ok.mp h
    obtain rfl := pure_eq_ok.mp h
    obtain ⟨parts, hparts, rfl⟩ := compileMembers_rec hm fs hrest
    refine ⟨part :: parts, .cons (compileAt_rec hm f hpart) hparts, ?_⟩
    cases part <;> rfl

end

mutual

/-- What is left of a filter whose conditions compile. Its depth is of no account. -/
def predicate? (q : Quoting) : Filter → Option Predicate
  | .leaf c => (c.compile q).toOption.map .atom
  | .node k members => Predicate.join k (predicates q members)

def predicates (q : Quoting) : List Filter → List Predicate
  | [] => []
  | f :: fs => (predicate? q f).toList ++ predicates q fs

end

theorem predicates_eq_reduceOption (q : Quoting) :
    ∀ fs : List Filter, predicates q fs = (fs.map (predicate? q)).reduceOption
  | [] => rfl
  | f :: fs => by
    rw [predicates, predicates_eq_reduceOption q fs, List.map_cons]
    cases f.predicate? q <;> rfl

theorem predicates_append (q : Quoting) (fs gs : List Filter) :
    predicates q (fs ++ gs) = predicates q fs ++ predicates q gs := by
  simp only [predicates_eq_reduceOption, List.map_append, List.reduceOption_append]

/-- What a filter compiles to depends on neither its depth nor the limit. -/
theorem eq_predicate?_of_compileAt {options : CompileOptions} {f : Filter} {depth : UInt64}
    {part : Option Predicate} (h : f.compileAt options depth = .ok part) :
    part = f.predicate? options.quoting := by
  refine compileAt_rec (motive := fun f part => part = f.predicate? options.quoting) ⟨?_, ?_⟩ f h
  · intro c a hc
    rw [predicate?, hc]
    rfl
  · intro k fs parts hparts
    have hall : parts = fs.map (predicate? options.quoting) := by
      induction hparts with
      | nil => rfl
      | cons hpart _ ih => rw [List.map_cons, hpart, ih]
    rw [predicate?, predicates_eq_reduceOption, hall]

/-- Nothing is left of a filter exactly if it has no conditions. -/
theorem eq_none_iff_of_compileAt {options : CompileOptions} {f : Filter} {depth : UInt64}
    {part : Option Predicate} (h : f.compileAt options depth = .ok part) :
    part = none ↔ f.leaves = [] := by
  refine compileAt_rec (motive := fun f part => part = none ↔ f.leaves = []) ⟨?_, ?_⟩ f h
  · intro c a _
    simp [leaves]
  · intro k fs parts hparts
    have hjoin : ∀ ps, Predicate.join k ps = none ↔ ps = [] := by
      rintro (_ | ⟨p, _ | ⟨q, ps⟩⟩) <;> simp [Predicate.join]
    show Predicate.join k parts.reduceOption = none ↔ leavesAll fs = []
    rw [hjoin]
    induction hparts with
    | nil => simp [leavesAll]
    | @cons f part fs parts hf _ ih =>
      have hfirst : part = none ↔ f.leaves = [] := hf
      have hrest : parts.reduceOption = [] ↔ leavesAll fs = [] := ih
      rw [leavesAll, List.append_eq_nil_iff, ← hfirst, ← hrest]
      cases part <;> simp

/-- The atoms of a predicate are the compiled leaves, in order. -/
theorem leaves_of_compileAt {options : CompileOptions} {f : Filter} {depth : UInt64}
    {part : Option Predicate} (h : f.compileAt options depth = .ok part) :
    List.Forall₂ (fun c a => c.compile options.quoting = .ok a) f.leaves
      (part.toList.flatMap Predicate.atoms) := by
  refine compileAt_rec (motive := fun f part => List.Forall₂
    (fun c a => c.compile options.quoting = .ok a) f.leaves (part.toList.flatMap Predicate.atoms))
    ⟨fun c a hc => .cons hc .nil, ?_⟩ f h
  intro k fs parts hparts
  have hjoin : ∀ ps, (Predicate.join k ps).toList.flatMap Predicate.atoms =
      ps.flatMap Predicate.atoms := by
    rintro (_ | ⟨p, _ | ⟨q, ps⟩⟩)
    · rfl
    · rfl
    · simp [Predicate.join, Predicate.atoms, Predicate.atomsAll_eq_flatMap]
  rw [hjoin, leaves]
  induction hparts with
  | nil => exact .nil
  | @cons f part fs parts hf _ ih =>
    rw [leavesAll]
    cases part with
    | none =>
      rw [show f.leaves = [] from List.forall₂_nil_right_iff.mp hf, List.nil_append]
      exact ih
    | some p =>
      rw [List.reduceOption_cons_of_some, List.flatMap_cons]
      exact List.rel_append (by simpa using hf) ih

/-- The predicate of a filter is regular, and each of its atoms is a compiled leaf. -/
theorem regular_of_compileAt {options : CompileOptions} {f : Filter} {depth : UInt64}
    {p : Predicate} (h : f.compileAt options depth = .ok (some p)) :
    p.Regular fun a => ∃ c ∈ f.leaves, c.compile options.quoting = .ok a := by
  refine compileAt_rec (motive := fun f part => ∀ p ∈ part,
    p.Regular fun a => ∃ c ∈ f.leaves, c.compile options.quoting = .ok a) ⟨?_, ?_⟩ f h p rfl
  · rintro c a ha _ ⟨⟩
    exact .atom ⟨c, List.mem_singleton_self c, ha⟩
  · intro k fs parts hparts
    refine Predicate.regular_join ?_
    induction hparts with
    | nil => simp [List.reduceOption]
    | @cons f part fs parts hf _ ih =>
      intro m hm
      simp only [leaves, leavesAll] at *
      rcases List.mem_cons.mp (List.reduceOption_mem_iff.mp hm) with rfl | hm
      · exact (hf m rfl).mono fun a ⟨c, hc, ha⟩ => ⟨c, List.mem_append_left _ hc, ha⟩
      · exact (ih m (List.reduceOption_mem_iff.mpr hm)).mono fun a ⟨c, hc, ha⟩ =>
          ⟨c, List.mem_append_right _ hc, ha⟩

end Filter

/-! ## Filters without conditions -/

theorem LiteralTest.isVisible_render (subject : String) (test : LiteralTest) :
    Text.IsVisible (test.render subject) := by
  cases test with
  | equal literal => exact .append_right literal (.append_left subject (by decide))
  | notEqual literal => exact .append_right literal (.append_left subject (by decide))
  | matching literal => exact .append_left _ (by decide)
  | notMatching literal => exact .append_left _ (by decide)
  | like literal => exact .append_right literal (.append_left subject (by decide))

theorem Atom.isVisible_render (a : Atom) : Text.IsVisible a.render := by
  cases a with
  | column name test => exact test.isVisible_render name
  | param key test => exact .append_left _ (by decide)
  | number name comparison value =>
    have hsymbol : Text.IsVisible comparison.symbol := by cases comparison <;> decide
    exact .append_right value (.append_right " " (.append_left _ hsymbol))

theorem Predicate.isVisible_render (p : Predicate) : Text.IsVisible p.render := by
  cases p with
  | atom a =>
    rw [render]
    exact a.isVisible_render
  | group k members =>
    rw [render]
    exact .append_left _ (by decide)

/-- What a filter compiles to is blank exactly if the filter has no conditions. -/
theorem Filter.blank_iff {options : CompileOptions} {f : Filter} {part : Option Predicate}
    (h : f.compile options = .ok part) :
    Text.trimmed (renderPredicate part) = "" ↔ f.leaves = [] := by
  rw [← eq_none_iff_of_compileAt h]
  cases part with
  | none => simp [renderPredicate, Text.trimmed]
  | some p => simpa [renderPredicate] using p.isVisible_render.trimmed_ne_empty

end EventReport
