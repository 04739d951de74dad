import Mathlib.Logic.Relation
import EventReport.Proofs.Filter.Depth

/-! # The normal form of a filter

Groups without conditions below them leave nothing of themselves, and of a group with one member
left that member is left. `Filter.normalForm` is the filter without them: every group in it has two
members at least (`Filter.Compact`). A filter compiles to what its normal form compiles to, a group
in parentheses (`compile_normalForm`); so groups that are put around a filter, and filters without
conditions that are put beside it (`Filter.Pads`), change nothing. -/

set_option autoImplicit false

namespace EventReport

open Sql

namespace Filter

/-! ## Normal forms -/

/-- What is left of a group: nothing without members, and of one member that member. -/
def collapse (k : Connective) : List Filter → Option Filter
  | [] => none
  | [f] => some f
  | members => some (.node k members)

mutual

/-- The filter without groups that have no conditions or one member left. -/
def normalForm : Filter → Option Filter
  | .leaf c => some (.leaf c)
  | .node k members => collapse k (normalForms members)

def normalForms : List Filter → List Filter
  | [] => []
  | f :: fs => (normalForm f).toList ++ normalForms fs

end

/-- Every group of the filter has two members at least. -/
inductive Compact : Filter → Prop
  | leaf (c : Condition) : Compact (.leaf c)
  | node (k : Connective) {f g : Filter} {fs : List Filter} :
      (∀ m ∈ f :: g :: fs, Compact m) → Compact (.node k (f :: g :: fs))

/-- One group more around a filter, or one member more that has no conditions, in the filter or
within one of its groups. -/
inductive Pads : Filter → Filter → Prop
  | wrap (k : Connective) (f : Filter) : Pads f (.node k [f])
  | insert (k : Connective) (before after : List Filter) {f : Filter} : f.leaves = [] →
      Pads (.node k (before ++ after)) (.node k (before ++ f :: after))
  | member (k : Connective) (before after : List Filter) {f f' : Filter} : Pads f f' →
      Pads (.node k (before ++ f :: after)) (.node k (before ++ f' :: after))

theorem normalForms_eq_reduceOption (fs : List Filter) :
    normalForms fs = (fs.map normalForm).reduceOption := by
  induction fs with
  | nil => rfl
  | cons f fs ih =>
    rw [normalForms, ih, List.map_cons]
    cases f.normalForm <;> rfl

theorem normalForms_append (fs gs : List Filter) :
    normalForms (fs ++ gs) = normalForms fs ++ normalForms gs := by
  simp only [normalForms_eq_reduceOption, List.map_append, List.reduceOption_append]

/-! ## What is left of a group -/

theorem leavesAll_collapse (k : Connective) (gs : List Filter) :
    leavesAll (collapse k gs).toList = leavesAll gs := by
  match gs with
  | [] => rfl
  | [g] => rfl
  | f :: g :: gs => exact List.append_nil _

theorem compact_collapse (k : Connective) {gs : List Filter} (h : ∀ g ∈ gs, g.Compact) :
    ∀ g ∈ collapse k gs, g.Compact := by
  match gs, h with
  | [], _ => exact nofun
  | [g], h =>
    rintro _ ⟨⟩
    exact h g List.mem_cons_self
  | f :: g :: gs, h =>
    rintro _ ⟨⟩
    exact .node k h

theorem heightAll_collapse (k : Connective) (gs : List Filter) :
    heightAll (collapse k gs).toList ≤ heightAll gs + 1 := by
  match gs with
  | [] => exact Nat.zero_le _
  | [g] => exact Nat.le_succ _
  | f :: g :: gs => exact Nat.le_of_eq (Nat.max_zero _)

theorem predicates_collapse (q : Quoting) (k : Connective) (gs : List Filter) :
    predicates q (collapse k gs).toList = (Predicate.join k (predicates q gs)).toList := by
  match gs with
  | [] => rfl
  | [g] =>
    show predicates q [g] = (Predicate.join k (predicates q [g])).toList
    rw [predicates, predicates, List.append_nil]
    cases g.predicate? q <;> rfl
  | f :: g :: gs => exact List.append_nil _

/-! ## What the normal form keeps -/

mutual

theorem leavesAll_normalForm : ∀ f : Filter, leavesAll f.normalForm.toList = f.leaves
  | .leaf c => rfl
  | .node k fs => by rw [normalForm, leavesAll_collapse, leavesAll_normalForms fs, leaves]

theorem leavesAll_normalForms : ∀ fs : List Filter, leavesAll (normalForms fs) = leavesAll fs
  | [] => rfl
  | f :: fs => by
    rw [normalForms, leavesAll, ← leavesAll_normalForms fs, ← leavesAll_normalForm f]
    simp only [leavesAll_eq_flatMap, List.flatMap_append]

end

mutual

theorem compact_normalForm : ∀ f : Filter, ∀ g ∈ f.normalForm, g.Compact
  | .leaf c => by
    rintro _ ⟨⟩
    exact .leaf c
  | .node k fs => compact_collapse k (compact_normalForms fs)

theorem compact_normalForms : ∀ fs : List Filter, ∀ g ∈ normalForms fs, g.Compact
  | [] => nofun
  | f :: fs => by
    intro g hg
    rcases List.mem_append.mp hg with hg | hg
    · exact compact_normalForm f g (Option.mem_toList.mp hg)
    · exact compact_normalForms fs g hg

end

mutual

theorem heightAll_normalForm : ∀ f : Filter, heightAll f.normalForm.toList ≤ f.height
  | .leaf c => Nat.le_of_eq (Nat.max_zero _)
  | .node k fs => by
    rw [normalForm, height]
    exact (heightAll_collapse k _).trans (Nat.succ_le_succ (heightAll_normalForms fs))

theorem heightAll_normalForms : ∀ fs : List Filter, heightAll (normalForms fs) ≤ heightAll fs
  | [] => Nat.le_refl 0
  | f :: fs => by
    have hfirst := heightAll_normalForm f
    have hrest := heightAll_normalForms fs
    rw [normalForms, heightAll_append, heightAll]
    omega

end

mutual

/-- The same is left of the normal form as of the filter. -/
theorem predicates_normalForm (q : Quoting) :
    ∀ f : Filter, predicates q f.normalForm.toList = (f.predicate? q).toList
  | .leaf c => List.append_nil _
  | .node k fs => by
    rw [normalForm, predicates_collapse, predicates_normalForms q fs, predicate?]

theorem predicates_normalForms (q : Quoting) :
    ∀ fs : List Filter, predicates q (normalForms fs) = predicates q fs
  | [] => rfl
  | f :: fs => by
    rw [normalForms, predicates_append, predicates_normalForm q f, predicates_normalForms q fs,
      predicates]

end

/-! ## The normal form of a filter with conditions -/

/-- A compact filter is its own normal form. -/
theorem Compact.normalForm_eq {f : Filter} (h : f.Compact) : f.normalForm = some f := by
  induction h with
  | leaf c => rfl
  | @node k f g fs _ ih =>
    have hmembers : normalForms (f :: g :: fs) = f :: g :: fs := by
      rw [normalForms_eq_reduceOption, List.map_congr_left ih, List.reduceOption,
        List.filterMap_map]
      exact List.filterMap_some
    rw [normalForm, hmembers]
    rfl

/-- Filters of one normal form have the same conditions. -/
theorem leaves_eq_of_normalForm_eq {f g : Filter} (h : g.normalForm = f.normalForm) :
    g.leaves = f.leaves := by
  rw [← leavesAll_normalForm g, h, leavesAll_normalForm]

/-- Filters of one normal form become the same predicate. -/
theorem predicate?_eq_of_normalForm_eq (q : Quoting) {f g : Filter}
    (h : g.normalForm = f.normalForm) : g.predicate? q = f.predicate? q := by
  have hlists : (g.predicate? q).toList = (f.predicate? q).toList := by
    rw [← predicates_normalForm, h, predicates_normalForm]
  simpa using congrArg List.head? hlists

theorem height_le_of_normalForm {f g : Filter} (h : f.normalForm = some g) :
    g.height ≤ f.height := by
  have hheight := heightAll_normalForm f
  rw [h] at hheight
  exact (Nat.le_max_left _ _).trans hheight

theorem Compact.noEmptyGroup {f : Filter} (h : f.Compact) : f.NoEmptyGroup := by
  induction h with
  | leaf c => exact .leaf c
  | node k _ ih => exact .node k (List.cons_ne_nil _ _) ih

/-- There is no normal form exactly of a filter that has no conditions. -/
theorem normalForm_eq_none_iff {f : Filter} : f.normalForm = none ↔ f.leaves = [] := by
  cases h : f.normalForm with
  | none => simp [← leavesAll_normalForm f, h, leavesAll]
  | some g =>
    have hcompact := compact_normalForm f g h
    rw [← leaves_eq_of_normalForm_eq (hcompact.normalForm_eq.trans h.symm)]
    simpa using hcompact.noEmptyGroup.leaves_ne_nil

/-- A compact filter whose conditions compile becomes a predicate, and a group of it a group. -/
theorem Compact.exists_predicate? {q : Quoting} {f : Filter} (h : f.Compact)
    (hconditions : ∀ c ∈ f.leaves, c.faults q = []) :
    ∃ p, f.predicate? q = some p ∧ ∀ k fs, f = .node k fs → ∃ ps, p = .group k ps := by
  induction h with
  | leaf c =>
    have hfaults : c.faults q = [] := hconditions c (List.mem_singleton_self c)
    obtain ⟨a, ha⟩ := (c.stopsAtFirst q).exists_ok_iff.mpr hfaults
    refine ⟨.atom a, ?_, nofun⟩
    rw [predicate?, ha]
    rfl
  | @node k f g fs _ ih =>
    rw [leaves, leavesAll_eq_flatMap] at hconditions
    have hmember : ∀ m ∈ f :: g :: fs, ∀ c ∈ m.leaves, c.faults q = [] := fun m hm c hc =>
      hconditions c (List.mem_flatMap.mpr ⟨m, hm, hc⟩)
    have hf : f ∈ f :: g :: fs := List.mem_cons_self
    have hg : g ∈ f :: g :: fs := List.mem_cons_of_mem f List.mem_cons_self
    obtain ⟨p, hp, -⟩ := ih f hf (hmember f hf)
    obtain ⟨r, hr, -⟩ := ih g hg (hmember g hg)
    refine ⟨.group k (p :: r :: predicates q fs), ?_, ?_⟩
    · rw [predicate?, predicates, predicates, hp, hr]
      rfl
    · rintro k fs ⟨⟩
      exact ⟨_, rfl⟩

/-! ## Padding -/

/-- A filter has the normal form of what it pads. -/
theorem Pads.normalForm_eq {f g : Filter} (h : f.Pads g) : g.normalForm = f.normalForm := by
  induction h with
  | wrap k f =>
    rw [normalForm, normalForms, normalForms, List.append_nil]
    cases f.normalForm <;> rfl
  | insert k before after hleafless =>
    rw [normalForm, normalForm, normalForms_append, normalForms_append, normalForms,
      normalForm_eq_none_iff.mpr hleafless]
    rfl
  | member k before after _ ih =>
    simp only [normalForm, normalForms_append, normalForms, ih]

theorem normalForm_eq_of_padded {f g : Filter} (h : Relation.ReflTransGen Pads f g) :
    g.normalForm = f.normalForm := by
  induction h with
  | refl => rfl
  | tail _ hpads ih => exact hpads.normalForm_eq.trans ih

/-- A filter compiles to what another of the same normal form compiles to, as long as the limit is
kept. -/
theorem compile_of_normalForm_eq {options : CompileOptions} {f g : Filter} {part : Option Predicate}
    (h : f.compile options = .ok part) (hsame : g.normalForm = f.normalForm) {limit : UInt64}
    (hlevels : ∀ level, 0 < level → level ≤ g.height → level % 2 ^ 64 ≤ limit.toNat) :
    g.compile ⟨limit, options.quoting⟩ = .ok part := by
  have hconditions := (exists_compileAt_iff.mp ⟨part, h⟩).1
  rw [← leaves_eq_of_normalForm_eq hsame] at hconditions
  obtain ⟨part', hpart'⟩ : ∃ part', g.compile ⟨limit, options.quoting⟩ = .ok part' :=
    exists_compileAt_iff.mpr ⟨hconditions, by simpa using hlevels⟩
  rw [hpart', eq_predicate?_of_compileAt hpart', eq_predicate?_of_compileAt h,
    predicate?_eq_of_normalForm_eq _ hsame]

end Filter

/-- **A filter compiles to what its normal form compiles to.** A filter without conditions compiles
to nothing. Any other has a normal form, under the same limit, with the same conditions and the same
text, which is in parentheses if the normal form is a group. Whatever groups are put around it or
its members, and whatever filters without conditions are put beside them, it compiles to the same
text under any limit that is kept. -/
theorem compile_normalForm {options : CompileOptions} {f : Filter} {part : Option Predicate}
    (h : f.compile options = .ok part) :
    (f.leaves = [] → renderPredicate part = "") ∧
      (f.leaves ≠ [] → ∃ g, f.normalForm = some g ∧ g.Compact ∧ g.leaves = f.leaves ∧
        g.compile options = .ok part ∧ renderPredicate part ≠ "" ∧
        ∀ k members, g = .node k members → ∃ text, renderPredicate part = "(" ++ text ++ ")") ∧
      ∀ limit g, Relation.ReflTransGen Filter.Pads f g → g.height ≤ limit.toNat →
        g.compile ⟨limit, options.quoting⟩ = .ok part := by
  obtain ⟨hconditions, hlevels⟩ := Filter.exists_compileAt_iff.mp ⟨part, h⟩
  refine ⟨fun hleafless => ?_, fun hne => ?_, fun limit g hpads hheight => ?_⟩
  · rw [(Filter.eq_none_iff_of_compileAt h).mpr hleafless, renderPredicate]
  · obtain ⟨g, hg⟩ := Option.ne_none_iff_exists'.mp (mt Filter.normalForm_eq_none_iff.mp hne)
    have hcompact := f.compact_normalForm g hg
    have hsame : g.normalForm = f.normalForm := hcompact.normalForm_eq.trans hg.symm
    have hleaves := Filter.leaves_eq_of_normalForm_eq hsame
    -- The normal form is no higher, so its levels are levels of the filter.
    have hcompile : g.compile options = .ok part :=
      Filter.compile_of_normalForm_eq h hsame fun level hlow hhigh =>
        hlevels level hlow (by simpa using hhigh.trans (Filter.height_le_of_normalForm hg))
    rw [← hleaves] at hconditions
    obtain ⟨p, hp, hgroup⟩ := hcompact.exists_predicate? hconditions
    obtain rfl : part = some p := (Filter.eq_predicate?_of_compileAt hcompile).trans hp
    refine ⟨g, hg, hcompact, hleaves, hcompile, fun hempty => ?_, fun k members hnode => ?_⟩
    · exact hne ((Filter.blank_iff h).mp (by rw [hempty]; rfl))
    · obtain ⟨ps, rfl⟩ := hgroup k members hnode
      exact ⟨_, rfl⟩
  · exact Filter.compile_of_normalForm_eq h (Filter.normalForm_eq_of_padded hpads)
      fun level _ hhigh => (Nat.mod_le level _).trans (hhigh.trans hheight)

/-- Groups that have one member left only because others vanish. -/
def layeredFilter : Filter :=
  .node .or [.node .and [.node .or [.node .and []],
      .node .or [.leaf ⟨"page", true, .text ⟨.exact, "/", false⟩⟩, .node .and [],
        .node .and [.leaf ⟨"city", false, .text ⟨.notExact, "O'Hara", false⟩⟩]]],
    .node .and []]

theorem compile_normalForm_layered :
    ∃ part g text, layeredFilter.compile ⟨5, .escaped⟩ = .ok part ∧
      layeredFilter.normalForm = some g ∧ g.Compact ∧ g.leaves = layeredFilter.leaves ∧
      g.compile ⟨5, .escaped⟩ = .ok part ∧ renderPredicate part = "(" ++ text ++ ")" ∧
      (Filter.node .and [.node .or [], layeredFilter]).compile ⟨6, .escaped⟩ = .ok part := by
  obtain ⟨part, h⟩ : ∃ part, layeredFilter.compile ⟨5, .escaped⟩ = .ok part := ⟨_, rfl⟩
  obtain ⟨-, hform, hpadded⟩ := compile_normalForm h
  obtain ⟨g, hg, hcompact, hleaves, hcompile, -, hgroup⟩ := hform nofun
  obtain ⟨text, htext⟩ := hgroup .or _ (Option.some.inj (hg.symm.trans rfl))
  refine ⟨part, g, text, h, hg, hcompact, hleaves, hcompile, htext, hpadded 6 _ ?_ (by decide)⟩
  have hwrap := Filter.Pads.wrap .and layeredFilter
  have hinsert : Filter.Pads (.node .and [layeredFilter])
      (.node .and [.node .or [], layeredFilter]) := .insert .and [] [layeredFilter] rfl
  exact .tail (.single hwrap) hinsert

end EventReport
