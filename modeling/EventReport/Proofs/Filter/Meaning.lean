import EventReport.Proofs.Filter.Tokens
import EventReport.Proofs.Sql.Formula

/-! # The meaning of a compiled filter

The text of a compiled filter reads back (`Formula.ofText?`) as a formula whose operands are the
compiled leaves in order, and which has the truth value of the filter without the groups that have
no leaves (`Filter.prune`), whatever the truth values of the leaves (`compile_meaning`).

The proof goes through the predicate that the filter compiles to: its text is read as
`Predicate.formula`, and that has the meaning of the filter (`SameMeaning`). -/

set_option autoImplicit false

namespace EventReport

open Sql

/-! ## Truth values -/

namespace Filter

/-- A group, if it has members. -/
def group? (k : Connective) : List Filter → Option Filter
  | [] => none
  | members => some (.node k members)

mutual

/-- The filter without the groups that have no leaves, if it has any itself. -/
def prune : Filter → Option Filter
  | .leaf c => some (.leaf c)
  | .node k members => group? k (pruneAll members)

def pruneAll : List Filter → List Filter
  | [] => []
  | f :: fs => (prune f).toList ++ pruneAll fs

end

mutual

/-- The truth value of the filter, whose leaves from left to right have the values `v i`,
`v (i + 1)` and so on. -/
def holds (v : Nat → Bool) (i : Nat) : Filter → Bool
  | .leaf _ => v i
  | .node k members => k.decide (holdsAll v i members)

def holdsAll (v : Nat → Bool) (i : Nat) : List Filter → List Bool
  | [] => []
  | f :: fs => f.holds v i :: holdsAll v (i + f.leaves.length) fs

end

end Filter

/-! ## Operands -/

/-- The atom as an operand: the tokens of its text, without the NOT before it. -/
def Atom.literal (a : Atom) : Bool × List Token :=
  (a.negated, significant ((tokens? false a.positive.render).getD []))

/-- The formula of the atom, whose operand is its text without the NOT before it. -/
def Atom.formula (a : Atom) : Formula :=
  if a.negated then .not (.operand (significant a.positive.tokens))
  else .operand (significant a.positive.tokens)

/-- The name is none of the words that make up formulas. -/
def IsColumnName (name : String) : Prop :=
  ∀ keyword ∈ ["AND", "OR", "NOT"], (Token.word name).isKeyword keyword = false

instance (name : String) : Decidable (IsColumnName name) :=
  inferInstanceAs (Decidable (∀ keyword ∈ ["AND", "OR", "NOT"], _ = _))

theorem IsColumnName.ofToken? {name : String} (h : IsColumnName name) :
    Symbol.ofToken? (.word name) = none := by
  simp only [IsColumnName, List.forall_mem_cons] at h
  obtain ⟨hand, hor, hnot, -⟩ := h
  simp [Symbol.ofToken?, hand, hor, hnot]

theorem isColumnName_of_isNumeral {text : String} (h : IsNumeral text) : IsColumnName text := by
  simp only [IsColumnName, List.forall_mem_cons]
  exact ⟨h.not_isKeyword (by decide), h.not_isKeyword (by decide), h.not_isKeyword (by decide),
    nofun⟩

theorem ofToken?_of_mem_numberTokens {value : String} (h : IsNumber value) :
    ∀ t ∈ numberTokens value, Symbol.ofToken? t = none := by
  intro t ht
  rcases h.tokens.1.sign_or_numeral t ht with ⟨c, rfl | rfl, rfl⟩ | ⟨text, hn, rfl⟩
  · decide
  · decide
  · exact (isColumnName_of_isNumeral hn).ofToken?

theorem symbols_comparison {name : String} (h : IsColumnName name) {ts : List Token}
    (hts : ∀ t ∈ ts, Symbol.ofToken? t = none) :
    Symbols (significant (.word name :: ts)) [.operand (significant (.word name :: ts))] := by
  have hsplit : significant (.word name :: ts) = .word name :: significant ts := rfl
  refine symbols_operand (by simp [hsplit]) fun t ht => ?_
  rcases List.mem_cons.mp (List.mem_of_mem_filter ht) with rfl | ht
  · exact h.ofToken?
  · exact hts t ht

theorem symbols_matching (name l : String) :
    Symbols (significant (matchingTokens name l))
      [.operand (significant (matchingTokens name l))] := by
  have harguments : Balanced [.word name, .mark ',', .literal l] := balanced_of_all_isFlat rfl
  exact symbols_call (by decide) (by decide) harguments

theorem LiteralTest.symbols {name : String} (h : IsColumnName name) (test : LiteralTest) :
    Symbols (significant (test.positive.tokens name))
      [.operand (significant (test.positive.tokens name))] := by
  cases test with
  | equal l | notEqual l | like l =>
    refine symbols_comparison h ?_
    simp only [List.forall_mem_cons]
    refine ⟨by decide, ?_⟩
    simp [Symbol.ofToken?, Token.isKeyword]
  | matching l | notMatching l => exact symbols_matching name l

theorem Atom.symbols {a : Atom} (h : a.Clean) (hr : ∀ name ∈ a.column?, IsColumnName name) :
    Symbols (significant a.positive.tokens) [.operand (significant a.positive.tokens)] := by
  cases a with
  | column name test => exact test.symbols (hr name rfl)
  | param key test =>
    have hsplit : significant (param key test).tokens =
        .word "EXISTS" :: .mark '(' :: (significant (paramTokens key test) ++ [.mark ')']) := by
      show .word "EXISTS" :: .mark '(' :: significant (paramTokens key test ++ [.mark ')']) = _
      rw [significant_append]
      rfl
    show Symbols (significant (param key test).tokens)
      [.operand (significant (param key test).tokens)]
    rw [hsplit]
    exact symbols_call (by decide) (by decide) (contained_paramTokens key test).balanced.significant
  | number name c value =>
    have hsymbol : ∀ t ∈ c.tokens, Symbol.ofToken? t = none := by cases c <;> decide
    refine symbols_comparison (hr name rfl) ?_
    simp only [List.forall_mem_cons, List.forall_mem_append]
    exact ⟨by decide, hsymbol, by decide, ofToken?_of_mem_numberTokens h.2⟩

/-- An atom is read as its operand, negated if it is. -/
theorem Atom.readsAs {a : Atom} (h : a.Clean) (hr : ∀ name ∈ a.column?, IsColumnName name) :
    ReadsAs (significant a.tokens) a.formula := by
  have hoperand := symbols h hr
  rw [a.tokens_eq, significant_append]
  cases hneg : a.negated with
  | true =>
    rw [formula, if_pos hneg]
    exact ⟨_, hoperand.cons (by decide), (reads_operand _).not⟩
  | false =>
    rw [formula, hneg]
    exact ⟨_, hoperand, reads_operand _⟩

theorem Atom.literals_formula {a : Atom} (h : a.Clean) : a.formula.literals = [a.literal] := by
  have htokens : (tokens? false a.positive.render).getD [] = a.positive.tokens := by
    rw [tokens?_of_spells (Atom.spells (Atom.clean_positive h)), Option.getD_some]
  rw [formula, literal, htokens]
  cases a.negated <;> rfl

/-! ## Predicates -/

namespace Predicate

mutual

/-- The formula of the predicate. -/
def formula : Predicate → Formula
  | .atom a => a.formula
  | .group k members => Formula.joinAll k (formulas members)

def formulas : List Predicate → List Formula
  | [] => []
  | p :: ps => formula p :: formulas ps

end

theorem formulas_eq_map : ∀ ps : List Predicate, formulas ps = ps.map formula
  | [] => rfl
  | p :: ps => by rw [formulas, formulas_eq_map ps, List.map_cons]

theorem significant_joinTokens (k : Connective) (ts : List Token) (tss : List (List Token)) :
    significant (joinTokens k.tokens (ts :: tss)) =
      significant ts ++ tss.flatMap fun ts => .word k.keyword :: significant ts := by
  have hk : significant k.tokens = [.word k.keyword] := by cases k <;> rfl
  induction tss generalizing ts with
  | nil => simp [joinTokens]
  | cons us tss ih =>
    rw [joinTokens, significant_append, significant_append, ih us, hk, List.flatMap_cons]
    simp

/-- A predicate with clean atoms whose columns are told from connectives is read as its formula. -/
theorem readsAs {p : Predicate}
    (h : p.Regular fun a => a.Clean ∧ ∀ name ∈ a.column?, IsColumnName name) :
    ReadsAs (significant p.tokens) p.formula := by
  induction h with
  | atom ha => exact Atom.readsAs ha.1 ha.2
  | @group k p q ps _ ih =>
    obtain ⟨hp, hps⟩ := List.forall_mem_cons.mp ih
    have hmembers : List.Forall₂ ReadsAs ((q :: ps).map fun m => significant m.tokens)
        ((q :: ps).map formula) :=
      List.forall₂_map_left_iff.mpr (List.forall₂_map_right_iff.mpr (List.forall₂_same.mpr hps))
    have hgroup := hp.group k hmembers
    have hsplit : significant (group k (p :: q :: ps)).tokens =
        .mark '(' :: (significant p.tokens ++
          ((q :: ps).map fun m => significant m.tokens).flatMap (.word k.keyword :: ·) ++
            [.mark ')']) := by
      rw [tokens, tokensAll_eq_map, List.map_cons]
      show .mark '(' :: significant (joinTokens _ _ ++ [.mark ')']) = _
      rw [significant_append, significant_joinTokens, List.flatMap_map, List.flatMap_map]
      rfl
    rwa [hsplit, formula, formulas_eq_map]

theorem literals_formula {p : Predicate} (h : p.Regular Atom.Clean) :
    p.formula.literals = p.atoms.map Atom.literal := by
  induction h with
  | atom ha => exact Atom.literals_formula ha
  | @group k p q ps _ ih =>
    rw [formula, formulas_eq_map, Formula.literals_joinAll k (by simp), atoms, atomsAll_eq_flatMap,
      List.flatMap_map, List.map_flatMap]
    exact List.flatMap_congr ih

end Predicate

/-! ## Filters -/

namespace Filter

theorem pruneAll_eq (fs : List Filter) : pruneAll fs = (fs.map prune).reduceOption := by
  induction fs with
  | nil => rfl
  | cons f fs ih =>
    rw [pruneAll, ih, List.map_cons]
    cases f.prune <;> rfl

end Filter

/-- The formula of the predicate has the operands and the truth value of the filter. -/
structure SameMeaning (f : Filter) (p : Predicate) : Prop where
  size : p.formula.size = f.leaves.length
  value : ∀ v i, p.formula.evalLiterals v i = f.holds v i

theorem evalAll_formulas {fs : List Filter} {ps : List Predicate}
    (h : List.Forall₂ SameMeaning fs ps) (v : Nat → Bool) (i : Nat) :
    Formula.evalAll v i (Predicate.formulas ps) = Filter.holdsAll v i fs := by
  induction h generalizing i with
  | nil => rfl
  | cons h _ ih => rw [Predicate.formulas, Formula.evalAll, Filter.holdsAll, h.value, h.size, ih]

theorem sameMeaning_group {fs : List Filter} {ps : List Predicate} (k : Connective)
    (hne : ps ≠ []) (h : List.Forall₂ SameMeaning fs ps) :
    SameMeaning (.node k fs) (.group k ps) := by
  have hne' : Predicate.formulas ps ≠ [] := by
    rw [Predicate.formulas_eq_map]
    simpa using hne
  refine ⟨?_, fun v i => ?_⟩
  · rw [Predicate.formula, ← Formula.length_literals, Formula.literals_joinAll k hne',
      Filter.leaves]
    clear hne hne'
    induction h with
    | nil => rfl
    | cons h _ ih =>
      rw [Predicate.formulas, List.flatMap_cons, List.length_append, Formula.length_literals, ih,
        h.size, Filter.leavesAll, List.length_append]
  · rw [Predicate.formula, Formula.evalLiterals_joinAll k v hne', evalAll_formulas h,
      Filter.holds]

/-- What is left of a group means what its predicates mean joined, as far as there are any. -/
theorem sameMeaning_join {fs : List Filter} {ps : List Predicate} (k : Connective)
    (h : List.Forall₂ SameMeaning fs ps) :
    Option.Rel SameMeaning (Filter.group? k fs) (Predicate.join k ps) := by
  match fs, ps, h with
  | [], [], _ => exact .none
  | [f], [p], .cons h .nil =>
    refine .some ⟨?_, fun v i => ?_⟩
    · rw [h.size, Filter.leaves, Filter.leavesAll, Filter.leavesAll, List.append_nil]
    · rw [h.value, Filter.holds, Filter.holdsAll, Filter.holdsAll]
      cases k <;> simp [Connective.decide]
  | f :: g :: fs, p :: q :: ps, h => exact .some (sameMeaning_group k (by simp) h)

namespace Filter

/-- What is left of a filter means what it compiles to. -/
theorem sameMeaning_of_compileAt {options : CompileOptions} {f : Filter} {depth : UInt64}
    {part : Option Predicate} (h : f.compileAt options depth = .ok part) :
    Option.Rel SameMeaning f.prune part := by
  refine compileAt_rec (motive := fun f part => Option.Rel SameMeaning f.prune part) ⟨?_, ?_⟩ f h
  · intro c a _
    refine .some ⟨?_, fun v i => ?_⟩
    · rw [Predicate.formula, Atom.formula, leaves]
      split <;> rfl
    · rw [Predicate.formula, Atom.formula, holds]
      split <;> rfl
  · intro k fs parts hparts
    rw [prune]
    refine sameMeaning_join k ?_
    rw [pruneAll_eq]
    induction hparts with
    | nil => exact .nil
    | @cons f part fs parts hf _ ih =>
      rw [List.map_cons]
      generalize f.prune = kept at hf
      -- What is left of a member and what it compiles to are there for both or for neither.
      cases hf with
      | none => exact ih
      | some hfp => exact .cons hfp ih

mutual

theorem leaves_prune : ∀ f : Filter, f.prune.toList.flatMap leaves = f.leaves
  | .leaf c => rfl
  | .node k members => by
    rw [prune, leaves, ← leavesAll_pruneAll members]
    cases pruneAll members with
    | nil => rfl
    | cons kept rest => simp [group?, leaves]

theorem leavesAll_pruneAll : ∀ fs : List Filter, leavesAll (pruneAll fs) = leavesAll fs
  | [] => rfl
  | f :: fs => by
    rw [pruneAll, leavesAll, ← leavesAll_pruneAll fs, ← leaves_prune f]
    simp only [leavesAll_eq_flatMap, List.flatMap_append]

end

end Filter

/-- **A compiled filter reads back with the meaning of the filter.** Its text reads as a formula of
which the operands are the compiled leaves, with a NOT before those that ask that a column does not
match and no others. The formula has the value of the filter without the groups that have no leaves,
whatever the values `v` of the leaves. -/
theorem compile_meaning {options : CompileOptions} {f : Filter} {part : Option Predicate}
    (hq : options.quoting = .escaped)
    (hf : ∀ c ∈ f.leaves, ∀ name ∈ c.column?, IsColumnName name)
    (h : f.compile options = .ok part) (hne : renderPredicate part ≠ "") :
    ∃ atoms φ kept, f.leaves.mapM (·.compile options.quoting) = .ok atoms ∧
      atoms.map Atom.negated = f.leaves.map Condition.negated ∧
      Formula.ofText? (renderPredicate part) = some φ ∧ φ.literals = atoms.map Atom.literal ∧
      f.prune = some kept ∧ kept.leaves = f.leaves ∧
      ∀ v, φ.eval (fun i => v i ^^ atoms[i]?.any Atom.negated) 0 = kept.holds v 0 := by
  obtain _ | p := part
  · exact absurd rfl hne
  have hleaves := Filter.leaves_of_compileAt h
  rw [Option.toList_some, List.flatMap_singleton] at hleaves
  have hclean := Predicate.clean_of_compileAt hq h
  have hread : p.Regular fun a => a.Clean ∧ ∀ name ∈ a.column?, IsColumnName name :=
    (Filter.regular_of_compileAt h).mono fun a ⟨c, hc, ha⟩ => by
      rw [hq] at ha
      exact ⟨Condition.clean_of_compile ha, Condition.column?_of_compile ha ▸ hf c hc⟩
  have hliterals := Predicate.literals_formula hclean
  have hmeaning := Filter.sameMeaning_of_compileAt h
  have hkept := Filter.leaves_prune f
  generalize f.prune = kept at hmeaning hkept
  obtain ⟨hsame⟩ := hmeaning
  rename_i kept
  refine ⟨p.atoms, p.formula, kept, mapM_eq_ok.mpr hleaves, map_negated_of_compile hleaves, ?_,
    hliterals, rfl, ?_, fun v => ?_⟩
  · rw [Formula.ofText?, renderPredicate, tokens?_of_spells (Predicate.spells hclean),
      Option.bind_some]
    exact (Predicate.readsAs hread).ofTokens?
  · simpa using hkept
  · -- The formula reads the NOT of an atom apart from its operand, so `v` turns for such an atom.
    rw [← hsame.value]
    refine Formula.eval_eq_evalLiterals p.formula ?_
    intro j b hj
    rw [hliterals, List.map_map, List.getElem?_map] at hj
    obtain ⟨a, ha, rfl⟩ := Option.map_eq_some_iff.mp hj
    simp [ha, Atom.literal]

/-- An AND of a group without leaves, an OR and a number. -/
def mixedFilter : Filter :=
  .node .and [.node .or [],
    .node .or [.leaf ⟨"page", false, .text ⟨.notRegexp, "it's", false⟩⟩,
      .leaf ⟨"a) OR (b", true, .text ⟨.contains, "50%", false⟩⟩],
    .leaf ⟨"value", false, .number ⟨.greater, "0"⟩⟩]

theorem compile_meaning_mixed :
    ∃ part atoms φ kept, mixedFilter.compile { quoting := .escaped } = .ok part ∧
      mixedFilter.leaves.mapM (·.compile .escaped) = .ok atoms ∧
      atoms.map Atom.negated = [true, false, false] ∧
      Formula.ofText? (renderPredicate part) = some φ ∧ φ.literals = atoms.map Atom.literal ∧
      mixedFilter.prune = some kept ∧ kept.leaves = mixedFilter.leaves ∧
      ∀ v, φ.eval (fun i => v i ^^ atoms[i]?.any Atom.negated) 0 = kept.holds v 0 := by
  obtain ⟨part, h, hne⟩ : ∃ part, mixedFilter.compile { quoting := .escaped } = .ok part ∧
      renderPredicate part ≠ "" := ⟨_, rfl, by decide⟩
  have hcolumns : ∀ c ∈ mixedFilter.leaves, ∀ name ∈ c.column?, IsColumnName name := by decide
  obtain ⟨atoms, φ, kept, hmeaning⟩ := compile_meaning rfl hcolumns h hne
  exact ⟨part, atoms, φ, kept, h, hmeaning⟩

end EventReport
