import Mathlib.Algebra.Group.Nat.Defs
import EventReport.Proofs.Filter.Compiling
import EventReport.Proofs.Sql.Names

/-! # The first fault of a filter

The nodes of a filter are the filter itself and those of its members, from left to right
(`Filter.nodes`). A node has a fault if its level exceeds the limit, and a condition has those of
its test, its name and its number (`Filter.Node.faults`). A filter compiles exactly if none of its
nodes has a fault, and otherwise fails with the first one (`compileAt_firstFault`).

Levels are counted in 64 bits, so the run takes a node for one whose level is smaller by a multiple
of `2 ^ 64` (`Filter.Node.counted`). What `compileAt_firstFault` says of levels that fit is drawn
from what holds of all (`Filter.stopsAtFirst_compileAt`). -/

set_option autoImplicit false

namespace EventReport

open Sql

/-! ## Conditions -/

/-- The fault of a number that escaped quoting refuses. -/
def numberFaults (q : Quoting) (text : String) : List ReportError :=
  match q with
  | .verbatim => []
  | .escaped => if isFiniteNumber (Text.trim text.toList) then [] else [.invalidNumber text]

/-- What is wrong with a condition. The name of a parameter is looked up and may be any text. -/
def Condition.faults (q : Quoting) (c : Condition) : List ReportError :=
  match c.test with
  | .text _ => if c.custom then [] else nameFaults q ['_', '.'] c.field c.field
  | .number test => nameFaults q ['_', '.'] c.field c.field ++ numberFaults q test.value
  | .inList _ => [.unsupportedTest .inList]
  | .between _ => [.unsupportedTest .between]

theorem stopsAtFirst_number (q : Quoting) (text : String) :
    StopsAtFirst (numberFaults q text) (q.number text) := by
  cases q with
  | verbatim => exact .ok text
  | escaped =>
    rw [numberFaults, Quoting.number]
    split
    · exact .ok _
    · exact .error _ []

theorem Condition.stopsAtFirst (q : Quoting) (c : Condition) :
    StopsAtFirst (c.faults q) (c.compile q) := by
  obtain ⟨field, custom, test⟩ := c
  cases test with
  | text test =>
    cases custom with
    | true => exact .ok _
    | false => exact (stopsAtFirst_identifier q field).bind_pure fun name => Atom.column name _
  | number test =>
    refine (stopsAtFirst_identifier q field).bind fun name _ => ?_
    exact (stopsAtFirst_number q test.value).bind_pure fun value => Atom.number name _ value
  | inList test | between test => exact .error _ []

namespace Filter

/-! ## Nodes -/

/-- A filter within another one, and its level there. -/
structure Node where
  level : Nat
  filter : Filter

mutual

/-- The nodes of a filter at a level: itself, and one level further those of its members in
order. -/
def nodes (level : Nat) : Filter → List Node
  | .leaf c => [⟨level, .leaf c⟩]
  | .node k members => ⟨level, .node k members⟩ :: nodesAll (level + 1) members

def nodesAll (level : Nat) : List Filter → List Node
  | [] => []
  | f :: fs => nodes level f ++ nodesAll level fs

end

/-- What is wrong with a filter apart from its members. -/
def ownFaults (q : Quoting) : Filter → List ReportError
  | .leaf c => c.faults q
  | .node _ _ => []

/-- What is wrong with a node, its level first. -/
def Node.faults (options : CompileOptions) (n : Node) : List ReportError :=
  (if options.maxDepth.toNat < n.level then [.tooDeep options.maxDepth] else []) ++
    n.filter.ownFaults options.quoting

/-- The node as it is met with by a counter of 64 bits. -/
def Node.counted (n : Node) : Node :=
  { n with level := n.level % 2 ^ 64 }

theorem Node.counted_of_lt {n : Node} (h : n.level < 2 ^ 64) : n.counted = n := by
  rw [counted, Nat.mod_eq_of_lt h]

mutual

/-- A filter has nodes at as many levels as it is high. -/
theorem mem_levels_nodes : ∀ (f : Filter) {level l : Nat},
    l ∈ (f.nodes level).map Node.level ↔ level ≤ l ∧ l < level + f.height
  | .leaf c, level, l => by
    show l ∈ [level] ↔ _
    rw [List.mem_singleton, height]
    omega
  | .node k fs, level, l => by
    show l ∈ level :: (nodesAll (level + 1) fs).map Node.level ↔ _
    rw [List.mem_cons, mem_levels_nodesAll fs, height]
    omega

theorem mem_levels_nodesAll : ∀ (fs : List Filter) {level l : Nat},
    l ∈ (nodesAll level fs).map Node.level ↔ level ≤ l ∧ l < level + heightAll fs
  | [], level, l => by
    rw [nodesAll, heightAll]
    simp
  | f :: fs, level, l => by
    rw [nodesAll, List.map_append, List.mem_append, mem_levels_nodes f, mem_levels_nodesAll fs,
      heightAll]
    omega

end

/-! ## The run stops at the first fault -/

/-- What is wrong with the nodes as the counter meets with them. -/
def countedFaults (options : CompileOptions) (ns : List Node) : List ReportError :=
  ns.flatMap fun n => n.counted.faults options

theorem countedFaults_leaf (options : CompileOptions) (level : Nat) (c : Condition) :
    countedFaults options ((leaf c).nodes level) =
      (if options.maxDepth.toNat < level % 2 ^ 64 then [.tooDeep options.maxDepth] else []) ++
        c.faults options.quoting := by
  rw [nodes, countedFaults, List.flatMap_singleton]
  rfl

theorem countedFaults_node (options : CompileOptions) (level : Nat) (k : Connective)
    (fs : List Filter) : countedFaults options ((node k fs).nodes level) =
      (if options.maxDepth.toNat < level % 2 ^ 64 then [.tooDeep options.maxDepth] else []) ++
        countedFaults options (nodesAll (level + 1) fs) := by
  rw [nodes, countedFaults, List.flatMap_cons, Node.faults]
  show (_ ++ []) ++ _ = _
  rw [List.append_nil]
  rfl

theorem tooDeep_iff {options : CompileOptions} {depth : UInt64} {level : Nat}
    (h : (depth + 1).toNat = level % 2 ^ 64) :
    options.maxDepth.toNat < level % 2 ^ 64 ↔ depth + 1 > options.maxDepth := by
  rw [gt_iff_lt, UInt64.lt_iff_toNat_lt, h]

theorem toNat_succ {depth : UInt64} {level : Nat} (h : depth.toNat = level % 2 ^ 64) :
    (depth + 1).toNat = (level + 1) % 2 ^ 64 := by
  rw [UInt64.toNat_add, h, UInt64.toNat_one]
  omega

mutual

/-- Compiling a filter stops at the first fault that the counter meets with. -/
theorem stopsAtFirst_compileAt (options : CompileOptions) :
    ∀ (f : Filter) {depth : UInt64} {level : Nat}, (depth + 1).toNat = level % 2 ^ 64 →
      StopsAtFirst (countedFaults options (f.nodes level)) (f.compileAt options depth)
  | .leaf c, depth, level, h => by
    rw [countedFaults_leaf, compileAt]
    exact .check (tooDeep_iff h) ((c.stopsAtFirst options.quoting).bind_pure _)
  | .node k fs, depth, level, h => by
    rw [countedFaults_node, compileAt]
    have hmembers := stopsAtFirst_compileMembers options fs (toNat_succ h)
    exact .check (tooDeep_iff h) (hmembers.bind_pure _)

theorem stopsAtFirst_compileMembers (options : CompileOptions) :
    ∀ (fs : List Filter) {depth : UInt64} {level : Nat}, (depth + 1).toNat = level % 2 ^ 64 →
      StopsAtFirst (countedFaults options (nodesAll level fs)) (compileMembers options depth fs)
  | [], depth, level, _ => .ok []
  | f :: fs, depth, level, h => by
    rw [nodesAll, countedFaults, List.flatMap_append, compileMembers]
    refine (stopsAtFirst_compileAt options f h).bind fun part _ => ?_
    exact (stopsAtFirst_compileMembers options fs h).bind_pure (part.toList ++ ·)

end

/-- The levels of a filter below `depth` others. -/
theorem stopsAtFirst_below (options : CompileOptions) (f : Filter) (depth : UInt64) :
    StopsAtFirst (countedFaults options (f.nodes (depth.toNat + 1))) (f.compileAt options depth) :=
  stopsAtFirst_compileAt options f (toNat_succ (Nat.mod_eq_of_lt depth.toNat_lt).symm)

end Filter

/-- **A filter fails with the first fault of its nodes.** A filter below `depth` others, all of
whose levels can be counted, compiles exactly if none of its nodes has a fault, and otherwise the
error is the first fault of the first node that has one. What it compiles to depends on neither
`depth` nor the limit. -/
theorem compileAt_firstFault {options : CompileOptions} {f : Filter} {depth : UInt64}
    (h : depth.toNat + f.height < 2 ^ 64) :
    ((∃ part, f.compileAt options depth = .ok part) ↔
        ∀ n ∈ f.nodes (depth.toNat + 1), n.faults options = []) ∧
      (∀ e, f.compileAt options depth = .error e ↔
        (f.nodes (depth.toNat + 1)).findSome? (fun n => (n.faults options).head?) = some e) ∧
      ∀ part, f.compileAt options depth = .ok part →
        ∀ limit depth' part', f.compileAt ⟨limit, options.quoting⟩ depth' = .ok part' →
          renderPredicate part' = renderPredicate part := by
  have hrun := f.stopsAtFirst_below options depth
  have hfits : Filter.countedFaults options (f.nodes (depth.toNat + 1)) =
      (f.nodes (depth.toNat + 1)).flatMap (Filter.Node.faults options) := by
    refine List.flatMap_congr fun n hn => ?_
    have hlevel := (f.mem_levels_nodes.mp (List.mem_map_of_mem hn)).2
    rw [Filter.Node.counted_of_lt (by omega)]
  rw [hfits] at hrun
  refine ⟨hrun.exists_ok_iff.trans List.flatMap_eq_nil_iff, fun e => ?_, ?_⟩
  · rw [hrun.eq_error_iff, List.head?_flatMap]
  · intro part hpart limit depth' part' hpart'
    rw [Filter.eq_predicate?_of_compileAt hpart, Filter.eq_predicate?_of_compileAt hpart']

/-- A filter with a number that is none, before a condition and a name that are refused too. -/
def refusedFilter : Filter :=
  .node .or [.leaf ⟨"a b", true, .text ⟨.exact, "1", false⟩⟩, .node .and [],
    .node .and [.leaf ⟨"value", false, .number ⟨.greater, "1e999"⟩⟩],
    .leaf ⟨"a b", false, .text ⟨.exact, "1", false⟩⟩]

theorem compileAt_firstFault_number :
    (17 : UInt64).toNat + refusedFilter.height < 2 ^ 64 ∧
      refusedFilter.compileAt ⟨20, .escaped⟩ 17 = .error (.invalidNumber "1e999") ∧
      refusedFilter.compileAt ⟨19, .escaped⟩ 17 = .error (.tooDeep 19) ∧
      ∃ part part', refusedFilter.compileAt ⟨20, .verbatim⟩ 17 = .ok part ∧
        refusedFilter.compileAt ⟨3, .verbatim⟩ 0 = .ok part' ∧
        renderPredicate part' = renderPredicate part := by
  have hfits : (17 : UInt64).toNat + refusedFilter.height < 2 ^ 64 := by decide
  obtain ⟨-, hnumber, -⟩ := @compileAt_firstFault ⟨20, .escaped⟩ _ _ hfits
  obtain ⟨-, hdeep, -⟩ := @compileAt_firstFault ⟨19, .escaped⟩ _ _ hfits
  obtain ⟨hok, -, hsame⟩ := @compileAt_firstFault ⟨20, .verbatim⟩ _ _ hfits
  obtain ⟨part, hpart⟩ := hok.mpr (by decide)
  have hpart' : ∃ part', refusedFilter.compileAt ⟨3, .verbatim⟩ 0 = .ok part' := ⟨_, rfl⟩
  obtain ⟨part', hpart'⟩ := hpart'
  exact ⟨hfits, (hnumber _).mpr (by decide +kernel), (hdeep _).mpr (by decide +kernel),
    part, part', hpart, hpart', hsame part hpart 3 0 part' hpart'⟩

end EventReport
