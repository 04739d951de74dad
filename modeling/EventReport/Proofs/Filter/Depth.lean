import EventReport.Proofs.Filter.Faults

/-! # The depth of filters that compile

A filter compiles exactly if its conditions do and none of its levels, as the counter shows them,
exceeds the limit (`Filter.exists_compileAt_iff`). The counter has 64 bits. As long as it can count
the levels, a filter that compiles keeps within the limit; it cannot only below the greatest depth
or under the greatest limit (`compileAt_depth`). Below the greatest depth the levels are counted
from zero again, and a filter compiles that should not (`compileAt_wraps`). -/

set_option autoImplicit false

namespace EventReport

open Sql

namespace Filter

mutual

/-- Apart from their levels, the faults of nodes are those of conditions. -/
theorem ownFaults_nodes (q : Quoting) : ∀ (f : Filter) (level : Nat),
    (f.nodes level).flatMap (fun n => n.filter.ownFaults q) = f.leaves.flatMap (·.faults q)
  | .leaf c, level => by
    rw [nodes, leaves, List.flatMap_singleton, List.flatMap_singleton, ownFaults]
  | .node k fs, level => by
    rw [nodes, leaves, List.flatMap_cons, ownFaults_nodesAll q fs, ownFaults, List.nil_append]

theorem ownFaults_nodesAll (q : Quoting) : ∀ (fs : List Filter) (level : Nat),
    (nodesAll level fs).flatMap (fun n => n.filter.ownFaults q) =
      (leavesAll fs).flatMap (·.faults q)
  | [], level => rfl
  | f :: fs, level => by
    rw [nodesAll, leavesAll, List.flatMap_append, List.flatMap_append, ownFaults_nodes q f,
      ownFaults_nodesAll q fs]

end

theorem Node.faults_eq_nil {options : CompileOptions} {n : Node} : n.faults options = [] ↔
    n.level ≤ options.maxDepth.toNat ∧ n.filter.ownFaults options.quoting = [] := by
  rw [faults, List.append_eq_nil_iff]
  refine and_congr_left' ?_
  split <;> simp_all

/-- A filter compiles exactly if its conditions do and its levels are counted up to the limit. -/
theorem exists_compileAt_iff {options : CompileOptions} {f : Filter} {depth : UInt64} :
    (∃ part, f.compileAt options depth = .ok part) ↔
      (∀ c ∈ f.leaves, c.faults options.quoting = []) ∧
        ∀ level, depth.toNat < level → level ≤ depth.toNat + f.height →
          level % 2 ^ 64 ≤ options.maxDepth.toNat := by
  have hlevels : (∀ n ∈ f.nodes (depth.toNat + 1), n.level % 2 ^ 64 ≤ options.maxDepth.toNat) ↔
      ∀ level, depth.toNat < level → level ≤ depth.toNat + f.height →
        level % 2 ^ 64 ≤ options.maxDepth.toNat := by
    rw [← List.forall_mem_map (P := fun level => level % 2 ^ 64 ≤ options.maxDepth.toNat)]
    refine forall_congr' fun level => ?_
    rw [mem_levels_nodes, and_imp, Nat.succ_le_iff, Nat.add_right_comm, Nat.lt_succ_iff]
  have hconditions : (∀ n ∈ f.nodes (depth.toNat + 1), n.filter.ownFaults options.quoting = []) ↔
      ∀ c ∈ f.leaves, c.faults options.quoting = [] := by
    rw [← List.flatMap_eq_nil_iff, ownFaults_nodes, List.flatMap_eq_nil_iff]
  rw [(f.stopsAtFirst_below options depth).exists_ok_iff, countedFaults, List.flatMap_eq_nil_iff,
    ← hlevels, ← hconditions, ← forall₂_and]
  refine forall₂_congr fun n _ => ?_
  rw [Node.faults_eq_nil, and_comm]
  rfl

end Filter

/-- **How deep a filter reaches that compiles.** Below `depth` others it keeps within the limit
exactly if its levels can be counted. Under a limit that is not the greatest, the levels are at
least counted up to it from where the counter starts. So the levels cannot be counted only below
the greatest depth or under the greatest limit. -/
theorem compileAt_depth {options : CompileOptions} {f : Filter} {depth : UInt64}
    {part : Option Predicate} (h : f.compileAt options depth = .ok part) :
    (depth.toNat + f.height ≤ options.maxDepth.toNat ↔ depth.toNat + f.height < 2 ^ 64) ∧
      (options.maxDepth.toNat + 1 < 2 ^ 64 →
        (depth + 1).toNat + f.height ≤ options.maxDepth.toNat + 1) ∧
      (2 ^ 64 ≤ depth.toNat + f.height →
        depth.toNat + 1 = 2 ^ 64 ∨ options.maxDepth.toNat + 1 = 2 ^ 64) := by
  obtain ⟨-, hlevels⟩ := Filter.exists_compileAt_iff.mp ⟨part, h⟩
  have hheight := f.one_le_height
  have hlimit := options.maxDepth.toNat_lt
  have hnext : (depth + 1).toNat = (depth.toNat + 1) % 2 ^ 64 := by
    rw [UInt64.toNat_add, UInt64.toNat_one]
  have hcounted : options.maxDepth.toNat + 1 < 2 ^ 64 →
      (depth + 1).toNat + f.height ≤ options.maxDepth.toNat + 1 := by
    intro hless
    by_contra hover
    -- The counter starts within the limit, and would reach the number after it.
    have hfirst := hlevels (depth.toNat + 1) (by omega) (by omega)
    have hafter := hlevels (depth.toNat + 1 + (options.maxDepth.toNat + 1 - (depth + 1).toNat))
      (by omega) (by omega)
    omega
  refine ⟨⟨fun hguard => by omega, fun hfits => ?_⟩, hcounted, fun hover => ?_⟩
  · have hlast := hlevels (depth.toNat + f.height) (by omega) (Nat.le_refl _)
    rwa [Nat.mod_eq_of_lt hfits] at hlast
  · by_contra hless
    have := hcounted (by omega)
    have := depth.toNat_lt
    omega

/-- A condition within two groups. -/
def nestedFilter : Filter :=
  .node .or [.node .and [.leaf ⟨"a", false, .text ⟨.exact, "1", false⟩⟩], .node .and []]

/-- Three levels keep within a limit of twenty below seventeen others, and below the greatest depth
they are counted from zero. -/
theorem compileAt_depth_nested :
    (∃ part, nestedFilter.compileAt { maxDepth := 20 } 17 = .ok part) ∧
      (17 : UInt64).toNat + nestedFilter.height ≤ (20 : UInt64).toNat ∧
      (∃ part, nestedFilter.compileAt { maxDepth := 2 } 18446744073709551615 = .ok part) ∧
      (18446744073709551615 + 1 : UInt64).toNat + nestedFilter.height ≤ (2 : UInt64).toNat + 1 ∧
      (18446744073709551615 : UInt64).toNat + 1 = 2 ^ 64 := by
  obtain ⟨part, hpart⟩ :
    ∃ part, nestedFilter.compileAt { maxDepth := 20 } 17 = .ok part := ⟨_, rfl⟩
  obtain ⟨last, hlast⟩ :
    ∃ part, nestedFilter.compileAt { maxDepth := 2 } 18446744073709551615 = .ok part := ⟨_, rfl⟩
  obtain ⟨hguard, -, -⟩ := compileAt_depth hpart
  obtain ⟨-, hcounted, hover⟩ := compileAt_depth hlast
  refine ⟨⟨part, hpart⟩, hguard.mpr (by decide), ⟨last, hlast⟩, hcounted (by decide), ?_⟩
  exact (hover (by decide)).resolve_right (by decide)

/-- Below the greatest depth a condition compiles, though its level exceeds the limit. -/
theorem compileAt_wraps :
    ∃ part, (Filter.leaf ⟨"a", false, .text ⟨.exact, "1", false⟩⟩).compileAt {}
        18446744073709551615 = .ok part ∧
      ¬ (18446744073709551615 : UInt64).toNat +
          (Filter.leaf ⟨"a", false, .text ⟨.exact, "1", false⟩⟩).height ≤
        ({} : CompileOptions).maxDepth.toNat :=
  ⟨_, rfl, by decide⟩

end EventReport
