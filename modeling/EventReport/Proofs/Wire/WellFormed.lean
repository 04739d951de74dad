import EventReport.Proofs.Filter.Compiling
import EventReport.Wire.FilterTree

/-! # Trees of a document that are filters

A tree becomes a filter exactly if it is `FilterNode.WellFormed`: each of its nodes has one form,
each group has members, and each condition has one test. The filter then has the shape of the tree,
which is `Filter.toNode` of it. Otherwise the error is the first of the tree's faults, depth first
and from left to right (`toFilter_wellFormed`). -/

set_option autoImplicit false

namespace EventReport

/-! ## Filters as trees -/

/-- The condition as a document gives it. -/
def Condition.toNode (c : Condition) : ConditionNode :=
  let bare : ConditionNode := ⟨c.field, c.custom, none, none, none, none⟩
  match c.test with
  | .text test => { bare with text := some test }
  | .number test => { bare with number := some test }
  | .inList test => { bare with inList := some test }
  | .between test => { bare with between := some test }

namespace Filter

mutual

/-- The filter as a document gives it. -/
def toNode : Filter → FilterNode
  | .leaf c => .node none none (some c.toNode)
  | .node .and fs => .node (some (toNodes fs)) none none
  | .node .or fs => .node none (some (toNodes fs)) none

def toNodes : List Filter → List FilterNode
  | [] => []
  | f :: fs => toNode f :: toNodes fs

end

end Filter

/-! ## Well-formed trees and faults -/

/-- The number of tests that the condition has. -/
def ConditionNode.testCount (c : ConditionNode) : Nat :=
  [c.text.isSome, c.number.isSome, c.inList.isSome, c.between.isSome].count true

/-- What is wrong with the condition. -/
def ConditionNode.faults (c : ConditionNode) : List Misconstruction :=
  if c.testCount = 0 then [.noTest c.field]
  else if c.testCount = 1 then []
  else [.severalTests c.field]

namespace FilterNode

/-- The number of forms that the node has. -/
def formCount : FilterNode → Nat
  | .node allOf anyOf condition => [allOf.isSome, anyOf.isSome, condition.isSome].count true

/-- Each node has one form, each group has members, and each condition has one test. -/
inductive WellFormed : FilterNode → Prop
  | node {allOf anyOf : Option (List FilterNode)} {condition : Option ConditionNode} :
      (FilterNode.node allOf anyOf condition).formCount = 1 →
      (∀ ns ∈ allOf, ns ≠ []) → (∀ ns ∈ allOf, ∀ n ∈ ns, WellFormed n) →
      (∀ ns ∈ anyOf, ns ≠ []) → (∀ ns ∈ anyOf, ∀ n ∈ ns, WellFormed n) →
      (∀ c ∈ condition, c.testCount = 1) → WellFormed (.node allOf anyOf condition)

mutual

/-- What is wrong with the tree, depth first and from left to right. Nothing is looked at below a
node that has no form or several. -/
def faults : FilterNode → List Misconstruction
  | .node allOf anyOf condition =>
    if (FilterNode.node allOf anyOf condition).formCount = 1 then
      groupFaults allOf ++ groupFaults anyOf ++ condition.toList.flatMap ConditionNode.faults
    else [.notOneVariant]

def groupFaults : Option (List FilterNode) → List Misconstruction
  | none => []
  | some [] => [.emptyGroup]
  | some (n :: ns) => faults n ++ memberFaults ns

def memberFaults : List FilterNode → List Misconstruction
  | [] => []
  | n :: ns => faults n ++ memberFaults ns

end

end FilterNode

/-! ## The first fault -/

theorem ConditionNode.stopsAtFirst_toCondition (c : ConditionNode) :
    StopsAtFirst (c.faults.map .construction) c.toCondition := by
  obtain ⟨field, custom, text, number, inList, between⟩ := c
  cases text <;> cases number <;> cases inList <;> cases between <;> constructor

theorem ConditionNode.faults_eq_nil {c : ConditionNode} : c.faults = [] ↔ c.testCount = 1 := by
  unfold ConditionNode.faults
  split
  · simp_all
  · split <;> simp_all

namespace FilterNode

theorem faults_node {allOf anyOf : Option (List FilterNode)} {condition : Option ConditionNode}
    (h : (FilterNode.node allOf anyOf condition).formCount = 1) :
    (FilterNode.node allOf anyOf condition).faults =
      groupFaults allOf ++ groupFaults anyOf ++ condition.toList.flatMap ConditionNode.faults := by
  rw [faults, if_pos h]

theorem faults_allOf (ns : List FilterNode) :
    (FilterNode.node (some ns) none none).faults = groupFaults (some ns) := by
  rw [faults_node rfl, groupFaults]
  simp

theorem faults_anyOf (ns : List FilterNode) :
    (FilterNode.node none (some ns) none).faults = groupFaults (some ns) := by
  rw [faults_node rfl, groupFaults]
  simp

theorem faults_condition (c : ConditionNode) :
    (FilterNode.node none none (some c)).faults = c.faults := by
  rw [faults_node rfl, groupFaults]
  simp

/-- A group has the faults of its members, and one if it has none. -/
theorem stopsAtFirst_group (k : Connective) {ns : List FilterNode}
    (h : StopsAtFirst ((memberFaults ns).map .construction) (toFilters ns)) :
    StopsAtFirst ((groupFaults (some ns)).map .construction)
      (toFilters ns >>= Filter.group k) := by
  cases ns with
  | nil => exact .error _ []
  | cons n ns =>
    have hgroup : ∀ fs, toFilters (n :: ns) = .ok fs → StopsAtFirst [] (Filter.group k fs) := by
      intro fs hfs
      rw [toFilters] at hfs
      obtain ⟨f, -, hfs⟩ := bind_eq_ok.mp hfs
      obtain ⟨fs, -, hfs⟩ := bind_eq_ok.mp hfs
      obtain rfl := pure_eq_ok.mp hfs
      exact .ok _
    have := h.bind hgroup
    rwa [List.append_nil] at this

mutual

theorem stopsAtFirst_toFilter : ∀ n : FilterNode,
    StopsAtFirst (n.faults.map .construction) n.toFilter
  | .node (some ns) none none => by
    rw [faults_allOf, toFilter]
    exact stopsAtFirst_group .and (stopsAtFirst_toFilters ns)
  | .node none (some ns) none => by
    rw [faults_anyOf, toFilter]
    exact stopsAtFirst_group .or (stopsAtFirst_toFilters ns)
  | .node none none (some c) => by
    rw [faults_condition, toFilter]
    exact c.stopsAtFirst_toCondition.bind_pure Filter.leaf
  | .node none none none => .error _ []
  | .node (some _) (some _) none => .error _ []
  | .node (some _) none (some _) => .error _ []
  | .node none (some _) (some _) => .error _ []
  | .node (some _) (some _) (some _) => .error _ []

theorem stopsAtFirst_toFilters : ∀ ns : List FilterNode,
    StopsAtFirst ((memberFaults ns).map .construction) (toFilters ns)
  | [] => .ok []
  | n :: ns => by
    rw [memberFaults, toFilters, List.map_append]
    refine (stopsAtFirst_toFilter n).bind fun f _ => ?_
    exact (stopsAtFirst_toFilters ns).bind_pure (f :: ·)

end

/-! ## Trees without faults -/

theorem memberFaults_eq_nil {ns : List FilterNode} :
    memberFaults ns = [] ↔ ∀ n ∈ ns, n.faults = [] := by
  induction ns with
  | nil => simp [memberFaults]
  | cons n ns ih => simp [memberFaults, ih]

theorem groupFaults_eq_nil {group : Option (List FilterNode)} :
    groupFaults group = [] ↔ ∀ ns ∈ group, ns ≠ [] ∧ ∀ n ∈ ns, n.faults = [] := by
  match group with
  | none => simp [groupFaults]
  | some [] => simp [groupFaults]
  | some (n :: ns) => simp [groupFaults, memberFaults_eq_nil]

/-- A node without faults has one form, and no faults below it. -/
theorem faults_node_eq_nil {allOf anyOf : Option (List FilterNode)}
    {condition : Option ConditionNode} :
    (FilterNode.node allOf anyOf condition).faults = [] ↔
      (FilterNode.node allOf anyOf condition).formCount = 1 ∧ groupFaults allOf = [] ∧
        groupFaults anyOf = [] ∧ ∀ c ∈ condition, c.testCount = 1 := by
  rw [faults]
  split
  · rename_i hone
    cases condition <;> simp [hone, ConditionNode.faults_eq_nil]
  · rename_i hone
    simp [hone]

theorem WellFormed.faults_eq_nil {n : FilterNode} (h : n.WellFormed) : n.faults = [] := by
  induction h with
  | @node allOf anyOf condition hone hall _ hany _ hcondition ihall ihany =>
    rw [faults_node_eq_nil, groupFaults_eq_nil, groupFaults_eq_nil]
    exact ⟨hone, fun ns hns => ⟨hall ns hns, ihall ns hns⟩,
      fun ns hns => ⟨hany ns hns, ihany ns hns⟩, hcondition⟩

theorem wellFormed_of_faults : ∀ n : FilterNode, n.faults = [] → n.WellFormed
  | .node allOf anyOf condition, h => by
    rw [faults_node_eq_nil, groupFaults_eq_nil, groupFaults_eq_nil] at h
    obtain ⟨hone, hall, hany, hcondition⟩ := h
    exact .node hone (fun ns hns => (hall ns hns).1)
      (fun ns hns n hn => wellFormed_of_faults n ((hall ns hns).2 n hn))
      (fun ns hns => (hany ns hns).1)
      (fun ns hns n hn => wellFormed_of_faults n ((hany ns hns).2 n hn)) hcondition
  termination_by n => sizeOf n
  decreasing_by
    all_goals
      obtain rfl := Option.mem_def.mp hns
      have := List.sizeOf_lt_of_mem hn
      simp only [node.sizeOf_spec, Option.some.sizeOf_spec]
      omega

theorem wellFormed_iff {n : FilterNode} : n.WellFormed ↔ n.faults = [] :=
  ⟨WellFormed.faults_eq_nil, wellFormed_of_faults n⟩

/-! ## The shape of the filter -/

theorem toCondition_toNode (c : Condition) : c.toNode.toCondition = .ok c := by
  obtain ⟨field, custom, test⟩ := c
  cases test <;> rfl

theorem toCondition_eq_ok {c : ConditionNode} {d : Condition} (h : c.toCondition = .ok d) :
    c = d.toNode := by
  obtain ⟨field, custom, text, number, inList, between⟩ := c
  cases text <;> cases number <;> cases inList <;> cases between <;> cases h <;> rfl

theorem group_eq_ok {k : Connective} {fs : List Filter} {f : Filter} :
    Filter.group k fs = .ok f ↔ f = .node k fs ∧ fs ≠ [] := by
  cases fs with
  | nil => simp [Filter.group, throw, throwThe, MonadExceptOf.throw]
  | cons g fs =>
    simp only [Filter.group, List.isEmpty_cons, Bool.false_eq_true, if_false, pure_eq_ok, ne_eq,
      reduceCtorEq, not_false_eq_true, and_true]
    exact eq_comm

mutual

/-- A filter has the shape of the tree that it is made of, and no empty group. -/
theorem toFilter_eq_ok : ∀ {n : FilterNode} {f : Filter}, n.toFilter = .ok f →
    n = f.toNode ∧ f.NoEmptyGroup
  | .node (some ns) none none, f, h => by
    rw [toFilter] at h
    obtain ⟨fs, hfs, h⟩ := bind_eq_ok.mp h
    obtain ⟨rfl, hne⟩ := group_eq_ok.mp h
    obtain ⟨rfl, hmembers⟩ := toFilters_eq_ok hfs
    exact ⟨rfl, .node .and hne hmembers⟩
  | .node none (some ns) none, f, h => by
    rw [toFilter] at h
    obtain ⟨fs, hfs, h⟩ := bind_eq_ok.mp h
    obtain ⟨rfl, hne⟩ := group_eq_ok.mp h
    obtain ⟨rfl, hmembers⟩ := toFilters_eq_ok hfs
    exact ⟨rfl, .node .or hne hmembers⟩
  | .node none none (some c), f, h => by
    rw [toFilter] at h
    obtain ⟨d, hd, h⟩ := bind_eq_ok.mp h
    obtain rfl := pure_eq_ok.mp h
    obtain rfl := toCondition_eq_ok hd
    exact ⟨rfl, .leaf d⟩
  | .node none none none, f, h => by cases h
  | .node (some _) (some _) none, f, h => by cases h
  | .node (some _) none (some _), f, h => by cases h
  | .node none (some _) (some _), f, h => by cases h
  | .node (some _) (some _) (some _), f, h => by cases h

theorem toFilters_eq_ok : ∀ {ns : List FilterNode} {fs : List Filter}, toFilters ns = .ok fs →
    ns = Filter.toNodes fs ∧ ∀ f ∈ fs, f.NoEmptyGroup
  | [], fs, h => by
    obtain rfl := pure_eq_ok.mp h
    exact ⟨rfl, nofun⟩
  | n :: ns, fs, h => by
    rw [toFilters] at h
    obtain ⟨f, hf, h⟩ := bind_eq_ok.mp h
    obtain ⟨fs, hfs, h⟩ := bind_eq_ok.mp h
    obtain rfl := pure_eq_ok.mp h
    obtain ⟨rfl, hfull⟩ := toFilter_eq_ok hf
    obtain ⟨rfl, hfulls⟩ := toFilters_eq_ok hfs
    exact ⟨rfl, List.forall_mem_cons.mpr ⟨hfull, hfulls⟩⟩

end

theorem toFilters_toNodes {fs : List Filter} (h : ∀ f ∈ fs, f.toNode.toFilter = .ok f) :
    toFilters (Filter.toNodes fs) = .ok fs := by
  induction fs with
  | nil => rfl
  | cons f fs ih =>
    obtain ⟨hf, hfs⟩ := List.forall_mem_cons.mp h
    rw [Filter.toNodes, toFilters, hf, ih hfs]
    rfl

/-- The tree of a filter without empty groups becomes the filter again. -/
theorem toFilter_toNode {f : Filter} (h : f.NoEmptyGroup) : f.toNode.toFilter = .ok f := by
  induction h with
  | leaf c =>
    rw [Filter.toNode, toFilter, toCondition_toNode]
    rfl
  | @node k fs hne _ ih =>
    have hgroup : (toFilters (Filter.toNodes fs) >>= Filter.group k) = .ok (.node k fs) :=
      bind_eq_ok.mpr ⟨fs, toFilters_toNodes ih, group_eq_ok.mpr ⟨rfl, hne⟩⟩
    cases k <;> rwa [Filter.toNode, toFilter]

end FilterNode

/-- **A tree of a document becomes a filter exactly if it is well formed.** The filter then has the
shape of the tree and no empty group; otherwise the error is the first of the tree's faults. -/
theorem toFilter_wellFormed (n : FilterNode) :
    ((∃ f, n.toFilter = .ok f) ↔ n.WellFormed) ∧
      (∀ f, n.toFilter = .ok f ↔ n = f.toNode ∧ f.NoEmptyGroup) ∧
      ∀ e, n.toFilter = .error e ↔
        ∃ fault, n.faults.head? = some fault ∧ e = .construction fault := by
  have hrun := n.stopsAtFirst_toFilter
  refine ⟨?_, fun f => ⟨FilterNode.toFilter_eq_ok, ?_⟩, fun e => ?_⟩
  · rw [hrun.exists_ok_iff, FilterNode.wellFormed_iff, List.map_eq_nil_iff]
  · rintro ⟨rfl, hfull⟩
    exact FilterNode.toFilter_toNode hfull
  · rw [hrun.eq_error_iff, List.head?_map, Option.map_eq_some_iff]
    simp only [eq_comm]

/-- The first fault is that of the empty group, as it stands to the left. -/
example :
    (FilterNode.node (some [.node none (some []) none, .node none none none]) none none).faults =
      [.emptyGroup, .notOneVariant] := by
  decide

end EventReport
