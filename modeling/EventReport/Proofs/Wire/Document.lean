import EventReport.Proofs.Calendar.Written
import EventReport.Proofs.Json.Written
import EventReport.Proofs.Report.Validity
import EventReport.Proofs.Wire.WellFormed
import EventReport.Wire.Request

/-! # Requests as documents

`Request.toJson` is the document of a request, with all fields of its records and without the
filters that are absent. Reading the document gives the request (`ofText_toJson`), if its filters
are `Documentable`: a document holds a limited number of levels, and three of them make up one level
of a filter. -/

set_option autoImplicit false

namespace EventReport

open Json

/-! ## Documents -/

/-- The test as a member of a condition. -/
def Test.toMember : Test → String × Value
  | .text test => ("stringFilter", test.toJson)
  | .number test => ("numericFilter", test.toJson)
  | .inList test => ("inListFilter", test.toJson)
  | .between test => ("betweenFilter", test.toJson)

/-- The condition as a value of a document. -/
def Condition.toJson (c : Condition) : Value :=
  .object [("fieldName", .text c.field), ("custom", .bool c.custom), c.test.toMember]

/-- The key of a group. -/
def Connective.label : Connective → String
  | .and => "andGroup"
  | .or => "orGroup"

namespace Filter

mutual

/-- The filter as a value of a document. -/
def toJson : Filter → Value
  | .leaf c => .object [("filter", c.toJson)]
  | .node k fs => .object [(k.label, .object [("expressions", .array (toJsons fs))])]

def toJsons : List Filter → List Value
  | [] => []
  | f :: fs => toJson f :: toJsons fs

end

/-- The filter can be written into a document and read again. A document has room for 41 levels of
a filter. -/
structure Documentable (f : Filter) : Prop where
  noEmptyGroup : f.NoEmptyGroup
  height_le : f.height ≤ 41
  notBetween : ∀ c ∈ f.leaves, ∀ test, c.test ≠ .between test

end Filter

/-- The range as a value of a document. -/
def Calendar.DayRange.toJson (r : DayRange) : Value :=
  .object [("start", .text (String.ofList r.first.dashed)),
    ("end", .text (String.ofList r.last.dashed))]

/-- The request as a value of a document. -/
def Request.toJson (r : Request) : Value :=
  .object ([("dimensions", .array (r.dimensions.map Dimension.toJson)),
      ("metrics", .array (r.metrics.map Metric.toJson)), ("dateRange", r.range.toJson)] ++
    (r.dimensionFilter.map fun f => ("dimensionFilter", f.toJson)).toList ++
    (r.metricFilter.map fun f => ("metricFilter", f.toJson)).toList ++
    [("orderBys", .array (r.order.map SortKey.toJson))])

/-! ## Reading records -/

namespace Json

variable {α : Type}

namespace Layout

/-- The record of an object from a member on, which is how an object is read. -/
def readFrom (layout : Layout α) (draft : layout.Draft) (members : List (Option String × Node)) :
    Except DecodeError α := do
  let draft ← layout.readMembers draft members
  layout.build (layout.memberOr draft)

/-- A member that is a field of the record, and the members after it. -/
theorem readFrom_cons (layout : Layout α) (f : layout.Field) {draft : layout.Draft} {key : String}
    {node : Node} {value : layout.Value f} {rest : List (Option String × Node)} {a : α}
    (hfield : layout.field? key = some f) (hfirst : draft f = none)
    (h : layout.reader f node = .ok value)
    (hrest : layout.readFrom (draft.set f value) rest = .ok a) :
    layout.readFrom draft ((some key, node) :: rest) = .ok a := by
  rw [readFrom, readMembers, hfield]
  simp only [hfirst, h, Option.isSome_none, Bool.false_eq_true, if_false]
  exact hrest

end Layout

theorem readOptional_node {reader : Reader α} {v : Value} {a : α} (hv : v.Plain)
    (h : reader v.node = .ok a) : readOptional reader v.node = .ok (some a) := by
  have hnull := hv.node_ne_null
  generalize v.node = node at h hnull
  cases node
  case null => exact absurd rfl hnull
  all_goals
    show some <$> reader _ = _
    rw [h]
    rfl

theorem readEach_map {reader : Reader α} {toJson : α → Value}
    (h : ∀ a, reader (toJson a).node = .ok a) (as : List α) :
    readEach reader (Value.array (as.map toJson)).node = .ok as := by
  have hitems : (Value.itemNodes (as.map toJson)).mapM reader = .ok as := by
    rw [Value.itemNodes_eq_map, mapM_eq_ok, List.forall₂_map_left_iff, List.forall₂_map_left_iff]
    exact List.forall₂_same.mpr fun a _ => h a
  rw [Value.node, readEach, hitems]
  rfl

end Json

/-! ## Plain documents -/

theorem Dimension.plain_toJson (d : Dimension) : d.toJson.Plain := by
  simp [toJson]

theorem Metric.plain_toJson (m : Metric) : m.toJson.Plain := by
  simp [toJson]

theorem SortKey.plain_toJson (k : SortKey) : k.toJson.Plain := by
  simp [toJson]

theorem TextTest.plain_toJson (t : TextTest) : t.toJson.Plain := by
  simp [toJson, TextMatch.toJson]

theorem NumberTest.plain_toJson (t : NumberTest) : t.toJson.Plain := by
  simp [toJson, Comparison.toJson]

theorem ListTest.plain_toJson (t : ListTest) : t.toJson.Plain := by
  simp [toJson]

theorem Condition.plain_toJson {c : Condition} (h : ∀ test, c.test ≠ .between test) :
    c.toJson.Plain := by
  obtain ⟨field, custom, test⟩ := c
  cases test with
  | text test => simp [toJson, Test.toMember, test.plain_toJson]
  | number test => simp [toJson, Test.toMember, test.plain_toJson]
  | inList test => simp [toJson, Test.toMember, test.plain_toJson]
  | between test => exact absurd rfl (h test)

namespace Filter

mutual

theorem plain_toJson : ∀ f : Filter, (∀ c ∈ f.leaves, ∀ test, c.test ≠ .between test) →
    f.toJson.Plain
  | .leaf c, hc => by
    have hplain := Condition.plain_toJson (hc c List.mem_cons_self)
    simp [toJson, hplain]
  | .node k fs, hc => by
    rw [leaves] at hc
    have hplain := plain_toJsons fs hc
    simpa [toJson] using hplain

theorem plain_toJsons : ∀ fs : List Filter,
    (∀ c ∈ leavesAll fs, ∀ test, c.test ≠ .between test) → ∀ v ∈ toJsons fs, v.Plain
  | [], _ => nofun
  | f :: fs, hc => by
    rw [leavesAll, List.forall_mem_append] at hc
    rw [toJsons]
    exact List.forall_mem_cons.mpr ⟨plain_toJson f hc.1, plain_toJsons fs hc.2⟩

end

end Filter

/-! ## Reading documents -/

theorem Dimension.read_toJson (depth : Nat) (d : Dimension) :
    Dimension.read (depth + 1) d.toJson.node = .ok d :=
  rfl

theorem Metric.read_toJson (depth : Nat) (m : Metric) :
    Metric.read (depth + 1) m.toJson.node = .ok m :=
  rfl

theorem SortKey.read_toJson (depth : Nat) (k : SortKey) :
    SortKey.read (depth + 1) k.toJson.node = .ok k :=
  rfl

theorem TextTest.read_toJson (depth : Nat) (t : TextTest) :
    TextTest.read (depth + 1) t.toJson.node = .ok t := by
  obtain ⟨kind, value, caseSensitive⟩ := t
  cases kind <;> rfl

theorem NumberTest.read_toJson (depth : Nat) (t : NumberTest) :
    NumberTest.read (depth + 1) t.toJson.node = .ok t := by
  obtain ⟨comparison, value⟩ := t
  cases comparison <;> rfl

theorem ListTest.read_toJson (depth : Nat) (t : ListTest) :
    ListTest.read (depth + 2) t.toJson.node = .ok t := by
  have htext : ∀ s, readText (Value.text s).node = .ok s := by
    intro s
    rw [Value.node]
    rfl
  have hvalues := readEach_map htext t.values
  show (listTestLayout (depth + 1)).read (.object _ none) = _
  exact Layout.readFrom_cons (listTestLayout (depth + 1)) ListTestField.values rfl rfl hvalues rfl

theorem Condition.read_toJson (depth : Nat) {c : Condition} (h : ∀ test, c.test ≠ .between test) :
    readRecord "RawFilter" conditionLayout (depth + 3) c.toJson.node = .ok c.toNode := by
  obtain ⟨field, custom, test⟩ := c
  let layout := conditionLayout (depth + 2)
  show layout.read (.object _ none) = _
  refine layout.readFrom_cons ConditionField.field rfl rfl rfl ?_
  refine layout.readFrom_cons ConditionField.custom rfl rfl rfl ?_
  cases test with
  | text test =>
    have hread := readOptional_node test.plain_toJson (TextTest.read_toJson (depth + 1) test)
    exact layout.readFrom_cons ConditionField.text rfl rfl hread rfl
  | number test =>
    have hread := readOptional_node test.plain_toJson (NumberTest.read_toJson (depth + 1) test)
    exact layout.readFrom_cons ConditionField.number rfl rfl hread rfl
  | inList test =>
    have hread := readOptional_node test.plain_toJson (ListTest.read_toJson depth test)
    exact layout.readFrom_cons ConditionField.inList rfl rfl hread rfl
  | between test => exact absurd rfl (h test)

namespace FilterNode

theorem read_leaf {depth : Nat} {v : Value} {c : ConditionNode} (hv : v.Plain)
    (h : readRecord "RawFilter" conditionLayout depth v.node = .ok c) :
    read (depth + 1) (Value.object [("filter", v)]).node = .ok (.node none none (some c)) :=
  Layout.readFrom_cons
    (filterLayout (readGroup depth) (readRecord "RawFilter" conditionLayout depth))
    FilterField.condition rfl rfl (readOptional_node hv h) rfl

theorem readGroup_items {depth : Nat} {vs : List Value} {ns : List FilterNode}
    (h : (Value.itemNodes vs).mapM (read depth) = .ok ns) :
    readGroup (depth + 2) (Value.object [("expressions", .array vs)]).node = .ok ns := by
  have hmembers : readMembers (depth + 1) (Value.array vs).node = .ok ns := by
    rw [readMembers, Value.node, readEach, h]
    rfl
  exact Layout.readFrom_cons (groupLayout (readMembers (depth + 1))) GroupField.members rfl rfl
    hmembers rfl

theorem read_group {depth : Nat} (k : Connective) {vs : List Value} {fs : List Filter}
    (hvs : ∀ v ∈ vs, v.Plain)
    (h : (Value.itemNodes vs).mapM (read depth) = .ok (Filter.toNodes fs)) :
    read (depth + 3) (Value.object [(k.label, .object [("expressions", .array vs)])]).node =
      .ok (Filter.node k fs).toNode := by
  have hgroup := readOptional_node (by simpa using hvs) (readGroup_items h)
  let layout := filterLayout (readGroup (depth + 2))
    (readRecord "RawFilter" conditionLayout (depth + 2))
  cases k with
  | and => exact layout.readFrom_cons FilterField.allOf rfl rfl hgroup rfl
  | or => exact layout.readFrom_cons FilterField.anyOf rfl rfl hgroup rfl

end FilterNode

namespace Filter

mutual

/-- Three levels of a document hold one of a filter, and four hold a condition. -/
theorem read_toJson : ∀ (f : Filter) {depth : Nat}, 3 * f.height + 1 ≤ depth →
    (∀ c ∈ f.leaves, ∀ test, c.test ≠ .between test) →
    FilterNode.read depth f.toJson.node = .ok f.toNode
  | .leaf c, depth, hdepth, hc => by
    obtain ⟨depth, rfl⟩ : ∃ d, depth = d + 4 := ⟨depth - 4, by simp [height] at hdepth; omega⟩
    have htest := hc c List.mem_cons_self
    rw [toJson, toNode]
    exact FilterNode.read_leaf (Condition.plain_toJson htest) (Condition.read_toJson depth htest)
  | .node k fs, depth, hdepth, hc => by
    rw [height] at hdepth
    rw [leaves] at hc
    obtain ⟨depth, rfl⟩ : ∃ d, depth = d + 3 := ⟨depth - 3, by omega⟩
    rw [toJson]
    exact FilterNode.read_group k (plain_toJsons fs hc) (read_toJsons fs (by omega) hc)

theorem read_toJsons : ∀ (fs : List Filter) {depth : Nat}, 3 * heightAll fs + 1 ≤ depth →
    (∀ c ∈ leavesAll fs, ∀ test, c.test ≠ .between test) →
    (Value.itemNodes (toJsons fs)).mapM (FilterNode.read depth) = .ok (toNodes fs)
  | [], _, _, _ => rfl
  | f :: fs, depth, hdepth, hc => by
    rw [heightAll] at hdepth
    rw [leavesAll, List.forall_mem_append] at hc
    have hf : FilterNode.read depth f.toJson.node = .ok f.toNode :=
      read_toJson f (by omega) hc.1
    rw [toJsons, Value.itemNodes, List.mapM_cons, hf, read_toJsons fs (by omega) hc.2]
    rfl

end

/-- The levels of a document suffice for a filter that can be written into it. -/
theorem Documentable.read_toJson {f : Filter} (h : f.Documentable) :
    readOptional (FilterNode.read 126) f.toJson.node = .ok (some f.toNode) := by
  have := h.height_le
  exact readOptional_node (f.plain_toJson h.notBetween) (f.read_toJson (by omega) h.notBetween)

end Filter

namespace Request

theorem plain_toJson {r : Request} (h : ∀ f ∈ r.filters, f.Documentable) : r.toJson.Plain := by
  have hfilter : ∀ f ∈ r.filters, f.toJson.Plain := fun f hf => f.plain_toJson (h f hf).notBetween
  simp only [filters, List.forall_mem_append] at hfilter
  obtain ⟨hdimension, hmetric⟩ := hfilter
  rw [toJson, Value.plain_object]
  simp only [List.forall_mem_append, Option.toList_map, List.forall_mem_map]
  refine ⟨⟨⟨?_, hdimension⟩, hmetric⟩, ?_⟩
  · simp [Dimension.plain_toJson, Metric.plain_toJson, Calendar.DayRange.toJson]
  · simp [SortKey.plain_toJson]

/-- The request as a document gives it. -/
def toRecord (r : Request) : RequestRecord where
  dimensions := r.dimensions
  metrics := r.metrics
  range := ⟨String.ofList r.range.first.dashed, String.ofList r.range.last.dashed⟩
  metricFilter := r.metricFilter.map Filter.toNode
  dimensionFilter := r.dimensionFilter.map Filter.toNode
  order := some r.order

theorem read_toJson {r : Request} (h : ∀ f ∈ r.filters, f.Documentable) :
    RequestRecord.read depthLimit r.toJson.node = .ok r.toRecord := by
  obtain ⟨range, dimensions, metrics, dimensionFilter, metricFilter, order⟩ := r
  have hdimensions := readEach_map (Dimension.read_toJson 124) dimensions
  have hmetrics := readEach_map (Metric.read_toJson 124) metrics
  have hkeys := readEach_map (SortKey.read_toJson 124) order
  have horder := readOptional_node (by simp [SortKey.plain_toJson]) hkeys
  -- The members are read in the order in which they are written, one field at a time.
  let layout := requestLayout 126
  show layout.read (.object _ none) = _
  refine layout.readFrom_cons RequestField.dimensions rfl rfl hdimensions ?_
  refine layout.readFrom_cons RequestField.metrics rfl rfl hmetrics ?_
  refine layout.readFrom_cons RequestField.range rfl rfl rfl ?_
  cases dimensionFilter with
  | none =>
    cases metricFilter with
    | none => exact layout.readFrom_cons RequestField.order rfl rfl horder rfl
    | some g =>
      have hg := (h g (by simp [filters])).read_toJson
      refine layout.readFrom_cons RequestField.metricFilter rfl rfl hg ?_
      exact layout.readFrom_cons RequestField.order rfl rfl horder rfl
  | some f =>
    have hf := (h f (by simp [filters])).read_toJson
    refine layout.readFrom_cons RequestField.dimensionFilter rfl rfl hf ?_
    cases metricFilter with
    | none => exact layout.readFrom_cons RequestField.order rfl rfl horder rfl
    | some g =>
      have hg := (h g (by simp [filters])).read_toJson
      refine layout.readFrom_cons RequestField.metricFilter rfl rfl hg ?_
      exact layout.readFrom_cons RequestField.order rfl rfl horder rfl

theorem toFilter?_toNode {filter : Option Filter} (h : ∀ f ∈ filter, f.NoEmptyGroup) :
    toFilter? (filter.map Filter.toNode) = .ok filter := by
  cases filter with
  | none => rfl
  | some f =>
    rw [Option.map_some, toFilter?, FilterNode.toFilter_toNode (h f rfl)]
    rfl

theorem toRequest_toRecord {r : Request} (h : ∀ f ∈ r.filters, f.NoEmptyGroup) :
    r.toRecord.toRequest = .ok r := by
  have hrange : r.toRecord.range.toRange = .ok r.range := by
    show (do
      let first ← Calendar.parseBound (String.ofList r.range.first.dashed)
      let last ← Calendar.parseBound (String.ofList r.range.last.dashed)
      Calendar.DayRange.between first last) = _
    rw [Calendar.parseBound_dashed, Calendar.parseBound_dashed]
    exact dif_pos r.range.first_le_last
  refine bind_eq_ok.mpr ⟨r.range, hrange, ?_⟩
  simp only [filters, List.forall_mem_append, Option.mem_toList] at h
  refine bind_eq_ok.mpr ⟨r.dimensionFilter, toFilter?_toNode h.1, ?_⟩
  exact bind_eq_ok.mpr ⟨r.metricFilter, toFilter?_toNode h.2, rfl⟩

end Request

/-- **A document of a request is read as the request.** -/
theorem ofText_toJson {r : Request} (h : ∀ f ∈ r.filters, f.Documentable) :
    Request.ofText r.toJson.compact = .ok r := by
  rw [Request.ofText, decode_compact _ (Request.plain_toJson h), Request.read_toJson h]
  exact Request.toRequest_toRecord fun f hf => (h f hf).noEmptyGroup

/-- A request with texts that are escaped in a document and years that have a sign. -/
def escapedRequest : Request where
  range := ⟨⟨-1, 12, 31, by decide⟩, ⟨12024, 2, 29, by decide⟩, by decide⟩
  dimensions := [{ custom := true, apiName := "say \"hi\"\n", label := "\u00e9" }]
  dimensionFilter := some (.node .and
    [.leaf ⟨"a\\b", true, .text ⟨.notRegexp, "\x01/", true⟩⟩,
      .node .or [.leaf ⟨"size", false, .number ⟨.lessOrEqual, "10"⟩⟩,
        .leaf ⟨"page", false, .inList ⟨["/", ""], false⟩⟩]])
  order := [{ field := "users", descending := true }]

theorem ofText_toJson_escaped : (∀ f ∈ escapedRequest.filters, f.Documentable) ∧
    Request.ofText escapedRequest.toJson.compact = .ok escapedRequest := by
  have hfilters : ∀ f ∈ escapedRequest.filters, f.Documentable := by
    refine List.forall_mem_singleton.mpr ⟨?_, by decide, ?_⟩
    · refine .node .and (List.cons_ne_nil _ _) (List.forall_mem_cons.mpr ⟨.leaf _, ?_⟩)
      refine List.forall_mem_singleton.mpr (.node .or (List.cons_ne_nil _ _) ?_)
      exact List.forall_mem_cons.mpr ⟨.leaf _, List.forall_mem_singleton.mpr (.leaf _)⟩
    · simp [Filter.leaves, Filter.leavesAll]
  exact ⟨hfilters, ofText_toJson hfilters⟩

end EventReport
