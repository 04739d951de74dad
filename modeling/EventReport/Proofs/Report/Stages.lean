import EventReport.Proofs.Report.TwoStage

/-! # The stages of a report fit together

`StagesFit` says what both stages have to hold for a request: the items and the groups, in order,
that every item is grouped or an aggregate, and that the outer stage reads nothing but what the
inner one exposes at the same place. It holds whenever the dimensions and the metrics of the
request resolve, whatever they are and however often they occur (`Report.stages_fit`). -/

set_option autoImplicit false

namespace EventReport

open Sql

/-! ## Stages that fit -/

/-- The columns that the expression reads of a row. -/
def Sql.Expr.reads : Expr → List String
  | column name | sum name | count name | countDistinct name => [name]
  | param _ => [eventParams]
  | eventDay => [eventDate]
  | sessionKey => ["user_pseudo_id", eventParams]

theorem Sql.Expr.reads_of_operand {e : Expr} {name : String} (h : e.operand = .column name) :
    e.reads = [name] := by
  cases e with
  | column | sum | count | countDistinct =>
    obtain rfl := Expr.column.inj h
    rfl
  | param | eventDay | sessionKey => cases h

/-- The group of the inner stage that a metric is counted by. -/
def MetricKey.groupName? : MetricKey → Option String
  | sessions => some "sessions"
  | users => some "user_pseudo_id"
  | events | revenue => none

/-- The stage exposes the name at a place of its list. -/
def Sql.Stage.ExposesAt (s : Stage) (i : Nat) (name : String) : Prop :=
  ∃ item, s.items[i]? = some item ∧ item.exposed? = some name

/-- The stages fit to the request and to each other. -/
structure StagesFit (q : Quoting) (req : Request) (inner outer : Stage) : Prop where
  metrics : req.metricKeys.map MetricKey.name = req.metrics.map (·.apiName)
  innerItems : inner.items = req.dimensions.map (fun d => .named (d.expr q) (aliasOf d.apiName)) ++
    req.metricKeys.map (·.column.inner)
  outerItems : outer.items = req.dimensions.map (fun d => .bare (aliasOf d.apiName)) ++
    req.metricKeys.map (·.column.outer)
  innerLength : inner.items.length = req.dimensions.length + req.metrics.length
  outerLength : outer.items.length = req.dimensions.length + req.metrics.length
  outerGroups : outer.groups = req.dimensions.map fun d => aliasOf d.apiName
  innerGroups : inner.groups = outer.groups ++ req.metricKeys.filterMap MetricKey.groupName?
  /-- An item is the aggregate of a metric, of whose name only a dimension can make a group, or it
  is grouped. -/
  innerItem : ∀ item ∈ inner.items,
    (item.expr.isAggregate ∧
      item ∈ [MetricKey.revenue.column.inner, MetricKey.events.column.inner] ∧
      ∀ name ∈ item.exposed?, name ∈ inner.groups → name ∈ outer.groups) ∨
    (item.expr.isAggregate = false ∧ ∃ name ∈ item.exposed?, name ∈ inner.groups)
  innerGroup : ∀ name ∈ inner.groups, ∃ item ∈ inner.items, item.exposed? = some name
  outerRead : ∀ i item, outer.items[i]? = some item →
    ∀ name ∈ item.expr.reads, inner.ExposesAt i name
  outerGroup : ∀ i name, outer.groups[i]? = some name → inner.ExposesAt i name
  /-- An item is a dimension and grouped, or a metric and an aggregate. -/
  outerItem : ∀ i item, outer.items[i]? = some item →
    (i < req.dimensions.length ∧ ∃ name ∈ outer.groups[i]?, item.exposed? = some name) ∨
    (req.dimensions.length ≤ i ∧ item.expr.isAggregate)

/-! ## The columns of the catalog -/

theorem MetricKey.isAggregate_outer (key : MetricKey) : key.column.outer.expr.isAggregate := by
  cases key <;> rfl

/-- The metrics that are groups of the inner stage are those that are counted one by one. -/
theorem filter_grouped_metrics (keys : List MetricKey) :
    ((keys.map MetricKey.column).filter (·.grouped)).map (·.innerName) =
      keys.filterMap MetricKey.groupName? := by
  induction keys with
  | nil => rfl
  | cons key keys ih =>
    rw [List.map_cons]
    cases key with
    | events | revenue =>
      rw [List.filter_cons_of_neg (by decide), ih]
      rfl
    | sessions | users =>
      rw [List.filter_cons_of_pos (by decide), List.map_cons, ih]
      rfl

theorem filter_grouped_dimensions (q : Quoting) (ds : List Dimension) :
    ((ds.map (·.column q)).filter (·.grouped)).map (·.innerName) =
      ds.map fun d => aliasOf d.apiName := by
  rw [List.filter_eq_self.mpr, List.map_map]
  · rfl
  · intro c hc
    obtain ⟨d, -, rfl⟩ := List.mem_map.mp hc
    rfl

/-! ## The stages of a request -/

namespace Report

section

variable {q : Quoting} {req : Request} {r : Report} (h : r.Projects q req)
include h

theorem Projects.lawful_column {c : Column} (hc : c ∈ r.columns) : LawfulColumn c := by
  rcases h.mem_columns hc with ⟨d, -, rfl⟩ | ⟨key, -, rfl⟩
  · exact (d.isDimension_column q).lawful
  · exact key.lawful_column

/-! ### Groups -/

theorem Projects.outerGroups :
    r.outerStage.groups = req.dimensions.map fun d => aliasOf d.apiName := by
  show r.dimensions.map (·.outerName) = _
  rw [h.dimensions, List.map_map]
  rfl

theorem Projects.innerGroups : r.innerStage.groups =
    r.outerStage.groups ++ req.metricKeys.filterMap MetricKey.groupName? := by
  rw [h.outerGroups]
  show (r.columns.filter (·.grouped)).map (·.innerName) = _
  rw [h.columns, List.filter_append, List.map_append, filter_grouped_dimensions,
    filter_grouped_metrics]

/-! ### Items -/

/-- An item of the inner stage belongs to the column at its place. -/
theorem Projects.exposesAt {i : Nat} {c : Column} (hi : r.columns[i]? = some c) :
    r.innerStage.ExposesAt i c.innerName := by
  refine ⟨c.inner, ?_, (h.lawful_column (List.mem_of_getElem? hi)).inner⟩
  rw [innerStage, List.getElem?_map, hi, Option.map_some]

theorem Projects.innerItem {item : Item} (hitem : item ∈ r.innerStage.items) :
    (item.expr.isAggregate ∧
      item ∈ [MetricKey.revenue.column.inner, MetricKey.events.column.inner] ∧
      ∀ name ∈ item.exposed?, name ∈ r.innerStage.groups → name ∈ r.outerStage.groups) ∨
    (item.expr.isAggregate = false ∧ ∃ name ∈ item.exposed?, name ∈ r.innerStage.groups) := by
  obtain ⟨c, hc, rfl⟩ := List.mem_map.mp hitem
  have hlawful := h.lawful_column hc
  cases hgrouped : c.grouped with
  | true =>
    refine .inr ⟨?_, c.innerName, hlawful.inner, ?_⟩
    · simpa [hgrouped] using hlawful.grouped
    · exact List.mem_map_of_mem (List.mem_filter.mpr ⟨hc, hgrouped⟩)
  | false =>
    refine .inl ⟨by simpa [hgrouped] using hlawful.grouped, ?_⟩
    -- The names of the metrics that are grouped are other ones.
    have hother : ∀ name ∈ req.metricKeys.filterMap MetricKey.groupName?,
        name = "sessions" ∨ name = "user_pseudo_id" := by
      intro name hname
      obtain ⟨key, -, hkey⟩ := List.mem_filterMap.mp hname
      cases key <;> simp_all [MetricKey.groupName?]
    rcases h.mem_columns hc with ⟨d, -, rfl⟩ | ⟨key, -, rfl⟩
    · cases hgrouped
    · rw [h.innerGroups]
      cases key with
      | events | revenue =>
        refine ⟨by decide, ?_⟩
        rintro _ ⟨⟩ hname
        rcases List.mem_append.mp hname with hname | hname
        · exact hname
        · exact absurd (hother _ hname) (by decide)
      | sessions | users => cases hgrouped

theorem Projects.innerGroup {name : String} (hname : name ∈ r.innerStage.groups) :
    ∃ item ∈ r.innerStage.items, item.exposed? = some name := by
  obtain ⟨c, hc, rfl⟩ := List.mem_map.mp hname
  have hcolumn : c ∈ r.columns := (List.mem_filter.mp hc).1
  exact ⟨c.inner, List.mem_map_of_mem hcolumn, (h.lawful_column hcolumn).inner⟩

theorem Projects.outerRead {i : Nat} {item : Item} (hi : r.outerStage.items[i]? = some item) :
    ∀ name ∈ item.expr.reads, r.innerStage.ExposesAt i name := by
  rw [outerStage, List.getElem?_map, Option.map_eq_some_iff] at hi
  obtain ⟨c, hc, rfl⟩ := hi
  rw [Expr.reads_of_operand (h.lawful_column (List.mem_of_getElem? hc)).operand]
  exact List.forall_mem_singleton.mpr (h.exposesAt hc)

theorem Projects.outerGroup {i : Nat} {name : String}
    (hi : r.outerStage.groups[i]? = some name) : r.innerStage.ExposesAt i name := by
  rw [h.outerGroups, List.getElem?_map, Option.map_eq_some_iff] at hi
  obtain ⟨d, hd, rfl⟩ := hi
  have hlt : i < (req.dimensions.map (·.column q)).length := by
    rw [List.length_map]
    exact (List.getElem?_eq_some_iff.mp hd).1
  have hc : r.columns[i]? = some (d.column q) := by
    rw [h.columns, List.getElem?_append_left hlt, List.getElem?_map, hd, Option.map_some]
  exact h.exposesAt hc

theorem Projects.outerItem {i : Nat} {item : Item} (hi : r.outerStage.items[i]? = some item) :
    (i < req.dimensions.length ∧ ∃ name ∈ r.outerStage.groups[i]?, item.exposed? = some name) ∨
      (req.dimensions.length ≤ i ∧ item.expr.isAggregate) := by
  rw [outerStage, List.getElem?_map, Option.map_eq_some_iff, h.columns] at hi
  obtain ⟨c, hc, rfl⟩ := hi
  rcases Nat.lt_or_ge i req.dimensions.length with hlt | hge
  · rw [List.getElem?_append_left (by simpa using hlt), List.getElem?_map,
      Option.map_eq_some_iff] at hc
    obtain ⟨d, hd, rfl⟩ := hc
    refine .inl ⟨hlt, aliasOf d.apiName, ?_, rfl⟩
    rw [h.outerGroups, List.getElem?_map, hd]
    rfl
  · rw [List.getElem?_append_right (by simpa using hge), List.getElem?_map,
      Option.map_eq_some_iff] at hc
    obtain ⟨key, -, rfl⟩ := hc
    exact .inr ⟨hge, key.isAggregate_outer⟩

theorem Projects.stagesFit : StagesFit q req r.innerStage r.outerStage where
  metrics := h.names
  innerItems := by
    show r.columns.map (·.inner) = _
    rw [h.columns, List.map_append, List.map_map, List.map_map]
    rfl
  outerItems := by
    show r.columns.map (·.outer) = _
    rw [h.columns, List.map_append, List.map_map, List.map_map]
    rfl
  innerLength := (List.length_map _).trans h.length_columns
  outerLength := (List.length_map _).trans h.length_columns
  outerGroups := h.outerGroups
  innerGroups := h.innerGroups
  innerItem _ := h.innerItem
  innerGroup _ := h.innerGroup
  outerRead _ _ := h.outerRead
  outerGroup _ _ := h.outerGroup
  outerItem _ _ := h.outerItem

end

end Report

/-- **The stages fit together.** If the dimensions and the metrics of a request resolve, the SELECT
lists and the groups of both stages of the report are those of stages that fit. -/
theorem stages_fit {q : Quoting} {req : Request} {r : Report}
    (hd : req.dimensions.mapM (fun d => dimensionColumn q d.custom d.apiName) = .ok r.dimensions)
    (hm : req.metrics.mapM (fun m => metricColumn m.apiName) = .ok r.metrics) :
    r.innerStage.WrittenAs r.inner ∧ r.outerStage.WrittenAs r.outer ∧
      StagesFit q req r.innerStage r.outerStage :=
  ⟨r.innerStage_writtenAs, r.outerStage_writtenAs, (Report.projects_of_mapM hd hm).stagesFit⟩

/-- Every metric, one of them twice, by dimensions of which one has the alias of a metric. -/
def crowdedRequest : Request where
  range := .single ⟨2024, 6, 30, by decide⟩
  dimensions := [{ apiName := "events" }, { apiName := "geo.city" },
    { custom := true, apiName := "plan" }]
  metrics := [{ apiName := "users" }, { apiName := "events" }, { apiName := "revenue" },
    { apiName := "sessions" }, { apiName := "users" }]

theorem stages_fit_crowded :
    ∃ r, Report.ofRequest { quoting := .escaped } ⟨"p", "d", "t"⟩ crowdedRequest = .ok r ∧
      StagesFit .escaped crowdedRequest r.innerStage r.outerStage ∧
      r.innerStage.groups =
        ["events", "geo__city", "plan", "user_pseudo_id", "sessions", "user_pseudo_id"] ∧
      r.outerStage.groups = ["events", "geo__city", "plan"] := by
  obtain ⟨r, h⟩ : ∃ r, Report.ofRequest { quoting := .escaped } ⟨"p", "d", "t"⟩ crowdedRequest =
      .ok r := ⟨_, rfl⟩
  have hresolves := Report.resolves_of_ofRequest h
  obtain ⟨-, -, hfit⟩ :=
    stages_fit (mapM_eq_ok.mpr hresolves.dimensions) (mapM_eq_ok.mpr hresolves.metrics)
  refine ⟨r, h, hfit, ?_, ?_⟩
  · rw [hfit.innerGroups, hfit.outerGroups]
    decide
  · rw [hfit.outerGroups]
    decide

end EventReport
