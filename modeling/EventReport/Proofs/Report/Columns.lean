import Mathlib.Data.List.Nodup
import EventReport.Proofs.Report.Tokens

/-! # The columns of a request

The name, the kind and the quoting of a dimension determine its column (`Dimension.column`), and a
metric has the column of its key. A report `Projects` the request that it is made of: its columns
are those of the dimensions and of the metrics. Their names in a stage are the aliases and one name
for each metric, so they are different exactly if the aliases are `AliasesApart`. -/

set_option autoImplicit false

namespace EventReport

open Sql

/-! ## Dimensions -/

/-- What a dimension computes. -/
def Dimension.expr (q : Quoting) (d : Dimension) : Expr :=
  if d.custom then .param (q.literal d.apiName)
  else if d.apiName = eventDate then .eventDay
  else .column d.apiName

/-- The column of a dimension: a group of both stages under its alias. -/
def Dimension.column (q : Quoting) (d : Dimension) : Column where
  grouped := true
  innerName := aliasOf d.apiName
  outerName := aliasOf d.apiName
  inner := .named (d.expr q) (aliasOf d.apiName)
  outer := .bare (aliasOf d.apiName)

theorem dimensionExpr_eq_ok {q : Quoting} {d : Dimension} {e : Expr}
    (h : dimensionExpr q d.custom d.apiName = .ok e) : e = d.expr q := by
  rw [dimensionExpr] at h
  rw [Dimension.expr]
  split at h
  · rename_i hcustom
    rw [if_pos hcustom]
    exact (pure_eq_ok.mp h).symm
  · rename_i hcustom
    rw [if_neg hcustom]
    split at h
    · rename_i hdate
      rw [if_pos hdate]
      exact (pure_eq_ok.mp h).symm
    · rename_i hdate
      obtain ⟨shown, hshown, h⟩ := bind_eq_ok.mp h
      rw [if_neg hdate, ← pure_eq_ok.mp h, Quoting.identifier_eq hshown]

/-- A resolved dimension is its column. -/
theorem dimensionColumn_eq_ok {q : Quoting} {d : Dimension} {c : Column}
    (h : dimensionColumn q d.custom d.apiName = .ok c) : c = d.column q := by
  obtain ⟨shown, hshown, h⟩ := bind_eq_ok.mp h
  obtain ⟨e, he, h⟩ := bind_eq_ok.mp h
  obtain rfl := pure_eq_ok.mp h
  rw [Quoting.identifier_eq hshown, dimensionExpr_eq_ok he, Dimension.column]

theorem dimensionColumns_eq {q : Quoting} {ds : List Dimension} {cs : List Column}
    (h : List.Forall₂ (fun d c => dimensionColumn q d.custom d.apiName = .ok c) ds cs) :
    cs = ds.map (·.column q) := by
  induction h with
  | nil => rfl
  | cons hdc _ ih => rw [List.map_cons, dimensionColumn_eq_ok hdc, ih]

/-! ## Metrics -/

theorem MetricKey.name_of_ofName? {name : String} {key : MetricKey}
    (h : MetricKey.ofName? name = some key) : key.name = name := by
  simpa using List.find?_some h

/-- The metrics of a request that names some. -/
def Request.metricKeys (r : Request) : List MetricKey :=
  r.metrics.filterMap fun m => MetricKey.ofName? m.apiName

/-- Resolved metrics have the columns of their keys, which are named by the request. -/
theorem metricColumns_eq {req : Request} {cs : List Column}
    (h : List.Forall₂ (fun m c => metricColumn m.apiName = .ok c) req.metrics cs) :
    cs = req.metricKeys.map MetricKey.column ∧
      req.metricKeys.map MetricKey.name = req.metrics.map (·.apiName) := by
  unfold Request.metricKeys
  generalize req.metrics = ms at h ⊢
  induction h with
  | nil => exact ⟨rfl, rfl⟩
  | @cons m c ms cs hmc _ ih =>
    unfold metricColumn at hmc
    split at hmc
    · rename_i key hkey
      obtain rfl := pure_eq_ok.mp hmc
      simp only [List.filterMap_cons, hkey, List.map_cons, MetricKey.name_of_ofName? hkey, ← ih.1,
        ih.2, and_self]
    · cases hmc

theorem MetricKey.innerName_injective : Function.Injective fun key : MetricKey =>
    key.column.innerName :=
  fun a b => by cases a <;> cases b <;> decide

theorem MetricKey.outerName_injective : Function.Injective fun key : MetricKey =>
    key.column.outerName :=
  fun a b => by cases a <;> cases b <;> decide

/-! ## Names -/

/-- The dimensions have different aliases, and none is the name of a metric that is asked for. -/
structure Request.AliasesApart (req : Request) (name : MetricKey → String) : Prop where
  dimensions : (req.dimensions.map fun d => aliasOf d.apiName).Nodup
  metrics : ∀ d ∈ req.dimensions, ∀ key ∈ req.metricKeys, aliasOf d.apiName ≠ name key

/-- Different metrics have different names, so what matters is the aliases. -/
theorem Request.nodup_names_iff {req : Request} {name : MetricKey → String}
    (hinj : Function.Injective name) (hkeys : req.metricKeys.Nodup) :
    (req.dimensions.map (fun d => aliasOf d.apiName) ++ req.metricKeys.map name).Nodup ↔
      req.AliasesApart name := by
  rw [List.nodup_append]
  constructor
  · rintro ⟨hd, -, hdk⟩
    exact ⟨hd, fun d hmem key hkey =>
      hdk _ (List.mem_map_of_mem hmem) _ (List.mem_map_of_mem hkey)⟩
  · rintro ⟨hd, hdk⟩
    refine ⟨hd, hkeys.map hinj, ?_⟩
    intro a ha b hb
    obtain ⟨d, hmem, rfl⟩ := List.mem_map.mp ha
    obtain ⟨key, hkey, rfl⟩ := List.mem_map.mp hb
    exact hdk d hmem key hkey

/-! ## Reports of requests -/

namespace Report

/-- The columns of the report are those of the request. -/
structure Projects (q : Quoting) (req : Request) (r : Report) : Prop where
  dimensions : r.dimensions = req.dimensions.map (·.column q)
  metrics : r.metrics = req.metricKeys.map MetricKey.column
  names : req.metricKeys.map MetricKey.name = req.metrics.map (·.apiName)

theorem projects_of_mapM {q : Quoting} {req : Request} {r : Report}
    (hd : req.dimensions.mapM (fun d => dimensionColumn q d.custom d.apiName) = .ok r.dimensions)
    (hm : req.metrics.mapM (fun m => metricColumn m.apiName) = .ok r.metrics) :
    r.Projects q req := by
  obtain ⟨hmetrics, hnames⟩ := metricColumns_eq (mapM_eq_ok.mp hm)
  exact ⟨dimensionColumns_eq (mapM_eq_ok.mp hd), hmetrics, hnames⟩

theorem Resolves.projects {options : CompileOptions} {table : EventTable} {req : Request}
    {r : Report} (h : r.Resolves options table req) : r.Projects options.quoting req :=
  projects_of_mapM (mapM_eq_ok.mpr h.dimensions) (mapM_eq_ok.mpr h.metrics)

section

variable {q : Quoting} {req : Request} {r : Report} (h : r.Projects q req)
include h

theorem Projects.columns :
    r.columns = req.dimensions.map (·.column q) ++ req.metricKeys.map MetricKey.column := by
  rw [Report.columns, h.dimensions, h.metrics]

theorem Projects.length_metricKeys : req.metricKeys.length = req.metrics.length := by
  simpa using congrArg List.length h.names

theorem Projects.length_columns :
    r.columns.length = req.dimensions.length + req.metrics.length := by
  rw [h.columns, List.length_append, List.length_map, List.length_map, h.length_metricKeys]

/-- A column is that of a dimension or that of a metric. -/
theorem Projects.mem_columns {c : Column} (hc : c ∈ r.columns) :
    (∃ d ∈ req.dimensions, c = d.column q) ∨ ∃ key ∈ req.metricKeys, c = key.column := by
  rw [h.columns] at hc
  rcases List.mem_append.mp hc with hc | hc
  · obtain ⟨d, hd, rfl⟩ := List.mem_map.mp hc
    exact .inl ⟨d, hd, rfl⟩
  · obtain ⟨key, hkey, rfl⟩ := List.mem_map.mp hc
    exact .inr ⟨key, hkey, rfl⟩

theorem Projects.nodup_metricKeys (hm : (req.metrics.map (·.apiName)).Nodup) :
    req.metricKeys.Nodup :=
  List.Nodup.of_map _ (h.names ▸ hm)

theorem Projects.innerNames : r.columns.map (·.innerName) =
    req.dimensions.map (fun d => aliasOf d.apiName) ++
      req.metricKeys.map (·.column.innerName) := by
  rw [h.columns, List.map_append, List.map_map, List.map_map]
  rfl

theorem Projects.outerNames : r.columns.map (·.outerName) =
    req.dimensions.map (fun d => aliasOf d.apiName) ++
      req.metricKeys.map (·.column.outerName) := by
  rw [h.columns, List.map_append, List.map_map, List.map_map]
  rfl

end

end Report

end EventReport
