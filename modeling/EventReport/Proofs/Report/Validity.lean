import EventReport.Proofs.Filter.Depth
import EventReport.Report

/-! # Requests that compile

A request compiles exactly if it is `Request.Valid`: its metrics are in the catalog, its filters
compile, and with escaped quoting its names are plain. Otherwise the error is the first of its
faults: those of the dimensions, the metrics, the table, the filter on dimensions, the filter on
metrics and the order, in this order (`compile_valid`). -/

set_option autoImplicit false

namespace EventReport

open Sql

/-! ## Faults -/

/-- A dimension is shown under its alias. -/
def Dimension.faults (q : Quoting) (d : Dimension) : List ReportError :=
  nameFaults q ['_', '.'] d.apiName (aliasOf d.apiName)

/-- The names of the catalog. -/
def metricNames : List String := ["events", "revenue", "sessions", "users"]

def Metric.faults (m : Metric) : List ReportError :=
  if m.apiName ∈ metricNames then [] else [.unsupportedMetric m.apiName]

def EventTable.faults (q : Quoting) (t : EventTable) : List ReportError :=
  [t.project, t.dataset, t.table].flatMap fun part => nameFaults q ['_', '-'] part part

/-- The fault of a filter, if there is one that does not compile. -/
def filterFaults (options : CompileOptions) (filter : Option Filter) : List ReportError :=
  filter.toList.flatMap fun f =>
    match f.compile options with
    | .ok _ => []
    | .error e => [e]

/-- A column to order by is shown under its alias. -/
def SortKey.faults (q : Quoting) (k : SortKey) : List ReportError :=
  nameFaults q ['_', '.'] k.field (aliasOf k.field)

namespace Request

/-- The faults of a request, in the order in which they count. -/
def faults (options : CompileOptions) (table : EventTable) (r : Request) : List ReportError :=
  r.dimensions.flatMap (·.faults options.quoting) ++
    (r.metrics.flatMap Metric.faults ++
      (table.faults options.quoting ++
        (filterFaults options r.dimensionFilter ++
          (filterFaults options r.metricFilter ++
            r.order.flatMap (·.faults options.quoting)))))

/-- The request asks for nothing that cannot be compiled. -/
structure Valid (options : CompileOptions) (table : EventTable) (r : Request) : Prop where
  dimensions : options.quoting = .escaped → ∀ d ∈ r.dimensions, IsPlainName ['_', '.'] d.apiName
  metrics : ∀ m ∈ r.metrics, m.apiName ∈ metricNames
  table : options.quoting = .escaped →
    ∀ part ∈ [table.project, table.dataset, table.table], IsPlainName ['_', '-'] part
  dimensionFilter : ∀ f ∈ r.dimensionFilter, ∃ part, f.compile options = .ok part
  metricFilter : ∀ f ∈ r.metricFilter, ∃ part, f.compile options = .ok part
  order : options.quoting = .escaped → ∀ k ∈ r.order, IsPlainName ['_', '.'] k.field

end Request

/-! ## The run stops at the first fault -/

/-- What a dimension computes can be said if its alias can be shown. -/
theorem stopsAtFirst_dimensionExpr {q : Quoting} (custom : Bool) {name shown : String}
    (h : q.identifier (aliasOf name) = .ok shown) :
    StopsAtFirst [] (dimensionExpr q custom name) := by
  have hplain := (stopsAtFirst_alias q name).exists_ok_iff.mp ⟨shown, h⟩
  have hname : nameFaults q ['_', '.'] name name = [] :=
    nameFaults_eq_nil.mpr (nameFaults_eq_nil.mp hplain)
  rw [dimensionExpr]
  split
  · exact .ok _
  · split
    · exact .ok _
    · rw [← hname]
      exact (stopsAtFirst_identifier q name).bind_pure Expr.column

theorem Dimension.stopsAtFirst (q : Quoting) (d : Dimension) :
    StopsAtFirst (d.faults q) (dimensionColumn q d.custom d.apiName) := by
  have hrun := (stopsAtFirst_alias q d.apiName).bind fun shown hshown =>
    (stopsAtFirst_dimensionExpr d.custom hshown).bind_pure fun expr =>
      (⟨true, shown, shown, .named expr shown, .bare shown⟩ : Column)
  rwa [List.append_nil] at hrun

theorem Metric.stopsAtFirst (m : Metric) : StopsAtFirst m.faults (metricColumn m.apiName) := by
  have hnames : m.apiName ∈ metricNames ↔ (MetricKey.ofName? m.apiName).isSome := by
    rw [MetricKey.ofName?, List.find?_isSome]
    simp [metricNames, MetricKey.all, MetricKey.name, eq_comm]
  rw [faults, metricColumn]
  split
  · rename_i hmem
    obtain ⟨key, hkey⟩ := Option.isSome_iff_exists.mp (hnames.mp hmem)
    rw [hkey]
    exact .ok key.column
  · rename_i hmem
    rw [Option.not_isSome_iff_eq_none.mp (mt hnames.mpr hmem)]
    exact .error _ []

theorem EventTable.stopsAtFirst (q : Quoting) (t : EventTable) :
    StopsAtFirst (t.faults q) (t.resolve q) := by
  rw [faults, List.flatMap_cons, List.flatMap_cons, List.flatMap_singleton]
  refine (stopsAtFirst_tablePart q t.project).bind fun project _ => ?_
  refine (stopsAtFirst_tablePart q t.dataset).bind fun dataset _ => ?_
  exact (stopsAtFirst_tablePart q t.table).bind_pure fun table =>
    project ++ "." ++ dataset ++ "." ++ table ++ "_*"

theorem stopsAtFirst_compileFilter (options : CompileOptions) (filter : Option Filter) :
    StopsAtFirst (filterFaults options filter) (compileFilter options filter) := by
  cases filter with
  | none => exact .ok none
  | some f =>
    rw [filterFaults, compileFilter, Option.toList_some, List.flatMap_singleton]
    cases f.compile options with
    | ok part => exact .ok part
    | error e => exact .error e []

theorem SortKey.stopsAtFirst (q : Quoting) (k : SortKey) :
    StopsAtFirst (k.faults q) (k.resolve q) :=
  (stopsAtFirst_alias q k.field).bind_pure fun column => (⟨column, k.descending⟩ : OrderTerm)

/-- Resolving a request stops at the first of its faults. -/
theorem stopsAtFirst_ofRequest (options : CompileOptions) (table : EventTable) (r : Request) :
    StopsAtFirst (r.faults options table) (Report.ofRequest options table r) := by
  refine (StopsAtFirst.mapM fun d _ => d.stopsAtFirst options.quoting).bind fun _ _ => ?_
  refine (StopsAtFirst.mapM fun m _ => m.stopsAtFirst).bind fun _ _ => ?_
  refine (table.stopsAtFirst options.quoting).bind fun _ _ => ?_
  refine (stopsAtFirst_compileFilter options r.dimensionFilter).bind fun _ _ => ?_
  refine (stopsAtFirst_compileFilter options r.metricFilter).bind fun _ _ => ?_
  exact (StopsAtFirst.mapM fun k _ => k.stopsAtFirst options.quoting).bind_pure _

theorem stopsAtFirst_compile (options : CompileOptions) (table : EventTable) (r : Request) :
    StopsAtFirst (r.faults options table) (compile options table r) :=
  (stopsAtFirst_ofRequest options table r).map Report.render

/-! ## Requests without faults -/

theorem filterFaults_eq_nil {options : CompileOptions} {filter : Option Filter} :
    filterFaults options filter = [] ↔ ∀ f ∈ filter, ∃ part, f.compile options = .ok part := by
  cases filter with
  | none => simp [filterFaults]
  | some f =>
    rw [filterFaults, Option.toList_some, List.flatMap_singleton]
    cases h : f.compile options with
    | ok part => simp [h]
    | error e => simp [h]

theorem Request.valid_iff {options : CompileOptions} {table : EventTable} {r : Request} :
    r.Valid options table ↔ r.faults options table = [] := by
  have hmetric : ∀ m : Metric, m.faults = [] ↔ m.apiName ∈ metricNames := by
    intro m
    rw [Metric.faults]
    split <;> simp_all
  simp only [faults, List.append_eq_nil_iff, List.flatMap_eq_nil_iff, filterFaults_eq_nil, hmetric,
    Dimension.faults, EventTable.faults, SortKey.faults, nameFaults_eq_nil]
  constructor
  · intro h
    exact ⟨fun d hd hq => h.dimensions hq d hd, h.metrics,
      fun part hpart hq => h.table hq part hpart, h.dimensionFilter, h.metricFilter,
      fun k hk hq => h.order hq k hk⟩
  · rintro ⟨hd, hm, ht, he, hr, ho⟩
    exact ⟨fun hq d hmem => hd d hmem hq, hm, fun hq part hmem => ht part hmem hq, he, hr,
      fun hq k hmem => ho k hmem hq⟩

/-! ## Faults without escaped quoting -/

/-- The test that has no form in a statement. -/
def Test.unsupported? : Test → Option UnsupportedTest
  | .text _ | .number _ => none
  | .inList _ => some .inList
  | .between _ => some .between

/-- The filter has more levels than the limit allows, or a test that has no form in a statement. -/
inductive Filter.Refused (options : CompileOptions) (f : Filter) : ReportError → Prop
  | tooDeep : options.maxDepth.toNat < f.height → Refused options f (.tooDeep options.maxDepth)
  | unsupported {c : Condition} {test : UnsupportedTest} : c ∈ f.leaves →
      c.test.unsupported? = some test → Refused options f (.unsupportedTest test)

theorem Condition.mem_faults_verbatim {c : Condition} {e : ReportError}
    (h : e ∈ c.faults .verbatim) :
    ∃ test, c.test.unsupported? = some test ∧ e = .unsupportedTest test := by
  obtain ⟨field, custom, test⟩ := c
  cases test with
  | text test => cases custom <;> cases h
  | number test => cases h
  | inList test | between test => exact ⟨_, rfl, List.mem_singleton.mp h⟩

/-- The fault that a filter fails with is that of a level or of a condition. -/
theorem Filter.refused_of_compile {options : CompileOptions} (hq : options.quoting = .verbatim)
    {f : Filter} {e : ReportError} (h : f.compile options = .error e) : f.Refused options e := by
  have hfirst := ((f.stopsAtFirst_below options 0).eq_error_iff e).mp h
  obtain ⟨n, hn, he⟩ := List.mem_flatMap.mp (List.mem_of_head? hfirst)
  rcases List.mem_append.mp he with hdeep | hown
  · split at hdeep
    · rename_i hlevel
      obtain rfl := List.mem_singleton.mp hdeep
      have hbelow := (f.mem_levels_nodes.mp (List.mem_map_of_mem hn)).2
      have hcounted : n.counted.level ≤ n.level := Nat.mod_le _ _
      rw [UInt64.toNat_zero] at hbelow
      exact .tooDeep (by omega)
    · cases hdeep
  · have hleaf : e ∈ f.leaves.flatMap (·.faults options.quoting) := by
      rw [← Filter.ownFaults_nodes]
      exact List.mem_flatMap.mpr ⟨n, hn, hown⟩
    obtain ⟨c, hc, he⟩ := List.mem_flatMap.mp hleaf
    obtain ⟨test, htest, rfl⟩ := Condition.mem_faults_verbatim (hq ▸ he)
    exact .unsupported hc htest

/-- The filters of a request. -/
def Request.filters (r : Request) : List Filter :=
  r.dimensionFilter.toList ++ r.metricFilter.toList

theorem refused_of_mem_filterFaults {options : CompileOptions} (hq : options.quoting = .verbatim)
    {filter : Option Filter} {e : ReportError} (h : e ∈ filterFaults options filter) :
    ∃ f ∈ filter, f.Refused options e := by
  obtain ⟨f, hf, he⟩ := List.mem_flatMap.mp h
  refine ⟨f, Option.mem_toList.mp hf, Filter.refused_of_compile hq ?_⟩
  cases hrun : f.compile options with
  | ok part =>
    rw [hrun] at he
    cases he
  | error e' =>
    rw [hrun] at he
    rw [List.mem_singleton.mp he]

/-- Without escaped quoting, only metrics and filters have faults. -/
theorem Request.mem_faults_verbatim {options : CompileOptions} (hq : options.quoting = .verbatim)
    {table : EventTable} {r : Request} {e : ReportError} (h : e ∈ r.faults options table) :
    (∃ m ∈ r.metrics, m.apiName ∉ metricNames ∧ e = .unsupportedMetric m.apiName) ∨
      ∃ f ∈ r.filters, f.Refused options e := by
  have hnone : ∀ extra name shown, e ∉ nameFaults .verbatim extra name shown :=
    fun _ _ _ => List.not_mem_nil
  simp only [faults, hq, List.mem_append] at h
  rcases h with h | h | h | h | h | h
  · obtain ⟨d, -, h⟩ := List.mem_flatMap.mp h
    exact absurd h (hnone _ _ _)
  · obtain ⟨m, hm, h⟩ := List.mem_flatMap.mp h
    rw [Metric.faults] at h
    split at h
    · cases h
    · exact .inl ⟨m, hm, ‹_›, List.mem_singleton.mp h⟩
  · obtain ⟨part, -, h⟩ := List.mem_flatMap.mp h
    exact absurd h (hnone _ _ _)
  · obtain ⟨f, hf, hrefused⟩ := refused_of_mem_filterFaults hq h
    exact .inr ⟨f, List.mem_append_left _ (Option.mem_toList.mpr hf), hrefused⟩
  · obtain ⟨f, hf, hrefused⟩ := refused_of_mem_filterFaults hq h
    exact .inr ⟨f, List.mem_append_right _ (Option.mem_toList.mpr hf), hrefused⟩
  · obtain ⟨k, -, h⟩ := List.mem_flatMap.mp h
    exact absurd h (hnone _ _ _)

/-- **A request compiles exactly if it is valid.** Otherwise the error is the first of its faults,
and without escaped quoting it comes from a metric, or from a filter that has too many levels or a
test without a form in a statement. -/
theorem compile_valid (options : CompileOptions) (table : EventTable) (r : Request) :
    ((∃ sql, compile options table r = .ok sql) ↔ r.Valid options table) ∧
      (∀ e, compile options table r = .error e ↔ (r.faults options table).head? = some e) ∧
      (options.quoting = .verbatim → ∀ e, compile options table r = .error e →
        (∃ m ∈ r.metrics, m.apiName ∉ metricNames ∧ e = .unsupportedMetric m.apiName) ∨
          ∃ f ∈ r.filters, f.Refused options e) := by
  have hrun := stopsAtFirst_compile options table r
  refine ⟨?_, hrun.eq_error_iff, fun hq e he => ?_⟩
  · rw [hrun.exists_ok_iff, Request.valid_iff]
  · exact Request.mem_faults_verbatim hq (List.mem_of_head? ((hrun.eq_error_iff e).mp he))

/-- A request with a fault of each kind of name, and a filter that has no form in a statement. -/
def faultyRequest : Request where
  range := .single ⟨2023, 12, 31, by decide⟩
  dimensions := [{ apiName := "geo.country" }, { apiName := "a.b c" }]
  metrics := [{ apiName := "events" }, { apiName := "bounce_rate" }]
  metricFilter := some (.node .or [.leaf ⟨"page", false, .inList ⟨["/"], false⟩⟩])
  order := [{ field := "" }]

theorem compile_valid_bounce_rate :
    compile {} ⟨"p", "d", "t*"⟩ faultyRequest = .error (.unsupportedMetric "bounce_rate") ∧
      ((∃ m ∈ faultyRequest.metrics, m.apiName ∉ metricNames ∧
          ReportError.unsupportedMetric "bounce_rate" = .unsupportedMetric m.apiName) ∨
        ∃ f ∈ faultyRequest.filters, f.Refused {} (.unsupportedMetric "bounce_rate")) := by
  obtain ⟨-, herror, hverbatim⟩ := compile_valid {} ⟨"p", "d", "t*"⟩ faultyRequest
  have h := (herror (.unsupportedMetric "bounce_rate")).mpr rfl
  exact ⟨h, hverbatim rfl _ h⟩

/-- With escaped quoting the names have faults as well. -/
example : faultyRequest.faults { quoting := .escaped } ⟨"p", "d", "t*"⟩ =
    [.invalidIdentifier "a__b c", .unsupportedMetric "bounce_rate", .invalidIdentifier "t*",
      .unsupportedTest .inList, .invalidIdentifier ""] := by
  decide

end EventReport
