import EventReport.Report

/-! # What a request says for its readers only

The labels of dimensions and metrics, the `custom` mark of a metric, whether a test tells capitals
apart, and what a list or a range of numbers holds have no part in a statement: requests that differ
in nothing else end with the same statement or the same error (`compile_eq_of_undescribed_eq`). -/

set_option autoImplicit false

namespace EventReport

open Sql

/-! ## Filters -/

mutual

/-- The filter with each of its conditions changed. -/
def Filter.mapConditions (change : Condition → Condition) : Filter → Filter
  | .leaf c => .leaf (change c)
  | .node k members => .node k (Filter.mapAllConditions change members)

def Filter.mapAllConditions (change : Condition → Condition) : List Filter → List Filter
  | [] => []
  | f :: fs => Filter.mapConditions change f :: Filter.mapAllConditions change fs

end

mutual

/-- A filter compiles as before, or fails as before, if its conditions do. -/
theorem Filter.compileAt_mapConditions {options : CompileOptions} {change : Condition → Condition}
    (h : ∀ c, (change c).compile options.quoting = c.compile options.quoting) :
    ∀ (f : Filter) (depth : UInt64),
      (f.mapConditions change).compileAt options depth = f.compileAt options depth
  | .leaf c, depth => by
    rw [mapConditions, compileAt, compileAt, h c]
  | .node k members, depth => by
    rw [mapConditions, compileAt, compileAt, compileMembers_mapConditions h members (depth + 1)]

theorem Filter.compileMembers_mapConditions {options : CompileOptions}
    {change : Condition → Condition}
    (h : ∀ c, (change c).compile options.quoting = c.compile options.quoting) :
    ∀ (fs : List Filter) (depth : UInt64),
      compileMembers options depth (mapAllConditions change fs) = compileMembers options depth fs
  | [], _ => rfl
  | f :: fs, depth => by
    rw [mapAllConditions, compileMembers, compileMembers, compileAt_mapConditions h f depth,
      compileMembers_mapConditions h fs depth]

end

theorem compileFilter_mapConditions {options : CompileOptions} {change : Condition → Condition}
    (h : ∀ c, (change c).compile options.quoting = c.compile options.quoting)
    (filter : Option Filter) :
    compileFilter options (filter.map (Filter.mapConditions change)) =
      compileFilter options filter := by
  cases filter with
  | none => rfl
  | some f => exact Filter.compileAt_mapConditions h f 0

/-! ## Requests without descriptions -/

/-- The test without what has no part in a statement. -/
def Test.undescribed : Test → Test
  | .text test => .text { test with caseSensitive := false }
  | .number test => .number test
  | .inList _ => .inList { values := [] }
  | .between _ => .between ⟨⟨0⟩, ⟨0⟩⟩

/-- The condition without what has no part in a statement. -/
def Condition.undescribed (c : Condition) : Condition :=
  { c with test := c.test.undescribed }

/-- The request without what has no part in a statement. -/
def Request.undescribed (r : Request) : Request :=
  { r with
    dimensions := r.dimensions.map fun d => { d with label := "" }
    metrics := r.metrics.map fun m => { m with label := "", custom := false }
    dimensionFilter := r.dimensionFilter.map (Filter.mapConditions Condition.undescribed)
    metricFilter := r.metricFilter.map (Filter.mapConditions Condition.undescribed) }

theorem Condition.compile_undescribed (q : Quoting) (c : Condition) :
    c.undescribed.compile q = c.compile q := by
  obtain ⟨field, custom, test⟩ := c
  cases test <;> rfl

/-- The report of a request is that of the request without what has no part in a statement. -/
theorem Report.ofRequest_undescribed (options : CompileOptions) (table : EventTable)
    (req : Request) :
    Report.ofRequest options table req.undescribed = Report.ofRequest options table req := by
  have hfilter := compileFilter_mapConditions (Condition.compile_undescribed options.quoting)
  simp only [ofRequest, Request.undescribed, List.mapM_map, Function.comp_def, hfilter]

/-- **Descriptions have no effect.** Two requests that differ in nothing but labels, the marks of
metrics, whether tests tell capitals apart, and the values of tests that have no form in a statement
end with the same statement or the same error. -/
theorem compile_eq_of_undescribed_eq {options : CompileOptions} {table : EventTable}
    {req req' : Request} (h : req.undescribed = req'.undescribed) :
    compile options table req = compile options table req' := by
  have hreport : Report.ofRequest options table req = Report.ofRequest options table req' := by
    rw [← Report.ofRequest_undescribed, h, Report.ofRequest_undescribed]
  rw [compile, compile, hreport]

/-- A request with a label, marks and a filter on its rows. -/
def labelledRequest (label : String) (mark : Bool) (rowFilter : Option Filter) : Request where
  range := .single ⟨2024, 7, 1, by decide⟩
  dimensions := [{ apiName := "country", label }]
  metrics := [{ apiName := "events", label, custom := mark }]
  dimensionFilter := some (.node .or
    [.leaf ⟨"page", false, .text ⟨.contains, "50%", mark⟩⟩, .node .and []])
  metricFilter := rowFilter

theorem compile_eq_of_undescribed_eq_labels :
    compile { quoting := .escaped } ⟨"p", "d", "t"⟩ (labelledRequest "Country" true none) =
        compile { quoting := .escaped } ⟨"p", "d", "t"⟩ (labelledRequest "" false none) ∧
      compile {} ⟨"p", "d", "t"⟩ (labelledRequest "Country" true
          (some (.leaf ⟨"events", true, .inList ⟨["1", "2"], true⟩⟩))) =
        compile {} ⟨"p", "d", "t"⟩ (labelledRequest "" false
          (some (.leaf ⟨"events", true, .inList ⟨[], false⟩⟩))) ∧
      compile {} ⟨"p", "d", "t"⟩ (labelledRequest "" false
          (some (.leaf ⟨"events", true, .inList ⟨[], false⟩⟩))) =
        .error (.unsupportedTest .inList) :=
  ⟨compile_eq_of_undescribed_eq rfl, compile_eq_of_undescribed_eq rfl, rfl⟩

end EventReport
