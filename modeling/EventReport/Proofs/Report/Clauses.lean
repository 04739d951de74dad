import EventReport.Proofs.Report.Tokens
import EventReport.Proofs.Wire.Document

/-! # What filters and the order add to a statement

A statement is that of the request without its filters and its order (`Request.bare`), with three
additions: the filter on dimensions after the days of the range, the filter on metrics at the end,
and the order after it. A filter adds nothing exactly if it has no conditions, which is never so for
a request that is read from a document (`compile_additions`). -/

set_option autoImplicit false

namespace EventReport

open Sql

/-! ## Additions -/

/-- The request without its filters and its order. -/
def Request.bare (r : Request) : Request :=
  { r with dimensionFilter := none, metricFilter := none, order := [] }

/-- What a filter adds to a statement: the keyword and the compiled filter, which is blank exactly
if the filter has no conditions; nothing is added then. -/
structure Adds (options : CompileOptions) (keyword : String) (filter : Option Filter)
    (addition : String) : Prop where
  absent : filter = none → addition = ""
  present : ∀ f ∈ filter, ∃ part, f.compile options = .ok part ∧
    (Text.trimmed (renderPredicate part) = "" ↔ f.leaves = []) ∧
    addition = if f.leaves = [] then "" else keyword ++ renderPredicate part

/-- What a column to order by is in a statement. -/
def SortKey.term (k : SortKey) : String :=
  aliasOf k.field ++ (if k.descending then " DESC" else " ASC")

/-- What an order adds to a statement. -/
def orderAddition (order : List SortKey) : String :=
  if order = [] then "" else " ORDER BY " ++ Text.joined ", " (order.map SortKey.term)

namespace Report

/-- The items of a SELECT. -/
def itemList (items : List String) : String :=
  if items = [] then "*" else Text.joined ", " items

/-- The statement up to the days of its range. -/
def opening (r : Report) : String :=
  "SELECT " ++ itemList (r.columns.map (·.outer.render)) ++ " FROM (SELECT " ++
    itemList (r.columns.map (·.inner.render)) ++ " FROM `" ++ r.tables ++ "` WHERE " ++
    r.range.suffixPredicate

/-- The groups of both stages. -/
def closing (r : Report) : String :=
  Select.renderClause " GROUP BY " ", " r.innerGroups ++ ")" ++
    Select.renderClause " GROUP BY " ", " r.outerGroups

/-- A keyword and a predicate, if there is one. -/
def addition (keyword : String) (part : Option Predicate) : String :=
  part.elim "" fun p => keyword ++ p.render

theorem render_inner (r : Report) : r.inner.render =
    "SELECT " ++ itemList (r.columns.map (·.inner.render)) ++ " FROM `" ++ r.tables ++ "` WHERE " ++
      r.range.suffixPredicate ++ addition " AND " r.eventFilter ++
      Select.renderClause " GROUP BY " ", " r.innerGroups := by
  -- The days are the first condition, so a filter never begins the clause.
  have hconditions : Select.renderClause " WHERE " " AND "
      (r.range.suffixPredicate :: r.eventFilter.toList.map Predicate.render) =
        " WHERE " ++ r.range.suffixPredicate ++ addition " AND " r.eventFilter := by
    cases r.eventFilter with
    | none => simp [Select.renderClause, addition]
    | some p => simp [Select.renderClause, addition, Text.joined_cons_cons, String.append_assoc]
  rw [inner, Select.render, hconditions, ← String.toList_inj]
  simp [Select.renderClause, Select.renderSource, itemList]

/-- A statement with its additions. -/
theorem render_eq (r : Report) : r.render =
    r.opening ++ addition " AND " r.eventFilter ++ r.closing ++ addition " HAVING " r.rowFilter ++
      Select.renderClause " ORDER BY " ", " (r.order.map OrderTerm.render) ++ ";" := by
  have hhaving : Select.renderClause " HAVING " "" (r.rowFilter.map Predicate.render).toList =
      addition " HAVING " r.rowFilter := by
    cases r.rowFilter with
    | none => rfl
    | some p => simp [Select.renderClause, addition]
  rw [render, outer, Select.render, hhaving, render_inner, opening, closing, ← String.toList_inj]
  simp [Select.renderClause, Select.renderSource, itemList]

end Report

theorem adds_of_compileFilter {options : CompileOptions} (keyword : String)
    {filter : Option Filter} {part : Option Predicate}
    (h : compileFilter options filter = .ok part) :
    Adds options keyword filter (Report.addition keyword part) := by
  cases filter with
  | none =>
    obtain rfl := pure_eq_ok.mp h
    exact ⟨fun _ => rfl, nofun⟩
  | some f =>
    refine ⟨nofun, ?_⟩
    rintro _ ⟨⟩
    refine ⟨part, h, Filter.blank_iff h, ?_⟩
    have hnone := Filter.eq_none_iff_of_compileAt h
    cases part with
    | none => rw [if_pos (hnone.mp rfl), Report.addition, Option.elim_none]
    | some p => exact (if_neg fun hf => Option.some_ne_none p (hnone.mpr hf)).symm

/-! ## The request without additions -/

/-- The report without its filters and its order. -/
def Report.bare (r : Report) : Report :=
  { r with eventFilter := none, rowFilter := none, order := [] }

theorem Report.render_bare (r : Report) : r.bare.render = r.opening ++ r.closing ++ ";" := by
  rw [render_eq]
  simp [bare, addition, opening, closing, innerGroups, outerGroups, columns, Select.renderClause]

theorem Report.Resolves.ofRequest_bare {options : CompileOptions} {table : EventTable}
    {req : Request} {r : Report} (h : r.Resolves options table req) :
    Report.ofRequest options table req.bare = .ok r.bare := by
  refine bind_eq_ok.mpr ⟨r.dimensions, mapM_eq_ok.mpr h.dimensions, ?_⟩
  refine bind_eq_ok.mpr ⟨r.metrics, mapM_eq_ok.mpr h.metrics, ?_⟩
  refine bind_eq_ok.mpr ⟨r.tables, h.tables, ?_⟩
  rw [Report.bare, h.range]
  rfl

theorem SortKey.render_of_resolve {q : Quoting} {k : SortKey} {t : OrderTerm}
    (h : k.resolve q = .ok t) : t.render = k.term := by
  obtain ⟨column, hcolumn, h⟩ := bind_eq_ok.mp h
  obtain rfl := pure_eq_ok.mp h
  rw [Quoting.identifier_eq hcolumn, OrderTerm.render, term]

theorem Report.Resolves.renderClause_order {options : CompileOptions} {table : EventTable}
    {req : Request} {r : Report} (h : r.Resolves options table req) :
    Select.renderClause " ORDER BY " ", " (r.order.map OrderTerm.render) =
      orderAddition req.order := by
  have hterms : ∀ {ks : List SortKey} {ts : List OrderTerm},
      List.Forall₂ (fun k t => k.resolve options.quoting = .ok t) ks ts →
        ts.map OrderTerm.render = ks.map SortKey.term := by
    intro ks ts hts
    induction hts with
    | nil => rfl
    | cons hk _ ih => rw [List.map_cons, List.map_cons, SortKey.render_of_resolve hk, ih]
  rw [hterms h.order, Select.renderClause, orderAddition]
  simp only [List.map_eq_nil_iff]

/-! ## Requests of a document -/

theorem noEmptyGroup_of_toFilter? {node : Option FilterNode} {filter : Option Filter}
    (h : toFilter? node = .ok filter) : ∀ f ∈ filter, f.NoEmptyGroup := by
  cases node with
  | none =>
    obtain rfl := pure_eq_ok.mp h
    exact nofun
  | some node =>
    obtain ⟨f, hf, rfl⟩ := map_eq_ok.mp h
    rintro _ ⟨⟩
    exact (FilterNode.toFilter_eq_ok hf).2

/-- The filters of a request that is read from a document have no empty groups. -/
theorem Request.noEmptyGroup_of_ofText {doc : String} {req : Request}
    (h : Request.ofText doc = .ok req) :
    (∀ f ∈ req.dimensionFilter, f.NoEmptyGroup) ∧ ∀ f ∈ req.metricFilter, f.NoEmptyGroup := by
  rw [Request.ofText] at h
  split at h
  · obtain ⟨range, -, h⟩ := bind_eq_ok.mp h
    obtain ⟨dimensionFilter, hd, h⟩ := bind_eq_ok.mp h
    obtain ⟨metricFilter, hm, h⟩ := bind_eq_ok.mp h
    obtain rfl := pure_eq_ok.mp h
    exact ⟨noEmptyGroup_of_toFilter? hd, noEmptyGroup_of_toFilter? hm⟩
  · cases h

/-- What a filter without empty groups adds is not nothing. -/
theorem Adds.exists_predicate {options : CompileOptions} {keyword addition : String}
    {filter : Option Filter} (h : Adds options keyword filter addition) {f : Filter}
    (hf : f ∈ filter) (hfull : f.NoEmptyGroup) :
    ∃ p, f.compile options = .ok (some p) ∧ addition = keyword ++ p.render := by
  obtain ⟨part, hpart, -, hadd⟩ := h.present f hf
  rw [if_neg hfull.leaves_ne_nil] at hadd
  cases part with
  | none => exact absurd ((Filter.eq_none_iff_of_compileAt hpart).mp rfl) hfull.leaves_ne_nil
  | some p => exact ⟨p, hpart, hadd⟩

/-! ## Additions to a statement -/

/-- **A statement is that of the bare request with what its filters and its order add.** -/
theorem compile_additions {options : CompileOptions} {table : EventTable} {req : Request}
    {sql : String} (h : compile options table req = .ok sql) :
    ∃ (rep : Report) (eventAddition rowAddition : String),
      Report.ofRequest options table req.bare = .ok rep ∧ rep.range = req.range ∧
      compile options table req.bare = .ok (rep.opening ++ rep.closing ++ ";") ∧
      sql = rep.opening ++ eventAddition ++ rep.closing ++ rowAddition ++
        orderAddition req.order ++ ";" ∧
      Adds options " AND " req.dimensionFilter eventAddition ∧
      Adds options " HAVING " req.metricFilter rowAddition ∧
      ∀ doc, Request.ofText doc = .ok req →
        (∀ f ∈ req.dimensionFilter, ∃ p, f.compile options = .ok (some p) ∧
          eventAddition = " AND " ++ p.render) ∧
        ∀ f ∈ req.metricFilter, ∃ p, f.compile options = .ok (some p) ∧
          rowAddition = " HAVING " ++ p.render := by
  obtain ⟨r, hr, rfl⟩ := map_eq_ok.mp h
  have hresolves := Report.resolves_of_ofRequest hr
  have hevent := adds_of_compileFilter " AND " hresolves.eventFilter
  have hrow := adds_of_compileFilter " HAVING " hresolves.rowFilter
  refine ⟨r.bare, _, _, hresolves.ofRequest_bare, hresolves.range, ?_, ?_, hevent, hrow, ?_⟩
  · exact map_eq_ok.mpr ⟨r.bare, hresolves.ofRequest_bare, r.render_bare⟩
  · rw [Report.render_eq, hresolves.renderClause_order]
    rfl
  · intro doc hdoc
    obtain ⟨hd, hm⟩ := Request.noEmptyGroup_of_ofText hdoc
    exact ⟨fun f hf => hevent.exists_predicate hf (hd f hf),
      fun f hf => hrow.exists_predicate hf (hm f hf)⟩

/-- A request with filters that a document can hold. -/
def filteredRequest : Request where
  range := .single ⟨2024, 3, 31, by decide⟩
  dimensions := [{ apiName := "geo.country" }]
  metrics := [{ apiName := "users" }]
  dimensionFilter := some (.node .or [.leaf ⟨"page", false, .text ⟨.exact, " ", false⟩⟩])
  metricFilter := some (.leaf ⟨"users", false, .number ⟨.greater, "10"⟩⟩)
  order := [{ field := "geo.country" }, { field := "users", descending := true }]

theorem compile_additions_filtered :
    ∃ (rep : Report) (sql eventAddition rowAddition : String),
      compile {} ⟨"p", "d", "t"⟩ filteredRequest = .ok sql ∧
      sql = rep.opening ++ eventAddition ++ rep.closing ++ rowAddition ++
        orderAddition filteredRequest.order ++ ";" ∧
      Request.ofText filteredRequest.toJson.compact = .ok filteredRequest ∧
      (∀ f ∈ filteredRequest.dimensionFilter, ∃ p, f.compile {} = .ok (some p) ∧
        eventAddition = " AND " ++ p.render) ∧
      ∀ f ∈ filteredRequest.metricFilter, ∃ p, f.compile {} = .ok (some p) ∧
        rowAddition = " HAVING " ++ p.render := by
  have hfilters : ∀ f ∈ filteredRequest.filters, f.Documentable := by
    refine List.forall_mem_cons.mpr ⟨⟨?_, by decide, ?_⟩, List.forall_mem_singleton.mpr ?_⟩
    · exact .node .or (List.cons_ne_nil _ _) (List.forall_mem_singleton.mpr (.leaf _))
    · simp [Filter.leaves, Filter.leavesAll]
    · exact ⟨.leaf _, by decide, by simp [Filter.leaves]⟩
  have hdoc : Request.ofText filteredRequest.toJson.compact = .ok filteredRequest := by
    rw [Request.ofText, Json.decode_compact _ (Request.plain_toJson hfilters),
      Request.read_toJson hfilters]
    exact Request.toRequest_toRecord fun f hf => (hfilters f hf).noEmptyGroup
  obtain ⟨sql, h⟩ : ∃ sql, compile {} ⟨"p", "d", "t"⟩ filteredRequest = .ok sql := ⟨_, rfl⟩
  obtain ⟨rep, eventAddition, rowAddition, -, -, -, hsql, -, -, hgiven⟩ := compile_additions h
  exact ⟨rep, sql, eventAddition, rowAddition, h, hsql, hdoc, hgiven _ hdoc⟩

end EventReport
