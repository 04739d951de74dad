import EventReport.Proofs.Calendar.Written
import EventReport.Proofs.Filter.Tokens
import EventReport.Report

/-! # The tokens of a report

`Report.tokens` are the tokens of a report's statement. They spell it if the parts of the report are
`Clean` (`Report.spells`), and every report that escaped quoting makes of a request is clean
(`Report.clean_of_request`). -/

set_option autoImplicit false

namespace EventReport

open Sql

/-! ## Days -/

namespace Calendar

/-- A day is written with digits, and perhaps a sign. -/
theorem Date.compact_spec (d : Date) : ∀ c ∈ d.compact, IsSign c ∨ c.isDigit := by
  simp only [compact, List.forall_mem_append]
  exact ⟨⟨fun _ => mem_writtenYear, fun c hc => .inr (isDigit_twoDigits _ c hc)⟩,
    fun c hc => .inr (isDigit_twoDigits _ c hc)⟩

def Date.literal (d : Date) : Token := .literal ("'" ++ String.ofList d.compact ++ "'")

theorem Date.valid_literal (names : Bool) (d : Date) : d.literal.Valid names := by
  refine ⟨d.compact, isLiteralBody_of_forall fun c hc => ?_, by simp⟩
  rcases d.compact_spec c hc with (rfl | rfl) | hd
  · decide
  · decide
  · constructor <;> (rintro rfl; exact absurd hd (by decide))

/-- The tokens of the condition on the suffix of a table's name. -/
def DayRange.suffixTokens (r : DayRange) : List Token :=
  [.word "_TABLE_SUFFIX", .blank, .word "BETWEEN", .blank, r.first.literal, .blank, .word "AND",
    .blank, r.last.literal]

theorem DayRange.spells (names : Bool) (r : DayRange) :
    Spells names r.suffixPredicate r.suffixTokens := by
  refine ⟨?_, ?_, ?_⟩
  · unfold suffixPredicate
    simp [suffixTokens, Token.chars, Token.blank, Date.literal]
  · simp (disch := decide) only [suffixTokens, List.forall_mem_cons, Token.valid_of_isPlain,
      true_and]
    exact ⟨r.first.valid_literal names, r.last.valid_literal names, List.forall_mem_nil _⟩
  · simp [suffixTokens, Token.blank, Date.literal]

end Calendar

/-! ## Reports -/

def OrderTerm.tokens (t : OrderTerm) : List Token :=
  [.word t.column, .blank, .word (if t.descending then "DESC" else "ASC")]

theorem OrderTerm.spells {names : Bool} {t : OrderTerm} (h : isWordText t.column) :
    Spells names t.render t.tokens := by
  have hword : (Token.word t.column).Valid names := h
  refine ⟨?_, ?_, ?_⟩
  · unfold render
    cases hd : t.descending <;> simp [tokens, hd, Token.chars, Token.blank]
  · cases hd : t.descending <;>
      simp (disch := decide) only [tokens, List.forall_mem_cons, Token.valid_of_isPlain, true_and,
        hd, if_true, if_false, Bool.false_eq_true] <;>
      exact ⟨hword, List.forall_mem_nil _⟩
  · simp [tokens, Token.blank]

namespace Report

/-- The tokens of the inner stage. -/
def innerTokens (r : Report) : SelectTokens where
  source := [.name ("`" ++ r.tables ++ "`")]
  columns := r.columns.map (·.inner.tokens)
  conditions := r.range.suffixTokens :: r.eventFilter.toList.map Predicate.tokens
  groups := r.innerGroups.map ([.word ·])
  having := none
  order := []

def outerTokens (r : Report) : SelectTokens where
  source := .mark '(' :: (r.innerTokens.tokens ++ [.mark ')'])
  columns := r.columns.map (·.outer.tokens)
  conditions := []
  groups := r.outerGroups.map ([.word ·])
  having := r.rowFilter.map Predicate.tokens
  order := r.order.map OrderTerm.tokens

/-- The tokens of the statement. -/
def tokens (r : Report) : List Token :=
  r.outerTokens.tokens ++ [.mark ';']

/-- What the columns, the filters and the terms of the order are made of is clean, and the names of
the tables can stand between backticks. -/
structure Clean (r : Report) : Prop where
  tables : IsQuotedName ("`" ++ r.tables ++ "`")
  columns : ∀ c ∈ r.columns, c.Clean
  eventFilter : ∀ p ∈ r.eventFilter, p.Regular Atom.Clean
  rowFilter : ∀ p ∈ r.rowFilter, p.Regular Atom.Clean
  order : ∀ t ∈ r.order, isWordText t.column

theorem spells_words {names : Bool} {words : List String} (h : ∀ word ∈ words, isWordText word) :
    List.Forall₂ (Spells names) words (words.map ([.word ·])) :=
  List.forall₂_map_right_iff.mpr (List.forall₂_same.mpr fun word hword =>
    ⟨by simp [Token.chars], List.forall_mem_singleton.mpr (h word hword), by simp⟩)

theorem inner_spelled {r : Report} (h : r.Clean) :
    SelectTokens.Spelled true r.inner r.innerTokens where
  source := by
    refine ⟨?_, ?_, by simp [innerTokens]⟩
    · simp [inner, innerTokens, Select.renderSource, Token.chars]
    · exact List.forall_mem_singleton.mpr ⟨rfl, h.tables⟩
  columns := spells_map fun c hc => Item.spells true (h.columns c hc).inner
  conditions := by
    refine .cons (Calendar.DayRange.spells true r.range) (spells_map fun p hp => ?_)
    exact Predicate.spells (h.eventFilter p (Option.mem_toList.mp hp))
  groups := by
    have hgroups : ∀ name ∈ r.innerGroups, isWordText name := by
      intro name hname
      obtain ⟨c, hc, rfl⟩ := List.mem_map.mp hname
      exact (h.columns c (List.mem_filter.mp hc).1).innerName
    exact spells_words hgroups
  having := .none
  order := .nil

theorem outer_spelled {r : Report} (h : r.Clean) :
    SelectTokens.Spelled true r.outer r.outerTokens where
  source := by
    rw [outer, outerTokens, Select.renderSource]
    exact (inner_spelled h).spells.parens
  columns := spells_map fun c hc => Item.spells true (h.columns c hc).outer
  conditions := .nil
  groups := by
    have hgroups : ∀ name ∈ r.outerGroups, isWordText name := by
      intro name hname
      obtain ⟨c, hc, rfl⟩ := List.mem_map.mp hname
      exact (h.columns c (List.mem_append_left _ hc)).outerName
    exact spells_words hgroups
  having := by
    have := h.rowFilter
    unfold outer outerTokens
    generalize r.rowFilter = filter at this
    cases filter with
    | none => exact .none
    | some p => exact .some (Predicate.spells (this p rfl))
  order := spells_map fun t ht => OrderTerm.spells (h.order t ht)

theorem spells {r : Report} (h : r.Clean) : Spells true r.render r.tokens := by
  have hend : Spells true ";" [.mark ';'] :=
    spells_plain (by decide) (by simp) (by simp [Token.chars])
  exact (outer_spelled h).spells.append hend (.inr (by simp [Token.isWord]))

end Report

/-! ## Escaped quoting makes clean reports -/

theorem MetricKey.clean_column (key : MetricKey) : key.column.Clean := by
  cases key with
  | events => exact ⟨Item.clean_named rfl rfl, Item.clean_named rfl rfl, rfl, rfl⟩
  | revenue => exact ⟨Item.clean_named rfl rfl, Item.clean_named rfl rfl, rfl, rfl⟩
  | sessions => exact ⟨Item.clean_named trivial rfl, Item.clean_named rfl rfl, rfl, rfl⟩
  | users => exact ⟨Item.clean_bare rfl, Item.clean_named rfl rfl, rfl, rfl⟩

theorem clean_of_metricColumn {name : String} {c : Column} (h : metricColumn name = .ok c) :
    c.Clean := by
  unfold metricColumn at h
  split at h
  · obtain rfl := pure_eq_ok.mp h
    exact MetricKey.clean_column _
  · cases h

theorem clean_of_dimensionExpr {custom : Bool} {name : String} {e : Expr}
    (h : dimensionExpr .escaped custom name = .ok e) : e.Clean := by
  unfold dimensionExpr at h
  split at h
  · obtain rfl := pure_eq_ok.mp h
    exact isLiteral_literal name
  · split at h
    · obtain rfl := pure_eq_ok.mp h
      trivial
    · obtain ⟨shown, hshown, h⟩ := bind_eq_ok.mp h
      obtain rfl := pure_eq_ok.mp h
      obtain ⟨rfl, hword⟩ := identifier_eq_ok hshown
      exact hword

theorem clean_of_dimensionColumn {custom : Bool} {name : String} {c : Column}
    (h : dimensionColumn .escaped custom name = .ok c) : c.Clean := by
  obtain ⟨shown, hshown, h⟩ := bind_eq_ok.mp h
  obtain ⟨e, he, h⟩ := bind_eq_ok.mp h
  obtain rfl := pure_eq_ok.mp h
  obtain ⟨rfl, hword⟩ := identifier_eq_ok hshown
  exact ⟨Item.clean_named (clean_of_dimensionExpr he) hword, Item.clean_bare hword, hword, hword⟩

theorem tablePart_eq_ok {part shown : String} (h : Quoting.escaped.tablePart part = .ok shown) :
    shown = part ∧ '`' ∉ part.toList := by
  simp only [Quoting.tablePart] at h
  split at h
  · rename_i hp
    refine ⟨(pure_eq_ok.mp h).symm, fun hmem => ?_⟩
    simp only [isTablePart, isName, Bool.and_eq_true, List.all_eq_true] at hp
    exact absurd (hp.2 '`' hmem) (by decide)
  · cases h

/-- The pattern of the tables' names is made of the coordinates and can stand between backticks. -/
theorem EventTable.resolve_eq_ok {t : EventTable} {name : String}
    (h : t.resolve .escaped = .ok name) :
    name = t.project ++ "." ++ t.dataset ++ "." ++ t.table ++ "_*" ∧
      IsQuotedName ("`" ++ name ++ "`") := by
  obtain ⟨project, hproject, h⟩ := bind_eq_ok.mp h
  obtain ⟨dataset, hdataset, h⟩ := bind_eq_ok.mp h
  obtain ⟨table, htable, h⟩ := bind_eq_ok.mp h
  obtain rfl := pure_eq_ok.mp h
  obtain ⟨rfl, hp⟩ := tablePart_eq_ok hproject
  obtain ⟨rfl, hd⟩ := tablePart_eq_ok hdataset
  obtain ⟨rfl, ht⟩ := tablePart_eq_ok htable
  refine ⟨rfl, (t.project ++ "." ++ t.dataset ++ "." ++ t.table ++ "_*").toList, ?_, ?_⟩
  · simp [hp, hd, ht]
  · rw [String.toList_append, String.toList_append]
    rfl

/-- What resolving a request gives. -/
structure Report.Resolves (options : CompileOptions) (table : EventTable) (req : Request)
    (r : Report) : Prop where
  dimensions : List.Forall₂
    (fun d c => dimensionColumn options.quoting d.custom d.apiName = .ok c) req.dimensions
    r.dimensions
  metrics : List.Forall₂ (fun m c => metricColumn m.apiName = .ok c) req.metrics r.metrics
  tables : table.resolve options.quoting = .ok r.tables
  range : r.range = req.range
  eventFilter : compileFilter options req.dimensionFilter = .ok r.eventFilter
  rowFilter : compileFilter options req.metricFilter = .ok r.rowFilter
  order : List.Forall₂ (fun k t => k.resolve options.quoting = .ok t) req.order r.order

theorem Report.resolves_of_ofRequest {options : CompileOptions} {table : EventTable}
    {req : Request} {r : Report} (h : Report.ofRequest options table req = .ok r) :
    r.Resolves options table req := by
  obtain ⟨dimensions, hd, h⟩ := bind_eq_ok.mp h
  obtain ⟨metrics, hm, h⟩ := bind_eq_ok.mp h
  obtain ⟨tables, ht, h⟩ := bind_eq_ok.mp h
  obtain ⟨eventFilter, he, h⟩ := bind_eq_ok.mp h
  obtain ⟨rowFilter, hr, h⟩ := bind_eq_ok.mp h
  obtain ⟨order, ho, h⟩ := bind_eq_ok.mp h
  obtain rfl := pure_eq_ok.mp h
  exact ⟨mapM_eq_ok.mp hd, mapM_eq_ok.mp hm, ht, rfl, he, hr, mapM_eq_ok.mp ho⟩

theorem clean_of_compileFilter {options : CompileOptions} (hq : options.quoting = .escaped)
    {f : Option Filter} {part : Option Predicate} (h : compileFilter options f = .ok part) :
    ∀ p ∈ part, p.Regular Atom.Clean := by
  rintro p rfl
  cases f with
  | none => cases h
  | some f => exact Predicate.clean_of_compileAt hq h

/-- **Escaped quoting makes clean reports.** -/
theorem Report.clean_of_request {options : CompileOptions} (hq : options.quoting = .escaped)
    {table : EventTable} {req : Request} {r : Report}
    (h : Report.ofRequest options table req = .ok r) : r.Clean := by
  have hr := Report.resolves_of_ofRequest h
  refine ⟨?_, ?_, clean_of_compileFilter hq hr.eventFilter, clean_of_compileFilter hq hr.rowFilter,
    ?_⟩
  · exact (EventTable.resolve_eq_ok (hq ▸ hr.tables)).2
  · intro c hc
    rcases List.mem_append.mp hc with hc | hc
    · obtain ⟨d, -, hd⟩ := exists_of_mem_right hr.dimensions c hc
      exact clean_of_dimensionColumn (hq ▸ hd)
    · obtain ⟨m, -, hm⟩ := exists_of_mem_right hr.metrics c hc
      exact clean_of_metricColumn hm
  · intro t ht
    obtain ⟨k, -, hk⟩ := exists_of_mem_right hr.order t ht
    rw [hq] at hk
    obtain ⟨column, hcolumn, hk⟩ := bind_eq_ok.mp hk
    obtain rfl := pure_eq_ok.mp hk
    exact (identifier_eq_ok hcolumn).1 ▸ (identifier_eq_ok hcolumn).2

end EventReport
