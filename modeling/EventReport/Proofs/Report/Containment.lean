import EventReport.Proofs.Report.Tokens
import EventReport.Proofs.Sql.Containment

/-! # No text of a request leaves its place

With escaped quoting, whatever stands in a request, its statement is one statement: all literals and
names are closed, all parentheses match, no comment begins, the only name between backticks is that
of the tables, and the only semicolon comes last. The conditions on the events are the range of the
days, followed by one operand if there is a filter on events (`compile_contained`). -/

set_option autoImplicit false

namespace EventReport

open Sql

/-! ## Filters -/

/-- The name is none of the words that make up statements, in capitals or not. -/
def IsFreeName (name : String) : Prop :=
  (Token.word name).isReserved = false

instance (name : String) : Decidable (IsFreeName name) :=
  inferInstanceAs (Decidable (_ = _))

/-- One operand, perhaps with a NOT before it: no other word that makes up statements. -/
def IsOperand (ts : List Token) : Prop :=
  ∃ operand, operand ≠ [] ∧ (∀ t ∈ operand, t.isReserved = false) ∧
    (ts = operand ∨ ts = .word "NOT" :: operand)

theorem isReserved_of_mem_numberTokens {value : String} (h : IsNumber value) :
    ∀ t ∈ numberTokens value, t.isReserved = false := by
  have hletters : ∀ keyword ∈ statementWords,
      keyword.toList.head?.all fun c => !c.isDigit && c ≠ '.' := by decide
  intro t ht
  rcases h.tokens.1.sign_or_numeral t ht with ⟨c, -, rfl⟩ | ⟨text, hn, rfl⟩
  · rfl
  · exact isReserved_eq_false.mpr fun keyword hk => hn.not_isKeyword (hletters keyword hk)

theorem quiet_call {name : String} (h : IsFreeName name) {body : List Token}
    (hb : Balanced body) :
    Quiet Token.isReserved (.word name :: .mark '(' :: (body ++ [Token.mark ')'])) :=
  (quiet_parens (by decide) (by decide) hb).cons rfl h

theorem LiteralTest.quiet {subject : String} (h : IsFreeName subject) (test : LiteralTest) :
    Quiet Token.isReserved (test.positive.tokens subject) := by
  have hliteral (l : String) : (Token.literal l).isReserved = false := rfl
  cases test with
  | equal l | like l =>
    refine quiet_of_forall ?_
    simp only [positive, tokens, List.forall_mem_cons]
    exact ⟨h, by decide, by decide, by decide, hliteral l, List.forall_mem_nil _⟩
  | notEqual l =>
    refine quiet_of_forall ?_
    simp only [positive, tokens, List.forall_mem_cons]
    exact ⟨h, by decide, by decide, by decide, by decide, hliteral l, List.forall_mem_nil _⟩
  | matching l | notMatching l =>
    have harguments : Balanced [.word subject, .mark ',', .blank, .literal l] := rfl
    exact quiet_call (by decide) harguments

/-- Outside of parentheses an atom has no words of a statement, apart from a NOT before it. -/
theorem Atom.quiet {a : Atom} (h : a.Clean) (hf : ∀ name ∈ a.column?, IsFreeName name) :
    Quiet Token.isReserved a.positive.tokens := by
  cases a with
  | column name test => exact test.quiet (hf name rfl)
  | param key test =>
    have hexists : IsFreeName "EXISTS" := by decide
    exact quiet_call hexists (contained_paramTokens key test).balanced
  | number name c value =>
    have hc : ∀ t ∈ c.tokens, t.isReserved = false := by cases c <;> decide
    refine quiet_of_forall ?_
    simp only [positive, tokens, List.forall_mem_cons, List.forall_mem_append]
    exact ⟨hf name rfl, by decide, hc, by decide, isReserved_of_mem_numberTokens h.2⟩

theorem Atom.tokens_positive_cons (a : Atom) :
    ∃ name rest, a.positive.tokens = .word name :: rest := by
  match a with
  | column name (.notMatching l) | column name (.equal l) | column name (.notEqual l)
  | column name (.matching l) | column name (.like l) | param _ _ | number _ _ _ =>
    exact ⟨_, _, rfl⟩

theorem Predicate.isOperand {p : Predicate}
    (h : p.Regular fun a => a.Clean ∧ ∀ name ∈ a.column?, IsFreeName name) :
    IsOperand (significant (ownLevel p.tokens)) := by
  cases h with
  | @atom a ha =>
    have hquiet := Atom.quiet ha.1 ha.2
    refine ⟨significant (ownLevel a.positive.tokens), ?_,
      fun t ht => hquiet t (List.mem_of_mem_filter ht), ?_⟩
    · obtain ⟨name, rest, htokens⟩ := a.tokens_positive_cons
      rw [htokens, ownLevel_cons rfl]
      exact List.cons_ne_nil _ _
    · rw [tokens, a.tokens_eq]
      cases a.negated with
      | true => exact .inr rfl
      | false => exact .inl rfl
  | @group k p q ps hm =>
    -- Outside of parentheses a group shows its own ones only.
    have hclean := fun m hm' => Predicate.contained ((hm m hm').mono fun _ ha => ha.1)
    have hmembers := (contained_members k hclean).balanced
    rw [tokens, tokensAll_eq_map, hmembers.ownLevel_parens]
    exact ⟨[.mark '(', .mark ')'], List.cons_ne_nil _ _, by decide, .inl rfl⟩

/-- An operand does not end the conditions. -/
theorem quiet_of_isOperand {ts : List Token} (h : IsOperand (significant (ownLevel ts))) :
    Quiet Token.opensClause ts := by
  obtain ⟨operand, -, hfree, hoperand⟩ := h
  have hwords : ∀ keyword ∈ ["GROUP", "HAVING", "ORDER"], keyword ∈ statementWords := by decide
  have hclause (t : Token) (ht : t.isReserved = false) : t.opensClause = false :=
    List.any_eq_false.mpr fun keyword hk =>
      Bool.not_eq_true _ ▸ isReserved_eq_false.mp ht keyword (hwords keyword hk)
  intro t ht
  by_cases hblank : t = .mark ' '
  · subst hblank
    rfl
  · have hmem : t ∈ significant (ownLevel ts) := List.mem_filter.mpr ⟨ht, by simpa using hblank⟩
    rcases hoperand with hoperand | hoperand <;> rw [hoperand] at hmem
    · exact hclause t (hfree t hmem)
    · rcases List.mem_cons.mp hmem with rfl | hmem
      · decide
      · exact hclause t (hfree t hmem)

/-! ## Columns -/

/-- A name with a point in it has an underscore in its alias; other names are their aliases. -/
theorem aliasOf_spec (name : String) : aliasOf name = name ∨ '_' ∈ (aliasOf name).toList := by
  by_cases hdot : '.' ∈ name.toList
  · refine .inr ?_
    rw [aliasOf, String.toList_ofList, List.mem_flatMap]
    exact ⟨'.', hdot, by simp⟩
  · refine .inl ?_
    have hsame : name.toList.flatMap (fun c => if c = '.' then ['_', '_'] else [c]) =
        name.toList.flatMap fun c => [c] :=
      List.flatMap_congr fun c hc => if_neg (by rintro rfl; exact hdot hc)
    rw [aliasOf, hsame, List.flatMap_singleton', String.ofList_toList]

theorem isFreeName_aliasOf {name : String} (h : IsFreeName name) : IsFreeName (aliasOf name) := by
  rcases aliasOf_spec name with hsame | hunderscore
  · rwa [hsame]
  · have hletters : ∀ keyword ∈ statementWords, '_' ∉ keyword.toList := by decide
    refine isReserved_eq_false.mpr fun keyword hk => decide_eq_false fun heq => ?_
    refine hletters keyword hk ?_
    rw [← heq]
    exact List.mem_map.mpr ⟨'_', hunderscore, by decide⟩

/-- The items of a column have no words of a statement outside of parentheses. -/
structure QuietColumn (c : Column) : Prop where
  inner : Quiet Token.isReserved c.inner.tokens
  outer : Quiet Token.isReserved c.outer.tokens

theorem quiet_named {e : Expr} {name : String} (he : ∀ n ∈ e.column?, IsFreeName n)
    (hn : IsFreeName name) : Quiet Token.isReserved (Item.named e name).tokens :=
  Item.quiet he (by rintro _ ⟨⟩; exact hn)

theorem quiet_bare {name : String} (h : IsFreeName name) :
    Quiet Token.isReserved (Item.bare name).tokens :=
  Item.quiet (by rintro _ ⟨⟩; exact h) nofun

theorem quiet_of_metricColumn {name : String} {c : Column} (h : metricColumn name = .ok c) :
    QuietColumn c := by
  unfold metricColumn at h
  split at h
  · rename_i key _
    obtain rfl := pure_eq_ok.mp h
    cases key with
    | users => exact ⟨quiet_bare (by decide), quiet_named nofun (by decide)⟩
    | events | revenue | sessions =>
      exact ⟨quiet_named nofun (by decide), quiet_named nofun (by decide)⟩
  · cases h

theorem quiet_of_dimensionColumn {custom : Bool} {name : String} {c : Column}
    (hn : IsFreeName name) (h : dimensionColumn .escaped custom name = .ok c) :
    QuietColumn c := by
  obtain ⟨shown, hshown, h⟩ := bind_eq_ok.mp h
  obtain ⟨e, he, h⟩ := bind_eq_ok.mp h
  obtain rfl := pure_eq_ok.mp h
  obtain ⟨rfl, -⟩ := identifier_eq_ok hshown
  refine ⟨quiet_named ?_ (isFreeName_aliasOf hn), quiet_bare (isFreeName_aliasOf hn)⟩
  unfold dimensionExpr at he
  split at he
  · obtain rfl := pure_eq_ok.mp he
    exact nofun
  · split at he
    · obtain rfl := pure_eq_ok.mp he
      exact nofun
    · obtain ⟨column, hcolumn, he⟩ := bind_eq_ok.mp he
      obtain rfl := pure_eq_ok.mp he
      obtain ⟨rfl, -⟩ := identifier_eq_ok hcolumn
      rintro _ ⟨⟩
      exact hn

/-! ## Statements -/

namespace Report

theorem contained_words (words : List String) :
    ∀ part ∈ words.map ([Token.word ·]), Contained [] part := by
  intro part hpart
  obtain ⟨word, -, rfl⟩ := List.mem_map.mp hpart
  exact contained_of_all rfl

theorem contained_conditions {r : Report} (h : r.Clean) :
    ∀ part ∈ r.innerTokens.conditions, Contained [] part := by
  intro part hpart
  rcases List.mem_cons.mp hpart with rfl | hpart
  · exact contained_of_all rfl
  · obtain ⟨p, hp, rfl⟩ := List.mem_map.mp hpart
    exact Predicate.contained (h.eventFilter p (Option.mem_toList.mp hp))

theorem inner_contained {r : Report} (h : r.Clean) :
    Contained [.name ("`" ++ r.tables ++ "`")] r.innerTokens.tokens := by
  refine SelectTokens.contained (contained_name _) ?_ (contained_conditions h)
    (contained_words _) nofun nofun
  intro part hpart
  obtain ⟨c, -, rfl⟩ := List.mem_map.mp hpart
  exact c.inner.contained

/-- Everything before the semicolon is contained. -/
theorem outer_contained {r : Report} (h : r.Clean) :
    Contained [.name ("`" ++ r.tables ++ "`")] r.outerTokens.tokens := by
  refine SelectTokens.contained (inner_contained h).parens ?_ nofun (contained_words _) ?_ ?_
  · intro part hpart
    obtain ⟨c, -, rfl⟩ := List.mem_map.mp hpart
    exact c.outer.contained
  · intro part hpart
    obtain ⟨p, hp, rfl⟩ := Option.map_eq_some_iff.mp (Option.mem_toList.mp hpart)
    exact Predicate.contained (h.rowFilter p hp)
  · intro part hpart
    obtain ⟨t, -, rfl⟩ := List.mem_map.mp hpart
    exact contained_of_all rfl

end Report

/-- The tokens are one statement that reads from the tables of `table` and has no comments. -/
structure IsOneStatement (table : EventTable) (ts : List Token) : Prop where
  balanced : Balanced ts
  names : ts.filter Token.isName =
    [.name ("`" ++ (table.project ++ "." ++ table.dataset ++ "." ++ table.table ++ "_*") ++ "`")]
  semicolon : ∃ body, ts = body ++ [.mark ';'] ∧ .mark ';' ∉ body
  noDashes : ¬ [.mark '-', .mark '-'] <:+: ts
  noHash : .mark '#' ∉ ts
  noSlashStar : ¬ [.mark '/', .mark '*'] <:+: ts

theorem isOneStatement_of_contained {table : EventTable} {body : List Token}
    (h : Contained [.name ("`" ++ (table.project ++ "." ++ table.dataset ++ "." ++ table.table ++
      "_*") ++ "`")] body) : IsOneStatement table (body ++ [.mark ';']) := by
  have hmark {c : Char} (hc : (Token.mark c).isBreaking) (hne : c ≠ ';') :
      .mark c ∉ body ++ [.mark ';'] := by
    intro hmem
    rcases List.mem_append.mp hmem with hmem | hmem
    · simp [h.unbroken _ hmem] at hc
    · simp [hne] at hmem
  refine ⟨h.balanced.append rfl, by rw [List.filter_append, h.names]; rfl, ⟨body, rfl, ?_⟩, ?_,
    hmark rfl (by decide), ?_⟩
  · intro hmem
    have := h.unbroken _ hmem
    simp [Token.isBreaking] at this
  · intro hpart
    have hchain : (body ++ [Token.mark ';']).IsChain fun a b =>
        ¬ (a = .mark '-' ∧ b = .mark '-') :=
      List.isChain_append.mpr ⟨h.dashes, List.isChain_singleton _, by simp⟩
    simpa using List.IsChain.infix hchain hpart
  · intro hpart
    have hslash : .mark '/' ∈ [Token.mark '/', Token.mark '*'] := List.mem_cons_self
    exact hmark rfl (by decide) (hpart.subset hslash)

/-- The names of columns that a request gives: of dimensions, in conditions and to order by. -/
def Request.names (r : Request) : List String :=
  r.dimensions.map (·.apiName) ++
    (r.dimensionFilter.toList ++ r.metricFilter.toList).flatMap
      (fun f => f.leaves.filterMap Condition.column?) ++
    r.order.map (·.field)

theorem quiet_columns {options : CompileOptions} (hq : options.quoting = .escaped)
    {table : EventTable} {req : Request} (hn : ∀ name ∈ req.names, IsFreeName name) {r : Report}
    (h : r.Resolves options table req) : ∀ c ∈ r.columns, QuietColumn c := by
  intro c hc
  rcases List.mem_append.mp hc with hc | hc
  · obtain ⟨d, hd, hdc⟩ := exists_of_mem_right h.dimensions c hc
    have hname : d.apiName ∈ req.names :=
      List.mem_append_left _ (List.mem_append_left _ (List.mem_map_of_mem hd))
    exact quiet_of_dimensionColumn (hn _ hname) (hq ▸ hdc)
  · obtain ⟨m, -, hm⟩ := exists_of_mem_right h.metrics c hc
    exact quiet_of_metricColumn hm

theorem isOperand_eventFilter {options : CompileOptions} (hq : options.quoting = .escaped)
    {req : Request} (hn : ∀ name ∈ req.names, IsFreeName name) {part : Option Predicate}
    (h : compileFilter options req.dimensionFilter = .ok part) :
    ∀ p ∈ part, p.Regular fun a => a.Clean ∧ ∀ name ∈ a.column?, IsFreeName name := by
  rintro p rfl
  cases hf : req.dimensionFilter with
  | none => rw [hf] at h; cases h
  | some f =>
    rw [hf] at h
    refine (Filter.regular_of_compileAt h).mono fun a ⟨c, hc, ha⟩ => ?_
    rw [hq] at ha
    refine ⟨Condition.clean_of_compile ha, fun name hname => hn name ?_⟩
    rw [Condition.column?_of_compile ha] at hname
    refine List.mem_append_left _ (List.mem_append_right _ ?_)
    refine List.mem_flatMap.mpr ⟨f, ?_, List.mem_filterMap.mpr ⟨c, hc, hname⟩⟩
    rw [hf]
    exact List.mem_cons_self

/-- The conditions of the inner stage are found in the statement. -/
theorem Report.whereClause?_inner {r : Report} (h : r.Clean)
    (hquiet : ∀ c ∈ r.columns, QuietColumn c)
    (hfilter : ∀ p ∈ r.eventFilter, Quiet Token.opensClause p.tokens) :
    innerSelect? r.tokens = some r.innerTokens.tokens ∧
      ∃ w, whereClause? r.innerTokens.tokens = some w ∧
        significant (ownLevel w) = significant (ownLevel
          (joinTokens SelectTokens.conjunction r.innerTokens.conditions)) := by
  constructor
  · refine SelectTokens.innerSelect?_eq ?_ ?_ rfl (inner_contained h).balanced _
    · intro part hpart
      obtain ⟨c, -, rfl⟩ := List.mem_map.mp hpart
      exact c.outer.contained.balanced
    · intro part hpart
      obtain ⟨c, hc, rfl⟩ := List.mem_map.mp hpart
      exact (hquiet c hc).outer
  · refine SelectTokens.whereClause?_eq ?_ ?_ rfl (List.cons_ne_nil _ _)
      (fun part hpart => (contained_conditions h part hpart).balanced) ?_
    · intro part hpart
      obtain ⟨c, -, rfl⟩ := List.mem_map.mp hpart
      exact c.inner.contained.balanced
    · intro part hpart
      obtain ⟨c, hc, rfl⟩ := List.mem_map.mp hpart
      exact (hquiet c hc).inner
    · intro part hpart
      rcases List.mem_cons.mp hpart with rfl | hpart
      · exact quiet_of_forall (by
          simp only [Calendar.DayRange.suffixTokens, List.forall_mem_cons]
          exact ⟨by decide, by decide, by decide, by decide, rfl, by decide, by decide, by decide,
            rfl, List.forall_mem_nil _⟩)
      · obtain ⟨p, hp, rfl⟩ := List.mem_map.mp hpart
        exact hfilter p (Option.mem_toList.mp hp)

/-- **No text of a request leaves its place.** The tokens of the statement are one statement that
reads from the tables, and the conditions of its inner SELECT are the range of the days, followed by
one operand if something is left of the filter on events. -/
theorem compile_contained {options : CompileOptions} {table : EventTable} {req : Request}
    {sql : String} (hq : options.quoting = .escaped) (hn : ∀ name ∈ req.names, IsFreeName name)
    (h : compile options table req = .ok sql) :
    ∃ ts inner conditions part, tokens? true sql = some ts ∧ IsOneStatement table ts ∧
      innerSelect? ts = some inner ∧ whereClause? inner = some conditions ∧
      compileFilter options req.dimensionFilter = .ok part ∧
      significant (ownLevel conditions) =
        [.word "_TABLE_SUFFIX", .word "BETWEEN", req.range.first.literal, .word "AND",
            req.range.last.literal] ++
          part.toList.flatMap (fun p => .word "AND" :: significant (ownLevel p.tokens)) ∧
      ∀ p ∈ part, tokens? true p.render = some p.tokens ∧
        IsOperand (significant (ownLevel p.tokens)) := by
  obtain ⟨r, hr, rfl⟩ := map_eq_ok.mp h
  have hclean := Report.clean_of_request hq hr
  have hresolved := Report.resolves_of_ofRequest hr
  have hregular := isOperand_eventFilter hq hn hresolved.eventFilter
  have htables := (EventTable.resolve_eq_ok (hq ▸ hresolved.tables)).1
  have hone := isOneStatement_of_contained (htables ▸ Report.outer_contained hclean)
  obtain ⟨hinner, w, hw, hconditions⟩ := Report.whereClause?_inner hclean
    (quiet_columns hq hn hresolved)
    fun p hp => quiet_of_isOperand (Predicate.isOperand (hregular p hp))
  refine ⟨r.tokens, r.innerTokens.tokens, w, r.eventFilter,
    tokens?_of_spells (Report.spells hclean), hone, hinner, hw, hresolved.eventFilter, ?_,
    fun p hp => ⟨?_, Predicate.isOperand (hregular p hp)⟩⟩
  · rw [hconditions, Report.innerTokens, hresolved.range]
    cases r.eventFilter with
    | none => rfl
    | some p =>
      have hrange : Balanced (req.range.suffixTokens ++ SelectTokens.conjunction) := rfl
      show significant (ownLevel
        (req.range.suffixTokens ++ SelectTokens.conjunction ++ p.tokens)) = _
      rw [hrange.ownLevel_append, significant_append, Option.toList_some, List.flatMap_singleton]
      rfl
  · exact tokens?_of_spells (Predicate.spells ((hregular p hp).mono fun _ ha => ha.1))

/-- A table whose names have all characters that names of tables may have. -/
def sampleTable : EventTable := ⟨"my-project", "analytics_1", "events"⟩

/-- A request with texts that would break out of a statement that does not escape them. -/
def hostileRequest : Request where
  range := .single ⟨2024, 1, 31, by decide⟩
  dimensions := [{ apiName := "geo.country" }, { custom := true, apiName := "plan" }]
  metrics := [{ apiName := "users" }]
  dimensionFilter := some (.node .or
    [.leaf ⟨"it's) --", true, .text ⟨.contains, "\\' OR '1'='1", false⟩⟩,
      .leaf ⟨"page", false, .text ⟨.notRegexp, "'; DROP TABLE x; /*", false⟩⟩])
  order := [{ field := "users", descending := true }]

theorem compile_contained_hostile :
    ∃ sql ts inner conditions part,
      compile { quoting := .escaped } sampleTable hostileRequest = .ok sql ∧
      tokens? true sql = some ts ∧ IsOneStatement sampleTable ts ∧
      innerSelect? ts = some inner ∧ whereClause? inner = some conditions ∧
      compileFilter { quoting := .escaped } hostileRequest.dimensionFilter = .ok part ∧
      significant (ownLevel conditions) =
        [.word "_TABLE_SUFFIX", .word "BETWEEN", hostileRequest.range.first.literal, .word "AND",
            hostileRequest.range.last.literal] ++
          part.toList.flatMap (fun p => .word "AND" :: significant (ownLevel p.tokens)) ∧
      ∀ p ∈ part, tokens? true p.render = some p.tokens ∧
        IsOperand (significant (ownLevel p.tokens)) := by
  have hnames : ∀ name ∈ hostileRequest.names, IsFreeName name := by decide
  obtain ⟨sql, h⟩ : ∃ sql, compile { quoting := .escaped } sampleTable hostileRequest = .ok sql :=
    ⟨_, rfl⟩
  obtain ⟨ts, inner, conditions, part, hall⟩ := compile_contained rfl hnames h
  exact ⟨sql, ts, inner, conditions, part, h, hall⟩

end EventReport
