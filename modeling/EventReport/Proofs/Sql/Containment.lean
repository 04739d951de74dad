import EventReport.Proofs.Sql.Statement

/-! # What stays in its place

`Contained names ts` says that tokens close the parentheses that they open, end no statement, begin
no comment, and have exactly the names `names` between backticks. Tokens that are put together of
contained ones are contained, a whole SELECT as well (`SelectTokens.contained`).

`whereClause?` finds the conditions of a SELECT by its words alone, and `innerSelect?` the SELECT
that another one reads from. Both find what was put there if the columns are `Quiet`: if no word of
the statement stands among them outside of parentheses (`SelectTokens.innerSelect?_eq`,
`SelectTokens.whereClause?_eq`). -/

set_option autoImplicit false

namespace EventReport.Sql

/-! ## Contained tokens -/

def Token.isName : Token → Bool
  | name _ => true
  | _ => false

/-- The token ends a statement, or it can begin a comment whatever comes after it. -/
def Token.isBreaking (t : Token) : Bool :=
  t = .mark ';' || t = .mark '#' || t = .mark '/'

/-- The token is neither a parenthesis nor a name, and has no part in a comment. -/
def Token.isInner (t : Token) : Bool :=
  t.isFlat && !t.isName && !t.isBreaking && t ≠ .mark '-'

/-- The tokens close what they open, end no statement, begin no comment, and have the given names
between backticks. A dash does not come first, so that none before it makes them a comment. -/
structure Contained (names ts : List Token) : Prop where
  balanced : Balanced ts
  names : ts.filter Token.isName = names
  unbroken : ∀ t ∈ ts, t.isBreaking = false
  dashes : ts.IsChain fun a b => ¬ (a = .mark '-' ∧ b = .mark '-')
  head : ∀ t ∈ ts.head?, t ≠ .mark '-'

theorem contained_nil : Contained [] [] :=
  ⟨rfl, rfl, List.forall_mem_nil _, List.isChain_nil, nofun⟩

theorem Contained.append {n m a b : List Token} (ha : Contained n a) (hb : Contained m b) :
    Contained (n ++ m) (a ++ b) := by
  -- No comment begins at the seam, because `b` does not begin with a dash.
  refine ⟨ha.balanced.append hb.balanced, by rw [List.filter_append, ha.names, hb.names],
    List.forall_mem_append.mpr ⟨ha.unbroken, hb.unbroken⟩,
    List.isChain_append.mpr ⟨ha.dashes, hb.dashes, fun _ _ u hu h => hb.head u hu h.2⟩, ?_⟩
  intro t ht
  cases a with
  | nil => exact hb.head t ht
  | cons u us => exact ha.head t ht

theorem Contained.cons {n ts : List Token} {t : Token} (ht : t.isInner) (h : Contained n ts) :
    Contained n (t :: ts) := by
  simp only [Token.isInner, Bool.and_eq_true, Bool.not_eq_true', decide_eq_true_eq] at ht
  obtain ⟨⟨⟨hflat, hname⟩, hbreaking⟩, hdash⟩ := ht
  refine ⟨h.balanced.cons hflat, by rw [List.filter_cons_of_neg (by simp [hname]), h.names],
    List.forall_mem_cons.mpr ⟨hbreaking, h.unbroken⟩,
    List.isChain_cons.mpr ⟨fun _ _ hd => hdash hd.1, h.dashes⟩, ?_⟩
  rintro _ ⟨⟩
  exact hdash

theorem contained_of_all {ts : List Token} (h : ts.all Token.isInner) : Contained [] ts := by
  induction ts with
  | nil => exact contained_nil
  | cons t ts ih =>
    rw [List.all_cons, Bool.and_eq_true] at h
    exact (ih h.2).cons h.1

theorem contained_name (text : String) : Contained [.name text] [.name text] :=
  ⟨rfl, rfl, by simp [Token.isBreaking], List.isChain_singleton _, by simp⟩

theorem Contained.parens {n ts : List Token} (h : Contained n ts) :
    Contained n (.mark '(' :: (ts ++ [Token.mark ')'])) := by
  have hnames : (Token.mark '(' :: (ts ++ [Token.mark ')'])).filter Token.isName = n := by
    rw [List.filter_cons_of_neg (by simp [Token.isName]), List.filter_append, h.names]
    simp [Token.isName]
  refine ⟨h.balanced.parens, hnames, ?_, ?_, by rintro _ ⟨⟩; simp⟩
  · simp only [List.forall_mem_cons, List.forall_mem_append]
    exact ⟨rfl, h.unbroken, rfl, nofun⟩
  · refine List.isChain_cons.mpr ⟨by simp, List.isChain_append.mpr
      ⟨h.dashes, List.isChain_singleton _, ?_⟩⟩
    simp

theorem contained_joinTokens {sep : List Token} (hsep : Contained [] sep) :
    ∀ {parts : List (List Token)}, (∀ part ∈ parts, Contained [] part) →
      Contained [] (joinTokens sep parts)
  | [], _ => contained_nil
  | [part], h => h part (List.mem_singleton_self _)
  | part :: _ :: _, h =>
    ((h part List.mem_cons_self).append hsep).append
      (contained_joinTokens hsep fun p hp => h p (List.mem_cons_of_mem _ hp))

/-- A sign has its place behind a token that is no dash. -/
theorem Contained.sign {n ts : List Token} {c : Char} {t : Token} (ht : t.isInner)
    (hc : IsSign c) (h : Contained n ts) : Contained n (t :: .mark c :: ts) := by
  have hflat : (Token.mark c).isFlat := by rcases hc with rfl | rfl <;> rfl
  have hbreaking : (Token.mark c).isBreaking = false := by rcases hc with rfl | rfl <;> rfl
  simp only [Token.isInner, Bool.and_eq_true, Bool.not_eq_true', decide_eq_true_eq] at ht
  obtain ⟨⟨⟨htflat, hname⟩, htbreaking⟩, hdash⟩ := ht
  refine ⟨(h.balanced.cons hflat).cons htflat, ?_,
    List.forall_mem_cons.mpr ⟨htbreaking, List.forall_mem_cons.mpr ⟨hbreaking, h.unbroken⟩⟩,
    List.isChain_cons_cons.mpr ⟨fun hd => hdash hd.1, List.isChain_cons.mpr
      ⟨fun u hu hd => h.head u hu hd.2, h.dashes⟩⟩, ?_⟩
  · rw [List.filter_cons_of_neg (by simp [hname]), List.filter_cons_of_neg (by simp [Token.isName]),
      h.names]
  · rintro _ ⟨⟩
    exact hdash

/-- The tokens of a number have their place after a blank. -/
theorem contained_numberTokens {value : String} (h : IsNumber value) :
    Contained [] (.blank :: numberTokens value) := by
  have unsigned : ∀ {ts : List Token}, UnsignedTokens ts → Contained [] ts := by
    intro ts hts
    cases hts with
    | plain => exact contained_of_all rfl
    | exponent _ hc _ => exact (contained_of_all rfl).sign rfl hc
  have hnumber := h.tokens.1
  generalize numberTokens value = ts at hnumber ⊢
  cases hnumber with
  | unsigned hts => exact (unsigned hts).cons rfl
  | signed hc hts => exact (unsigned hts).sign rfl hc

/-! ## Quiet tokens -/

/-- The words that make up statements. -/
def statementWords : List String :=
  ["SELECT", "FROM", "WHERE", "AND", "OR", "NOT", "GROUP", "HAVING", "ORDER", "BY", "BETWEEN"]

/-- The token is one of the words that make up statements, in capitals or not. -/
def Token.isReserved (t : Token) : Bool :=
  statementWords.any t.isKeyword

theorem isReserved_eq_false {t : Token} :
    t.isReserved = false ↔ ∀ keyword ∈ statementWords, t.isKeyword keyword = false := by
  simp only [Token.isReserved, List.any_eq_false, Bool.not_eq_true]

/-- No token outside of parentheses passes the test. -/
def Quiet (p : Token → Bool) (ts : List Token) : Prop :=
  ∀ t ∈ ownLevel ts, p t = false

variable {p : Token → Bool}

theorem Quiet.append {a b : List Token} (hb : Balanced a) (ha : Quiet p a) (h : Quiet p b) :
    Quiet p (a ++ b) := by
  rw [Quiet, hb.ownLevel_append]
  exact List.forall_mem_append.mpr ⟨ha, h⟩

theorem Quiet.cons {t : Token} {ts : List Token} (hf : t.isFlat) (ht : p t = false)
    (h : Quiet p ts) : Quiet p (t :: ts) := by
  rw [Quiet, ownLevel_cons hf]
  exact List.forall_mem_cons.mpr ⟨ht, h⟩

theorem quiet_of_forall {ts : List Token} (h : ∀ t ∈ ts, p t = false) : Quiet p ts :=
  fun t ht => h t (mem_of_mem_ownFrom ht)

theorem Quiet.mono {q : Token → Bool} {ts : List Token} (h : ∀ t, q t = false → p t = false)
    (hts : Quiet q ts) : Quiet p ts :=
  fun t ht => h t (hts t ht)

/-- What stands in parentheses does not matter. -/
theorem quiet_parens {ts : List Token} (hopen : p (.mark '(') = false)
    (hclose : p (.mark ')') = false) (h : Balanced ts) :
    Quiet p (.mark '(' :: (ts ++ [Token.mark ')'])) := by
  rw [Quiet, h.ownLevel_parens]
  simp only [List.forall_mem_cons]
  exact ⟨hopen, hclose, nofun⟩

theorem quiet_joinTokens {sep : List Token} (hs : Balanced sep) (hsep : Quiet p sep) :
    ∀ {parts : List (List Token)}, (∀ part ∈ parts, Balanced part) →
      (∀ part ∈ parts, Quiet p part) → Quiet p (joinTokens sep parts)
  | [], _, _ => nofun
  | [part], _, h => h part (List.mem_singleton_self _)
  | part :: _ :: _, hb, h =>
    .append ((hb part List.mem_cons_self).append hs)
      (.append (hb part List.mem_cons_self) (h part List.mem_cons_self) hsep)
      (quiet_joinTokens hs hsep (fun p hp => hb p (List.mem_cons_of_mem _ hp))
        fun p hp => h p (List.mem_cons_of_mem _ hp))

theorem Quiet.splitOwn_append {a : List Token} (hb : Balanced a) (h : Quiet p a)
    (b : List Token) : splitOwn p (a ++ b) = (a ++ (splitOwn p b).1, (splitOwn p b).2) :=
  hb.splitOwn_append (fun t ht _ => h t ht) b

/-! ## Clauses -/

/-- The tokens after the first `keyword` outside of parentheses. -/
def afterKeyword? (keyword : String) (ts : List Token) : Option (List Token) :=
  match (splitOwn (·.isKeyword keyword) ts).2 with
  | [] => none
  | _ :: rest => some rest

/-- The token begins a clause behind the conditions. -/
def Token.opensClause (t : Token) : Bool :=
  ["GROUP", "HAVING", "ORDER"].any t.isKeyword

/-- The conditions of a SELECT: the tokens after WHERE up to the next clause. -/
def whereClause? (ts : List Token) : Option (List Token) :=
  (afterKeyword? "WHERE" ts).map fun rest => (splitOwn Token.opensClause rest).1

/-- The SELECT in parentheses that another SELECT reads from. -/
def innerSelect? (ts : List Token) : Option (List Token) := do
  let source ← afterKeyword? "FROM" ts
  match source.dropWhile (· = .blank) with
  | .mark '(' :: rest => some (splitOwn (· = .mark ')') rest).1
  | _ => none

theorem afterKeyword?_append {keyword : String} {a rest : List Token} {t : Token}
    (hb : Balanced a) (ha : Quiet (·.isKeyword keyword) a) (ht : t.isKeyword keyword) :
    afterKeyword? keyword (a ++ t :: rest) = some rest := by
  rw [afterKeyword?, ha.splitOwn_append hb, splitOwn_stop ht]

namespace SelectTokens

theorem balanced_columnTokens {s : SelectTokens} (h : ∀ part ∈ s.columns, Balanced part) :
    Balanced s.columnTokens := by
  have hcomma : Balanced comma := rfl
  unfold columnTokens
  split
  · rfl
  · exact balanced_joinTokens hcomma h

theorem quiet_columnTokens {s : SelectTokens} (hb : ∀ part ∈ s.columns, Balanced part)
    (h : ∀ part ∈ s.columns, Quiet Token.isReserved part) :
    Quiet Token.isReserved s.columnTokens := by
  have hcomma : Balanced comma := rfl
  unfold columnTokens
  split
  · exact quiet_of_forall (by decide)
  · exact quiet_joinTokens hcomma (quiet_of_forall (by decide)) hb h

/-- The tokens before FROM. -/
def head (s : SelectTokens) : List Token :=
  .word "SELECT" :: .blank :: (s.columnTokens ++ [Token.blank])

theorem balanced_head {s : SelectTokens} (h : ∀ part ∈ s.columns, Balanced part) :
    Balanced s.head :=
  .cons rfl (.cons rfl (.append (balanced_columnTokens h) rfl))

/-- The words before FROM are quiet, apart from SELECT. -/
theorem quiet_head {s : SelectTokens} (hb : ∀ part ∈ s.columns, Balanced part)
    (h : ∀ part ∈ s.columns, Quiet Token.isReserved part) {keyword : String}
    (hk : keyword ∈ statementWords) (hs : (Token.word "SELECT").isKeyword keyword = false) :
    Quiet (·.isKeyword keyword) s.head := by
  have hcolumns : Quiet (·.isKeyword keyword) s.columnTokens :=
    (quiet_columnTokens hb h).mono fun t ht => isReserved_eq_false.mp ht keyword hk
  have hblank : Quiet (·.isKeyword keyword) [.blank] := quiet_of_forall (by simp [Token.isKeyword])
  exact .cons rfl hs (.cons rfl rfl (.append (balanced_columnTokens hb) hcolumns hblank))

theorem innerSelect?_eq {s : SelectTokens} (hb : ∀ part ∈ s.columns, Balanced part)
    (h : ∀ part ∈ s.columns, Quiet Token.isReserved part) {inner : List Token}
    (hs : s.source = .mark '(' :: (inner ++ [.mark ')'])) (hinner : Balanced inner)
    (rest : List Token) : innerSelect? (s.tokens ++ rest) = some inner := by
  have hsplit : s.tokens ++ rest = s.head ++
      Token.word "FROM" :: .blank :: .mark '(' :: (inner ++ Token.mark ')' ::
        (clauseTokens [.word "WHERE"] conjunction s.conditions ++ s.tail ++ rest)) := by
    simp [tokens, head, hs]
  have hfrom : (Token.word "FROM").isKeyword "FROM" := by decide
  have hclose (b : List Token) :
      splitOwn (· = .mark ')') (inner ++ Token.mark ')' :: b) = (inner, .mark ')' :: b) := by
    rw [hinner.splitOwn_append (by simp), splitOwn_stop (by simp), List.append_nil]
  rw [hsplit, innerSelect?, afterKeyword?_append (balanced_head hb)
    (quiet_head hb h (by decide) (by decide)) hfrom]
  simp [hclose]

/-- Behind the conditions there is another clause after a blank, or nothing. -/
theorem splitOwn_tail (s : SelectTokens) :
    (splitOwn Token.opensClause s.tail).1 = [] ∨
      (splitOwn Token.opensClause s.tail).1 = [.blank] := by
  have hblank {t : Token} (ht : t.opensClause) (rest : List Token) :
      (splitOwn Token.opensClause (.blank :: t :: rest)).1 = [.blank] := by
    have hb : Balanced [.blank] := rfl
    have hq : Quiet Token.opensClause [.blank] := quiet_of_forall (by decide)
    have := hq.splitOwn_append hb (t :: rest)
    rw [splitOwn_stop ht, List.append_nil] at this
    exact congrArg Prod.fst this
  have hgroup : (Token.word "GROUP").opensClause := by decide
  have hhaving : (Token.word "HAVING").opensClause := by decide
  have horder : (Token.word "ORDER").opensClause := by decide
  unfold tail clauseTokens
  by_cases hg : s.groups = []
  · by_cases hh : s.having.toList = []
    · by_cases ho : s.order = []
      · rw [if_pos hg, if_pos hh, if_pos ho]
        exact .inl rfl
      · rw [if_pos hg, if_pos hh, if_neg ho]
        exact .inr (hblank horder _)
    · rw [if_pos hg, if_neg hh]
      exact .inr (hblank hhaving _)
  · rw [if_neg hg]
    exact .inr (hblank hgroup _)

theorem whereClause?_eq {s : SelectTokens} (hb : ∀ part ∈ s.columns, Balanced part)
    (h : ∀ part ∈ s.columns, Quiet Token.isReserved part) {name : String}
    (hs : s.source = [.name name]) (hne : s.conditions ≠ [])
    (hcb : ∀ part ∈ s.conditions, Balanced part)
    (hc : ∀ part ∈ s.conditions, Quiet Token.opensClause part) :
    ∃ w, whereClause? s.tokens = some w ∧ significant (ownLevel w) =
      significant (ownLevel (joinTokens conjunction s.conditions)) := by
  have hsplit : s.tokens = (s.head ++ [Token.word "FROM", .blank, .name name, .blank]) ++
      Token.word "WHERE" ::
        ((Token.blank :: joinTokens conjunction s.conditions) ++ s.tail) := by
    simp [tokens, head, hs, clauseTokens, hne]
  have hbefore := balanced_head hb
  have hfrom : Balanced [.word "FROM", .blank, .name name, .blank] := rfl
  have hquietFrom : Quiet (·.isKeyword "WHERE") [.word "FROM", .blank, .name name, .blank] :=
    quiet_of_forall (by simp [Token.isKeyword])
  have hquiet := (quiet_head hb h (by decide) (by decide)).append hbefore hquietFrom
  have hwhere : (Token.word "WHERE").isKeyword "WHERE" := by decide
  have hconj : Balanced conjunction := rfl
  have hconditions : Balanced (.blank :: joinTokens conjunction s.conditions) :=
    (balanced_joinTokens hconj hcb).cons rfl
  have hclause : Quiet Token.opensClause (.blank :: joinTokens conjunction s.conditions) :=
    (quiet_joinTokens hconj (quiet_of_forall (by decide)) hcb hc).cons rfl (by decide)
  rw [hsplit, whereClause?, afterKeyword?_append (hbefore.append hfrom) hquiet hwhere,
    Option.map_some, hclause.splitOwn_append hconditions]
  refine ⟨_, rfl, ?_⟩
  rw [hconditions.ownLevel_append, ownLevel_cons rfl, significant_append]
  rcases splitOwn_tail s with htail | htail <;> rw [htail] <;> exact List.append_nil _

theorem contained_clause {kts sep : List Token} (hk : kts.all Token.isInner)
    (hsep : Contained [] sep) {parts : List (List Token)}
    (h : ∀ part ∈ parts, Contained [] part) : Contained [] (clauseTokens kts sep parts) := by
  unfold clauseTokens
  split
  · exact contained_nil
  · have hblank : Contained [] [.blank] := contained_of_all rfl
    exact (((contained_of_all hk).append hblank).append (contained_joinTokens hsep h)).cons rfl

/-- A SELECT has the names of its source between backticks if its other parts have none. -/
theorem contained {s : SelectTokens} {names : List Token} (hsource : Contained names s.source)
    (hcolumns : ∀ part ∈ s.columns, Contained [] part)
    (hconditions : ∀ part ∈ s.conditions, Contained [] part)
    (hgroups : ∀ part ∈ s.groups, Contained [] part)
    (hhaving : ∀ part ∈ s.having.toList, Contained [] part)
    (horder : ∀ part ∈ s.order, Contained [] part) : Contained names s.tokens := by
  have hcomma : Contained [] comma := contained_of_all rfl
  have hconj : Contained [] conjunction := contained_of_all rfl
  have hcol : Contained [] s.columnTokens := by
    unfold columnTokens
    split
    · exact contained_of_all rfl
    · exact contained_joinTokens hcomma hcolumns
  have hselect : Contained [] [.word "SELECT", .blank] := contained_of_all rfl
  have hfrom : Contained [] [.blank, .word "FROM", .blank] := contained_of_all rfl
  have htail : Contained [] s.tail :=
    ((contained_clause rfl hcomma hgroups).append (contained_clause rfl hcomma hhaving)).append
      (contained_clause rfl hcomma horder)
  have hwhere : Contained [] (clauseTokens [.word "WHERE"] conjunction s.conditions) :=
    contained_clause rfl hconj hconditions
  have hall := ((((hselect.append hcol).append hfrom).append hsource).append hwhere).append htail
  rwa [List.nil_append, List.nil_append, List.nil_append, List.append_nil, List.append_nil] at hall

end SelectTokens

/-! ## Items -/

theorem contained_keyTokens (shown : String) : Contained [] (keyTokens shown) := by
  have hopen : Contained [] [.word "SELECT", .blank, .word shown, .blank, .word "FROM", .blank,
      .word "UNNEST"] := contained_of_all rfl
  have htable : Contained [] [.word "event_params"] := contained_of_all rfl
  have hkey : Contained [] [.blank, .word "WHERE", .blank, .word "key", .blank, .mark '=',
      .blank] := contained_of_all rfl
  exact (hopen.append htable.parens).append hkey

theorem Expr.contained (e : Expr) : Contained [] e.tokens := by
  cases e with
  | column name => exact contained_of_all rfl
  | param key =>
    have hkey : Contained [] [.literal key] := contained_of_all rfl
    exact ((contained_keyTokens _).append hkey).parens
  | eventDay =>
    have harguments : Contained [] [.literal "'%Y%m%d'", .mark ',', .blank, .word "event_date"] :=
      contained_of_all rfl
    exact harguments.parens.cons rfl
  | sessionKey =>
    have hkey : Contained [] [.literal "'ga_session_id'"] := contained_of_all rfl
    have hcast : Contained [] [.blank, .word "AS", .blank, .word "STRING"] := contained_of_all rfl
    have huser : Contained [] [.word "user_pseudo_id", .mark ',', .blank, .word "CAST"] :=
      contained_of_all rfl
    have hlookup := ((contained_keyTokens "value.int_value").append hkey).parens
    exact (huser.append (hlookup.append hcast).parens).parens.cons rfl
  | sum name | count name =>
    have hname : Contained [] [.word name] := contained_of_all rfl
    exact hname.parens.cons rfl
  | countDistinct name =>
    have hname : Contained [] [.word "DISTINCT", .blank, .word name] := contained_of_all rfl
    exact hname.parens.cons rfl

theorem Item.contained (item : Item) : Contained [] item.tokens := by
  obtain ⟨expr, name?⟩ := item
  cases name? with
  | none => exact expr.contained
  | some name =>
    have has : Contained [] [.blank, .word "AS", .blank, .word name] := contained_of_all rfl
    exact expr.contained.append has

/-- The column that the expression is, if it is one. -/
def Expr.column? : Expr → Option String
  | column name => some name
  | _ => none

theorem Expr.quiet {e : Expr} (h : ∀ name ∈ e.column?, (Token.word name).isReserved = false) :
    Quiet Token.isReserved e.tokens := by
  have hopen : (Token.mark '(').isReserved = false := by decide
  have hclose : (Token.mark ')').isReserved = false := by decide
  cases e with
  | column name => exact quiet_of_forall (List.forall_mem_singleton.mpr (h name rfl))
  | param key =>
    have hkey : Balanced [.literal key] := rfl
    exact quiet_parens hopen hclose ((contained_keyTokens _).balanced.append hkey)
  | eventDay | sessionKey =>
    refine (quiet_parens hopen hclose ?_).cons rfl (by decide)
    rfl
  | sum name | count name =>
    have hname : Balanced [.word name] := rfl
    exact (quiet_parens hopen hclose hname).cons rfl (by decide)
  | countDistinct name =>
    have hname : Balanced [.word "DISTINCT", .blank, .word name] := rfl
    exact (quiet_parens hopen hclose hname).cons rfl (by decide)

theorem Item.quiet {item : Item}
    (he : ∀ name ∈ item.expr.column?, (Token.word name).isReserved = false)
    (hn : ∀ name ∈ item.name?, (Token.word name).isReserved = false) :
    Quiet Token.isReserved item.tokens := by
  obtain ⟨expr, name?⟩ := item
  cases name? with
  | none => exact Expr.quiet he
  | some name =>
    have has : Quiet Token.isReserved [.blank, .word "AS", .blank, .word name] := by
      refine quiet_of_forall ?_
      simp only [List.forall_mem_cons]
      exact ⟨by decide, by decide, by decide, hn name rfl, nofun⟩
    exact (Expr.quiet he).append expr.contained.balanced has

end EventReport.Sql
