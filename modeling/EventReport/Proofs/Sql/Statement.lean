import EventReport.Sql.Column
import EventReport.Sql.Select
import EventReport.Proofs.Sql.Nesting

/-! # The tokens of a SELECT

`Item.tokens` are the tokens of an item, and `SelectTokens.tokens` those of a SELECT whose parts
have the tokens of a `SelectTokens`. They spell the text if the tokens of the parts spell the parts
(`Item.spells`, `SelectTokens.Spelled.spells`). -/

set_option autoImplicit false

namespace EventReport.Sql

/-! ## Items -/

/-- The tokens of a look-up among the parameters that shows a column, up to the key. -/
def keyTokens (shown : String) : List Token :=
  [.word "SELECT", .blank, .word shown, .blank, .word "FROM", .blank, .word "UNNEST", .mark '(',
    .word "event_params", .mark ')', .blank, .word "WHERE", .blank, .word "key", .blank,
    .mark '=', .blank]

theorem valid_keyTokens {names : Bool} {shown : String} (h : isWordText shown) :
    ∀ t ∈ keyTokens shown, t.Valid names := by
  have hshown : (Token.word shown).Valid names := h
  simp (disch := decide) only [keyTokens, List.forall_mem_cons, Token.valid_of_isPlain, true_and]
  exact ⟨hshown, nofun⟩

/-- The tokens of the expression. -/
def Expr.tokens : Expr → List Token
  | column name => [.word name]
  | param key => .mark '(' :: (keyTokens "value.string_value" ++ [.literal key] ++ [.mark ')'])
  | eventDay => .word "PARSE_DATE" :: .mark '(' ::
      ([.literal "'%Y%m%d'", .mark ',', .blank, .word "event_date"] ++ [.mark ')'])
  | sessionKey => .word "CONCAT" :: .mark '(' ::
      ([.word "user_pseudo_id", .mark ',', .blank, .word "CAST"] ++
        .mark '(' :: (.mark '(' :: (keyTokens "value.int_value" ++ [.literal "'ga_session_id'"] ++
          [.mark ')']) ++ [.blank, .word "AS", .blank, .word "STRING"] ++ [.mark ')']) ++
        [.mark ')'])
  | sum name => .word "SUM" :: .mark '(' :: ([.word name] ++ [.mark ')'])
  | count name => .word "COUNT" :: .mark '(' :: ([.word name] ++ [.mark ')'])
  | countDistinct name => .word "COUNT" :: .mark '(' ::
      ([.word "DISTINCT", .blank, .word name] ++ [.mark ')'])

/-- The names in the expression are words, and its key is a literal. -/
def Expr.Clean : Expr → Prop
  | column name | sum name | count name | countDistinct name => isWordText name
  | param key => IsLiteral key
  | eventDay | sessionKey => True

theorem Expr.spells (names : Bool) {e : Expr} (h : e.Clean) : Spells names e.render e.tokens := by
  refine ⟨?_, ?_, ?_⟩
  · unfold render eventParams eventDate
    cases e <;> simp [tokens, keyTokens, Token.chars, Token.blank]
  · have hnil : ∀ t ∈ ([] : List Token), t.Valid names := List.forall_mem_nil _
    cases e with
    | column name => exact List.forall_mem_singleton.mpr h
    | param key =>
      have hkey : (Token.literal key).Valid names := h
      simp (disch := decide) only [tokens, List.forall_mem_cons, List.forall_mem_append,
        Token.valid_of_isPlain, true_and]
      exact ⟨⟨valid_keyTokens (by decide), hkey, hnil⟩, hnil⟩
    | eventDay =>
      have hformat : (Token.literal "'%Y%m%d'").Valid names :=
        ⟨"%Y%m%d".toList, by decide, rfl⟩
      simp (disch := decide) only [tokens, List.forall_mem_cons, List.forall_mem_append,
        Token.valid_of_isPlain, true_and]
      exact ⟨⟨hformat, hnil⟩, hnil⟩
    | sessionKey =>
      have hkey : (Token.literal "'ga_session_id'").Valid names :=
        ⟨"ga_session_id".toList, by decide, rfl⟩
      simp (disch := decide) only [tokens, List.forall_mem_cons, List.forall_mem_append,
        Token.valid_of_isPlain, true_and]
      exact ⟨⟨hnil, ⟨⟨⟨valid_keyTokens (by decide), hkey, hnil⟩, hnil⟩, hnil⟩, hnil⟩, hnil⟩
    | sum name | count name | countDistinct name =>
      have hname : (Token.word name).Valid names := h
      simp (disch := decide) only [tokens, List.forall_mem_cons, List.forall_mem_append,
        Token.valid_of_isPlain, true_and]
      exact ⟨⟨hname, hnil⟩, hnil⟩
  · cases e <;> simp [tokens, keyTokens, Token.blank]

def Item.tokens (item : Item) : List Token :=
  match item.name? with
  | some name => item.expr.tokens ++ [.blank, .word "AS", .blank, .word name]
  | none => item.expr.tokens

/-- The expression of the item is clean, and its name is a word. -/
def Item.Clean (item : Item) : Prop :=
  item.expr.Clean ∧ ∀ name ∈ item.name?, isWordText name

theorem Item.clean_named {e : Expr} {name : String} (he : e.Clean) (hname : isWordText name) :
    (Item.named e name).Clean :=
  ⟨he, by rintro _ ⟨⟩; exact hname⟩

theorem Item.clean_bare {name : String} (h : isWordText name) : (Item.bare name).Clean :=
  ⟨h, nofun⟩

theorem Item.spells (names : Bool) {item : Item} (h : item.Clean) :
    Spells names item.render item.tokens := by
  obtain ⟨expr, name?⟩ := item
  cases name? with
  | none => exact Expr.spells names h.1
  | some name =>
    have hname : (Token.word name).Valid names := h.2 name rfl
    have has : Spells names (" AS " ++ name) [.blank, .word "AS", .blank, .word name] := by
      refine ⟨by simp [Token.chars, Token.blank], ?_, by simp [Token.blank]⟩
      simp (disch := decide) only [List.forall_mem_cons, Token.valid_of_isPlain, true_and]
      exact ⟨hname, List.forall_mem_nil _⟩
    have := (Expr.spells names h.1).append has (.inr (by simp [Token.isWord]))
    rwa [← String.append_assoc] at this

/-- The items of the column are clean, and its names are words. -/
structure Column.Clean (c : Column) : Prop where
  inner : c.inner.Clean
  outer : c.outer.Clean
  innerName : isWordText c.innerName
  outerName : isWordText c.outerName

/-! ## Statements -/

/-- The tokens of the parts of a SELECT. -/
structure SelectTokens where
  source : List Token
  columns : List (List Token)
  conditions : List (List Token)
  groups : List (List Token)
  having : Option (List Token)
  order : List (List Token)

/-- The tokens of a clause with a separator of `sep` and a blank, if it has parts. -/
def clauseTokens (keyword sep : List Token) (parts : List (List Token)) : List Token :=
  if parts = [] then [] else .blank :: keyword ++ [.blank] ++ joinTokens sep parts

namespace SelectTokens

def comma : List Token := [.mark ',', .blank]

/-- The tokens between the parts of a condition. -/
def conjunction : List Token := [.blank, .word "AND", .blank]

def tail (s : SelectTokens) : List Token :=
  clauseTokens [.word "GROUP", .blank, .word "BY"] comma s.groups ++
    clauseTokens [.word "HAVING"] comma s.having.toList ++
    clauseTokens [.word "ORDER", .blank, .word "BY"] comma s.order

def columnTokens (s : SelectTokens) : List Token :=
  if s.columns = [] then [.mark '*'] else joinTokens comma s.columns

/-- The tokens of the statement. -/
def tokens (s : SelectTokens) : List Token :=
  [Token.word "SELECT", .blank] ++ s.columnTokens ++ [Token.blank, .word "FROM", .blank] ++
    s.source ++ clauseTokens [.word "WHERE"] conjunction s.conditions ++ s.tail

/-- The tokens spell the parts of a SELECT. -/
structure Spelled (names : Bool) (s : Select) (ts : SelectTokens) : Prop where
  source : Spells names (Select.renderSource s.source) ts.source
  columns : List.Forall₂ (Spells names) s.columns ts.columns
  conditions : List.Forall₂ (Spells names) s.conditions ts.conditions
  groups : List.Forall₂ (Spells names) s.groups ts.groups
  having : Option.Rel (Spells names) s.having ts.having
  order : List.Forall₂ (Spells names) s.order ts.order

variable {names : Bool}

theorem spells_clause {keyword sep : String} {kts : List Token} {c : Char} {mid : List Token}
    (hk : Spells names keyword (.blank :: kts ++ [Token.blank]))
    (hsep : Spells names sep (.mark c :: mid ++ [Token.blank])) {texts : List String}
    {parts : List (List Token)} (h : List.Forall₂ (Spells names) texts parts) :
    Spells names (Select.renderClause keyword sep texts)
      (clauseTokens kts (.mark c :: mid ++ [Token.blank]) parts) := by
  cases h with
  | nil => exact spells_nil names
  | cons ht hts =>
    rw [Select.renderClause, clauseTokens, if_neg (by simp), if_neg (by simp)]
    have hlast : ∀ t ∈ (Token.blank :: kts ++ [Token.blank]).getLast?, ¬ t.isWord := by
      rw [List.getLast?_concat]
      rintro t ⟨⟩
      exact Bool.false_ne_true
    exact hk.append (.joined hsep (.cons ht hts)) (.inl hlast)

theorem head_clause (kts sep : List Token) (parts : List (List Token)) :
    ∀ t ∈ (clauseTokens kts sep parts).head?, ¬ t.isWord := by
  rw [clauseTokens]
  split <;> simp [Token.isWord]

theorem spells_comma : Spells names ", " (.mark ',' :: [] ++ [Token.blank]) :=
  spells_plain (by decide) (by simp) (by simp [Token.chars])

theorem spells_conjunction :
    Spells names " AND " (.mark ' ' :: [Token.word "AND"] ++ [Token.blank]) :=
  spells_plain (by decide) (by simp) (by simp [Token.chars])

/-- The tokens of its parts spell a SELECT. -/
theorem Spelled.spells {s : Select} {ts : SelectTokens} (h : Spelled names s ts) :
    Spells names s.render ts.tokens := by
  have hselect : Spells names "SELECT " [.word "SELECT", .blank] :=
    spells_plain (by decide) (by simp) (by simp [Token.chars])
  have hfrom : Spells names " FROM " [.blank, .word "FROM", .blank] :=
    spells_plain (by decide) (by simp [Token.blank]) (by simp [Token.chars])
  have hcolumns : Spells names
      (if s.columns = [] then "*" else Text.joined ", " s.columns) ts.columnTokens := by
    have := h.columns
    unfold columnTokens
    generalize s.columns = texts at *
    generalize ts.columns = parts at *
    cases this with
    | nil => exact spells_plain (by decide) (by simp) (by simp [Token.chars])
    | cons ht hts => exact .joined spells_comma (.cons ht hts)
  have hwhere : Spells names (Select.renderClause " WHERE " " AND " s.conditions)
      (clauseTokens [.word "WHERE"] conjunction ts.conditions) :=
    spells_clause (spells_plain (by decide) (by simp) (by simp [Token.chars])) spells_conjunction
      h.conditions
  have hgroups : Spells names (Select.renderClause " GROUP BY " ", " s.groups)
      (clauseTokens [.word "GROUP", .blank, .word "BY"] comma ts.groups) :=
    spells_clause (spells_plain (by decide) (by simp) (by simp [Token.chars])) spells_comma
      h.groups
  have horder : Spells names (Select.renderClause " ORDER BY " ", " s.order)
      (clauseTokens [.word "ORDER", .blank, .word "BY"] comma ts.order) :=
    spells_clause (spells_plain (by decide) (by simp) (by simp [Token.chars])) spells_comma
      h.order
  have hhaving : Spells names (Select.renderClause " HAVING " "" s.having.toList)
      (clauseTokens [.word "HAVING"] comma ts.having.toList) := by
    have := h.having
    generalize s.having = text at *
    generalize ts.having = part at *
    cases this with
    | none => exact spells_nil names
    | some ht =>
      have hkeyword : Spells names " HAVING " [.blank, .word "HAVING", .blank] :=
        spells_plain (by decide) (by simp [Token.blank]) (by simp [Token.chars])
      exact hkeyword.append ht (.inl (by simp [Token.isWord]))
  have hsource := hfrom.append h.source (.inl (by simp [Token.isWord]))
  have hhead := (hselect.append hcolumns (.inl (by simp [Token.isWord]))).append hsource
    (.inr (by simp [Token.isWord]))
  have htail := (((hhead.append hwhere (.inr (head_clause _ _ _))).append hgroups
    (.inr (head_clause _ _ _))).append hhaving (.inr (head_clause _ _ _))).append horder
    (.inr (head_clause _ _ _))
  unfold Select.render
  rw [tokens, tail]
  simpa only [List.append_assoc, String.append_assoc] using htail

end SelectTokens

end EventReport.Sql
