import EventReport.Proofs.Report.Tokens

/-! # Texts do not shape a statement

Two requests that differ in nothing but the texts of their conditions, with escaped quoting, end
with the same error or become statements that differ in nothing but their literals: token by token,
both have the same token or both have a literal (`compile_alike`).

Either run is compared with the run on the request without its texts (`Request.withoutTexts`). -/

set_option autoImplicit false

namespace EventReport

open Sql

/-! ## Requests without texts -/

/-- The condition without the value of a test of a text, and without the key of a parameter. -/
def Condition.withoutTexts (c : Condition) : Condition :=
  match c.test with
  | .text test =>
    { c with field := if c.custom then "" else c.field, test := .text { test with value := "" } }
  | _ => c

mutual

/-- The filter without the texts of its conditions. -/
def Filter.withoutTexts : Filter → Filter
  | .leaf c => .leaf c.withoutTexts
  | .node k members => .node k (Filter.allWithoutTexts members)

def Filter.allWithoutTexts : List Filter → List Filter
  | [] => []
  | f :: fs => Filter.withoutTexts f :: Filter.allWithoutTexts fs

end

/-- The request without the texts of its conditions. -/
def Request.withoutTexts (r : Request) : Request :=
  { r with
    dimensionFilter := r.dimensionFilter.map Filter.withoutTexts
    metricFilter := r.metricFilter.map Filter.withoutTexts }

/-! ## Tokens that differ in literals -/

namespace Sql

/-- The tokens are the same, or both are literals. -/
inductive Token.Alike : Token → Token → Prop
  | same (t : Token) : Alike t t
  | literal (a b : String) : Alike (.literal a) (.literal b)

/-- Token by token, the tokens are the same or both are literals. -/
abbrev Alike : List Token → List Token → Prop :=
  List.Forall₂ Token.Alike

theorem alike_refl (ts : List Token) : Alike ts ts :=
  List.forall₂_same.mpr fun t _ => .same t

theorem alike_joinTokens (sep : List Token) :
    ∀ {parts parts' : List (List Token)}, List.Forall₂ Alike parts parts' →
      Alike (joinTokens sep parts) (joinTokens sep parts')
  | _, _, .nil => .nil
  | _, _, .cons h .nil => h
  | _, _, .cons h (.cons h' t) =>
    List.rel_append (List.rel_append h (alike_refl sep)) (alike_joinTokens sep (.cons h' t))

theorem alike_of_alike {a b c : List Token} (ha : Alike a c) (hb : Alike b c) : Alike a b := by
  induction ha generalizing b with
  | nil => cases hb; exact .nil
  | cons h _ ih =>
    cases hb with
    | cons h' t' =>
      refine .cons ?_ (ih t')
      cases h with
      | same t =>
        cases h' with
        | same => exact .same _
        | literal => exact .literal _ _
      | literal =>
        cases h' with
        | same => exact .literal _ _
        | literal => exact .literal _ _

theorem alike_clause (kts sep : List Token) {parts parts' : List (List Token)}
    (h : List.Forall₂ Alike parts parts') :
    Alike (clauseTokens kts sep parts) (clauseTokens kts sep parts') := by
  cases h with
  | nil => exact alike_refl _
  | cons h t =>
    rw [clauseTokens, clauseTokens, if_neg (List.cons_ne_nil _ _), if_neg (List.cons_ne_nil _ _)]
    exact List.rel_append (alike_refl _) (alike_joinTokens sep (.cons h t))

theorem SelectTokens.alike {s t : SelectTokens} (hsource : Alike s.source t.source)
    (hcolumns : s.columns = t.columns) (hconditions : List.Forall₂ Alike s.conditions t.conditions)
    (hgroups : s.groups = t.groups)
    (hhaving : List.Forall₂ Alike s.having.toList t.having.toList) (horder : s.order = t.order) :
    Alike s.tokens t.tokens := by
  have htail : Alike s.tail t.tail := by
    rw [tail, tail, hgroups, horder]
    exact List.rel_append (List.rel_append (alike_refl _) (alike_clause _ _ hhaving))
      (alike_refl _)
  rw [tokens, tokens, columnTokens, columnTokens, hcolumns]
  exact List.rel_append (List.rel_append (List.rel_append (alike_refl _) hsource)
    (alike_clause _ _ hconditions)) htail

end Sql

/-! ## Filters -/

theorem alike_literal (before after : List Token) (a b : String) :
    Alike (before ++ .literal a :: after) (before ++ .literal b :: after) :=
  List.rel_append (alike_refl before) (.cons (.literal a b) (alike_refl after))

/-- A test and the one without its value differ in a literal. -/
theorem TextTest.alike_compile (test : TextTest) (subject : String) :
    Alike ((test.compile .escaped).tokens subject)
      ((TextTest.compile .escaped { test with value := "" }).tokens subject) := by
  obtain ⟨kind, value, caseSensitive⟩ := test
  cases kind with
  | exact => exact alike_literal [_, _, _, _] [] _ _
  | notExact => exact alike_literal [_, _, _, _, _] [] _ _
  | regexp => exact alike_literal [_, _, _, _, _] [_] _ _
  | notRegexp => exact alike_literal [_, _, _, _, _, _, _] [_] _ _
  | beginsWith | endsWith | contains => exact alike_literal [_, _, _, _] [] _ _

/-- A condition and the one without its texts compile to atoms that differ in literals. -/
theorem Condition.sameOutcome_compile (c : Condition) :
    SameOutcome (fun a b : Atom => Alike a.tokens b.tokens) (c.compile .escaped)
      (c.withoutTexts.compile .escaped) := by
  obtain ⟨field, custom, test⟩ := c
  cases test with
  | text test =>
    cases custom with
    | true =>
      have hkey := alike_literal (keyTokens "1") [.blank, .word "AND", .blank]
        (Quoting.escaped.literal field) (Quoting.escaped.literal "")
      have hparam : Alike (paramTokens (Quoting.escaped.literal field) (test.compile .escaped))
          (paramTokens (Quoting.escaped.literal "")
            (TextTest.compile .escaped { test with value := "" })) := by
        simpa only [paramTokens, List.append_assoc, List.cons_append, List.nil_append] using
          List.rel_append hkey (test.alike_compile "value.string_value")
      exact .ok (.cons (.same _) (.cons (.same _) (List.rel_append hparam (alike_refl _))))
    | false => exact .bind_same fun name => .ok (test.alike_compile name)
  | number | inList | between => exact .refl (fun a => alike_refl a.tokens) _

/-- Predicates of alike tokens, or none. -/
abbrev AlikePart : Option Predicate → Option Predicate → Prop :=
  Option.Rel fun p q => Alike p.tokens q.tokens

theorem alikePart_join (k : Connective) {ps qs : List Predicate}
    (h : List.Forall₂ (fun p q : Predicate => Alike p.tokens q.tokens) ps qs) :
    AlikePart (Predicate.join k ps) (Predicate.join k qs) := by
  match ps, qs, h with
  | [], [], _ => exact .none
  | [p], [q], .cons h .nil => exact .some h
  | p :: p' :: ps, q :: q' :: qs, h =>
    refine .some ?_
    rw [Predicate.tokens, Predicate.tokens, Predicate.tokensAll_eq_map, Predicate.tokensAll_eq_map]
    refine .cons (.same _) (List.rel_append (alike_joinTokens _ ?_) (alike_refl _))
    exact List.forall₂_map_left_iff.mpr (List.forall₂_map_right_iff.mpr h)

namespace Filter

mutual

/-- A filter and the one without its texts compile to predicates that differ in literals. -/
theorem sameOutcome_compileAt {options : CompileOptions} (hq : options.quoting = .escaped) :
    ∀ (f : Filter) (depth : UInt64),
      SameOutcome AlikePart (f.compileAt options depth) (f.withoutTexts.compileAt options depth)
  | .leaf c, depth => by
    rw [withoutTexts, compileAt, compileAt, hq]
    split
    · exact .error _
    · exact c.sameOutcome_compile.bind fun a b hab => .ok (.some hab)
  | .node k fs, depth => by
    rw [withoutTexts, compileAt, compileAt]
    split
    · exact .error _
    · exact (sameOutcome_compileMembers hq fs (depth + 1)).bind fun ps qs h =>
        .ok (alikePart_join k h)

theorem sameOutcome_compileMembers {options : CompileOptions} (hq : options.quoting = .escaped) :
    ∀ (fs : List Filter) (depth : UInt64),
      SameOutcome (List.Forall₂ fun p q : Predicate => Alike p.tokens q.tokens)
        (compileMembers options depth fs) (compileMembers options depth (allWithoutTexts fs))
  | [], depth => by
    rw [allWithoutTexts, compileMembers]
    exact .ok .nil
  | f :: fs, depth => by
    rw [allWithoutTexts, compileMembers, compileMembers]
    refine (sameOutcome_compileAt hq f depth).bind fun part part' hpart => ?_
    refine (sameOutcome_compileMembers hq fs depth).bind fun ps qs h => .ok ?_
    cases hpart with
    | none => exact h
    | some hp => exact .cons hp h

end

end Filter

/-! ## Reports -/

theorem sameOutcome_compileFilter {options : CompileOptions} (hq : options.quoting = .escaped)
    (f : Option Filter) : SameOutcome AlikePart (compileFilter options f)
      (compileFilter options (f.map Filter.withoutTexts)) := by
  cases f with
  | none => exact .ok .none
  | some f => exact f.sameOutcome_compileAt hq 0

theorem Report.alike_tokens (tables : String) (dimensions metrics : List Column)
    (range : Calendar.DayRange) (order : List OrderTerm) {e e' row row' : Option Predicate}
    (he : AlikePart e e') (hrow : AlikePart row row') :
    Alike (Report.tokens ⟨tables, dimensions, metrics, range, e, row, order⟩)
      (Report.tokens ⟨tables, dimensions, metrics, range, e', row', order⟩) := by
  have hpart {p q : Option Predicate} (h : AlikePart p q) :
      List.Forall₂ Alike (p.toList.map Predicate.tokens) (q.toList.map Predicate.tokens) := by
    cases h with
    | none => exact .nil
    | some h => exact .cons h .nil
  have hhaving : List.Forall₂ Alike (row.map Predicate.tokens).toList
      (row'.map Predicate.tokens).toList := by
    cases hrow with
    | none => exact .nil
    | some h => exact .cons h .nil
  have hinner : Alike
      (innerTokens ⟨tables, dimensions, metrics, range, e, row, order⟩).tokens
      (innerTokens ⟨tables, dimensions, metrics, range, e', row', order⟩).tokens :=
    SelectTokens.alike (alike_refl _) rfl (.cons (alike_refl _) (hpart he)) rfl .nil rfl
  have hsource := List.Forall₂.cons (Token.Alike.same (.mark '('))
    (List.rel_append hinner (alike_refl [.mark ')']))
  have houter : Alike
      (outerTokens ⟨tables, dimensions, metrics, range, e, row, order⟩).tokens
      (outerTokens ⟨tables, dimensions, metrics, range, e', row', order⟩).tokens :=
    SelectTokens.alike hsource rfl .nil rfl hhaving rfl
  exact List.rel_append houter (alike_refl _)

theorem sameOutcome_ofRequest {options : CompileOptions} (hq : options.quoting = .escaped)
    (table : EventTable) (req : Request) :
    SameOutcome (fun r s : Report => Alike r.tokens s.tokens)
      (Report.ofRequest options table req) (Report.ofRequest options table req.withoutTexts) := by
  refine .bind_same fun dimensions => .bind_same fun metrics => .bind_same fun tables => ?_
  refine (sameOutcome_compileFilter hq req.dimensionFilter).bind fun e e' he => ?_
  refine (sameOutcome_compileFilter hq req.metricFilter).bind fun row row' hrow => ?_
  refine .bind_same fun order => .ok ?_
  exact Report.alike_tokens tables dimensions metrics req.range order he hrow

/-- **Texts do not shape a statement.** Two requests that differ in nothing but the texts of their
conditions end with the same error, or become statements that differ in nothing but literals. -/
theorem compile_alike {options : CompileOptions} {table : EventTable} {req req' : Request}
    (hq : options.quoting = .escaped) (h : req.withoutTexts = req'.withoutTexts) :
    (∃ e, compile options table req = .error e ∧ compile options table req' = .error e) ∨
      ∃ sql sql' ts ts', compile options table req = .ok sql ∧
        compile options table req' = .ok sql' ∧ tokens? true sql = some ts ∧
        tokens? true sql' = some ts' ∧ Alike ts ts' := by
  have hrun := sameOutcome_ofRequest hq table req
  have hrun' := sameOutcome_ofRequest hq table req'
  -- Both runs are related to the one without texts.
  rw [← h] at hrun'
  have hboth := hrun.join hrun' fun _ _ _ => alike_of_alike
  rw [compile, compile]
  generalize hr : Report.ofRequest options table req = x at hboth ⊢
  generalize hr' : Report.ofRequest options table req' = y at hboth ⊢
  cases hboth with
  | error e => exact .inl ⟨e, rfl, rfl⟩
  | @ok r r' halike =>
    exact .inr ⟨r.render, r'.render, r.tokens, r'.tokens, rfl, rfl,
      tokens?_of_spells (Report.spells (Report.clean_of_request hq hr)),
      tokens?_of_spells (Report.spells (Report.clean_of_request hq hr')), halike⟩

/-- A request with a condition on a parameter and one on a column. -/
def textRequest (key value : String) : Request where
  range := .single ⟨2024, 4, 30, by decide⟩
  dimensions := [{ apiName := "country" }]
  metrics := [{ apiName := "events" }]
  dimensionFilter := some (.node .and
    [.leaf ⟨key, true, .text ⟨.contains, value, false⟩⟩,
      .node .or [.leaf ⟨"page", false, .text ⟨.notRegexp, value, false⟩⟩]])

theorem compile_alike_quotes :
    (∃ e, compile { quoting := .escaped } ⟨"p", "d", "t"⟩ (textRequest "it's" "50%\\") = .error e ∧
        compile { quoting := .escaped } ⟨"p", "d", "t"⟩ (textRequest "plan" "a b") = .error e) ∨
      ∃ sql sql' ts ts',
        compile { quoting := .escaped } ⟨"p", "d", "t"⟩ (textRequest "it's" "50%\\") = .ok sql ∧
        compile { quoting := .escaped } ⟨"p", "d", "t"⟩ (textRequest "plan" "a b") = .ok sql' ∧
        tokens? true sql = some ts ∧ tokens? true sql' = some ts' ∧ Alike ts ts' :=
  compile_alike rfl rfl

end EventReport
