import EventReport.Proofs.Filter.Compiling
import EventReport.Proofs.Sql.Containment

/-! # The tokens of a predicate

`Predicate.tokens` are the tokens of a predicate. They spell its text and are contained if its
atoms are `Clean` (`Predicate.spells`, `Predicate.contained`), and every atom that escaped quoting
compiles is clean (`Condition.clean_of_compile`). -/

set_option autoImplicit false

namespace EventReport

open Sql

/-! ## Atoms -/

/-- The literal that a text is compared with. -/
def LiteralTest.literal : LiteralTest → String
  | equal l | notEqual l | matching l | notMatching l | like l => l

/-- The tokens of a call that matches `subject` with a literal. -/
def matchingTokens (subject literal : String) : List Token :=
  [.word "REGEXP_CONTAINS", .mark '(', .word subject, .mark ',', .blank, .literal literal,
    .mark ')']

/-- The tokens of the comparison of `subject`. -/
def LiteralTest.tokens (subject : String) : LiteralTest → List Token
  | equal l => [.word subject, .blank, .mark '=', .blank, .literal l]
  | notEqual l => [.word subject, .blank, .mark '!', .mark '=', .blank, .literal l]
  | matching l => matchingTokens subject l
  | notMatching l => .word "NOT" :: .blank :: matchingTokens subject l
  | like l => [.word subject, .blank, .word "LIKE", .blank, .literal l]

/-- The tokens between the parentheses of the condition on a parameter. -/
def paramTokens (key : String) (test : LiteralTest) : List Token :=
  keyTokens "1" ++
    .literal key :: .blank :: .word "AND" :: .blank :: test.tokens "value.string_value"

def Comparison.tokens (c : Comparison) : List Token :=
  c.symbol.toList.map .mark

/-- The tokens of the atom. -/
def Atom.tokens : Atom → List Token
  | column name test => test.tokens name
  | param key test => .word "EXISTS" :: .mark '(' :: (paramTokens key test ++ [.mark ')'])
  | number name c value => .word name :: .blank :: (c.tokens ++ .blank :: numberTokens value)

/-- The name of the atom is a word, its literals are literals, and its number is one. -/
def Atom.Clean : Atom → Prop
  | column name test => isWordText name ∧ IsLiteral test.literal
  | param key test => IsLiteral key ∧ IsLiteral test.literal
  | number name _ value => isWordText name ∧ IsNumber value

theorem LiteralTest.chars_tokens (subject : String) (test : LiteralTest) :
    (test.tokens subject).flatMap Token.chars = (test.render subject).toList := by
  unfold render
  cases test <;> simp [tokens, matchingTokens, Token.chars, Token.blank]

theorem LiteralTest.spells (names : Bool) {subject : String} {test : LiteralTest}
    (hs : isWordText subject) (hl : IsLiteral test.literal) :
    Spells names (test.render subject) (test.tokens subject) := by
  have hword : (Token.word subject).Valid names := hs
  have hlit : (Token.literal test.literal).Valid names := hl
  refine ⟨test.chars_tokens subject, ?_, ?_⟩
  · cases test <;>
      simp (disch := decide) only [tokens, matchingTokens, List.forall_mem_cons,
        Token.valid_of_isPlain, true_and] <;>
      exact ⟨hword, hlit, List.forall_mem_nil _⟩
  · cases test <;> simp [tokens, matchingTokens, Token.blank]

theorem Comparison.isPlain_tokens (c : Comparison) : c.tokens.all Token.isPlain := by
  cases c <;> decide

theorem Atom.spells {names : Bool} {a : Atom} (h : a.Clean) : Spells names a.render a.tokens := by
  cases a with
  | column name test => exact LiteralTest.spells names h.1 h.2
  | param key test =>
    have hword : isWordText "value.string_value" := by decide
    have ht := LiteralTest.spells names hword h.2
    refine ⟨?_, ?_, ?_⟩
    · unfold render eventParams
      simp [tokens, paramTokens, keyTokens, Token.chars, Token.blank, ht.chars]
    · have hkey : (Token.literal key).Valid names := h.1
      have hopen : ∀ t ∈ keyTokens "1", t.Valid names := valid_of_all_isPlain (by decide)
      simp (disch := decide) only [tokens, paramTokens, List.forall_mem_append,
        List.forall_mem_cons, Token.valid_of_isPlain, true_and]
      exact ⟨⟨hopen, hkey, ht.valid⟩, List.forall_mem_nil _⟩
    · have := ht.separated
      simpa [tokens, paramTokens, keyTokens, Token.blank] using this
  | number name c value =>
    have hvalue := h.2.tokens.2 names
    refine ⟨?_, ?_, ?_⟩
    · unfold render
      cases c <;> simp [tokens, Comparison.tokens, Comparison.symbol, Token.chars, Token.blank,
        hvalue.chars]
    · have hword : (Token.word name).Valid names := h.1
      simp (disch := decide) only [tokens, List.forall_mem_append, List.forall_mem_cons,
        Token.valid_of_isPlain, true_and]
      exact ⟨hword, valid_of_all_isPlain c.isPlain_tokens, hvalue.valid⟩
    · have := hvalue.separated
      cases c <;> simpa [tokens, Comparison.tokens, Comparison.symbol, Token.blank] using this

/-! ## Negated atoms -/

/-- The comparison without its NOT. -/
def LiteralTest.positive : LiteralTest → LiteralTest
  | notMatching l => matching l
  | test => test

/-- The atom without the NOT before it. A NOT within the condition on a parameter stays. -/
def Atom.positive : Atom → Atom
  | column name test => column name test.positive
  | a => a

/-- A NOT stands before the atom. -/
def Atom.negated : Atom → Bool
  | column _ (.notMatching _) => true
  | _ => false

theorem Atom.tokens_eq (a : Atom) :
    a.tokens = (if a.negated then [Token.word "NOT", .blank] else []) ++ a.positive.tokens := by
  match a with
  | column name (.notMatching l) => rfl
  | column name (.equal l) | column name (.notEqual l) | column name (.matching l)
  | column name (.like l) | param _ _ | number _ _ _ => rfl

theorem Atom.clean_positive {a : Atom} (h : a.Clean) : a.positive.Clean := by
  match a, h with
  | column name (.notMatching l), h | column name (.equal l), h | column name (.notEqual l), h
  | column name (.matching l), h | column name (.like l), h | param _ _, h
  | number _ _ _, h => exact h

/-! ## Predicates -/

/-- The tokens between the members of a group. -/
def Connective.tokens (k : Connective) : List Token :=
  [.blank, .word k.keyword, .blank]

namespace Predicate

mutual

/-- The tokens of the predicate. -/
def tokens : Predicate → List Token
  | .atom a => a.tokens
  | .group k members =>
    .mark '(' :: (joinTokens k.tokens (tokensAll members) ++ [.mark ')'])

def tokensAll : List Predicate → List (List Token)
  | [] => []
  | p :: ps => tokens p :: tokensAll ps

end

theorem tokensAll_eq_map : ∀ ps : List Predicate, tokensAll ps = ps.map tokens
  | [] => rfl
  | p :: ps => by rw [tokensAll, tokensAll_eq_map ps, List.map_cons]

theorem spells {names : Bool} {p : Predicate} (h : p.Regular Atom.Clean) :
    Spells names p.render p.tokens := by
  induction h with
  | atom ha =>
    rw [render, tokens]
    exact Atom.spells ha
  | @group k p q ps _ ih =>
    have hsep : Spells names (" " ++ k.keyword ++ " ") (.blank :: [.word k.keyword] ++ [.blank]) :=
      spells_plain (by cases k <;> decide) (by simp) (by simp [Token.chars])
    rw [render, tokens, renderAll_eq_map, tokensAll_eq_map]
    exact (Spells.joined hsep (spells_map ih)).parens

end Predicate

/-! ## Containment -/

theorem contained_matchingTokens (subject literal : String) :
    Contained [] (matchingTokens subject literal) := by
  have harguments : Contained [] [.word subject, .mark ',', .blank, .literal literal] :=
    contained_of_all rfl
  exact harguments.parens.cons rfl

theorem LiteralTest.contained (subject : String) (test : LiteralTest) :
    Contained [] (test.tokens subject) := by
  cases test with
  | equal | notEqual | like => exact contained_of_all rfl
  | matching l => exact contained_matchingTokens subject l
  | notMatching l => exact ((contained_matchingTokens subject l).cons rfl).cons rfl

theorem contained_paramTokens (key : String) (test : LiteralTest) :
    Contained [] (paramTokens key test) := by
  have hand : Contained [] [.literal key, .blank, .word "AND", .blank] := contained_of_all rfl
  exact (contained_keyTokens "1").append (hand.append (test.contained _))

theorem Atom.contained {a : Atom} (h : a.Clean) : Contained [] a.tokens := by
  cases a with
  | column name test => exact test.contained name
  | param key test => exact (contained_paramTokens key test).parens.cons rfl
  | number name c value =>
    have hc : Contained [] c.tokens := contained_of_all (by cases c <;> rfl)
    exact ((hc.append (contained_numberTokens h.2)).cons rfl).cons rfl

theorem contained_members (k : Connective) {ps : List Predicate}
    (h : ∀ p ∈ ps, Contained [] p.tokens) :
    Contained [] (joinTokens k.tokens (ps.map Predicate.tokens)) := by
  have hk : Contained [] k.tokens := contained_of_all rfl
  refine contained_joinTokens hk fun part hpart => ?_
  obtain ⟨m, hm, rfl⟩ := List.mem_map.mp hpart
  exact h m hm

theorem Predicate.contained {p : Predicate} (h : p.Regular Atom.Clean) : Contained [] p.tokens := by
  induction h with
  | atom ha => exact Atom.contained ha
  | @group k p q ps _ ih =>
    rw [tokens, tokensAll_eq_map]
    exact (contained_members k ih).parens

/-! ## Escaped quoting compiles clean atoms -/

theorem TextTest.isLiteral_compile (test : TextTest) :
    IsLiteral (test.compile .escaped).literal := by
  unfold compile LiteralTest.literal
  cases test.kind
  case exact | notExact => exact isLiteral_literal _
  case regexp | notRegexp => exact isLiteral_regexp _
  all_goals exact isLiteral_pattern (by decide) (by decide) _

/-- **Escaped quoting compiles clean atoms.** -/
theorem Condition.clean_of_compile {c : Condition} {a : Atom} (h : c.compile .escaped = .ok a) :
    a.Clean := by
  cases becomes_of_compile h with
  | param key test => exact ⟨isLiteral_literal key, test.isLiteral_compile⟩
  | column test hname => exact ⟨(identifier_eq_ok hname).2, test.isLiteral_compile⟩
  | number custom hname hvalue => exact ⟨(identifier_eq_ok hname).2, number_eq_ok hvalue⟩

/-- The column that the condition compares, unless it looks up a parameter. -/
def Condition.column? (c : Condition) : Option String :=
  match c.test with
  | .text _ => if c.custom then none else some c.field
  | _ => some c.field

/-- The column that the atom compares, unless it looks up a parameter. -/
def Atom.column? : Atom → Option String
  | column name _ | number name _ _ => some name
  | param _ _ => none

theorem Condition.column?_of_compile {q : Quoting} {c : Condition} {a : Atom}
    (h : c.compile q = .ok a) : a.column? = c.column? := by
  cases becomes_of_compile h with
  | param | column | number => rfl

/-- The condition becomes an atom with a NOT before it: it asks that a column does not match. On a
parameter the NOT of such a test stands within the atom. -/
def Condition.negated (c : Condition) : Bool :=
  match c.test with
  | .text test => !c.custom && decide (test.kind = .notRegexp)
  | _ => false

theorem Condition.negated_of_compile {q : Quoting} {c : Condition} {a : Atom}
    (h : c.compile q = .ok a) : a.negated = c.negated := by
  cases becomes_of_compile h with
  | param | number => rfl
  | column test hname =>
    obtain ⟨kind, value, caseSensitive⟩ := test
    cases kind <;> rfl

theorem map_negated_of_compile {q : Quoting} {cs : List Condition} {atoms : List Atom}
    (h : List.Forall₂ (fun c a => c.compile q = .ok a) cs atoms) :
    atoms.map Atom.negated = cs.map Condition.negated := by
  induction h with
  | nil => rfl
  | cons h _ ih => rw [List.map_cons, List.map_cons, Condition.negated_of_compile h, ih]

/-- The predicate that escaped quoting compiles is spelled by its tokens. -/
theorem Predicate.clean_of_compileAt {options : CompileOptions} (hq : options.quoting = .escaped)
    {f : Filter} {depth : UInt64} {p : Predicate} (h : f.compileAt options depth = .ok (some p)) :
    p.Regular Atom.Clean :=
  (Filter.regular_of_compileAt h).mono fun _ ⟨_, _, ha⟩ =>
    Condition.clean_of_compile (hq ▸ ha)

end EventReport
