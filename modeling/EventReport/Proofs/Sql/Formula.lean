import EventReport.Filter.Basic
import EventReport.Proofs.Sql.Nesting

/-! # Conditions as boolean formulas

`Formula.ofText?` reads a condition of a statement as a formula over its operands: NOT binds more
tightly than AND, and AND than OR; parentheses where an operand is expected group a formula. An
operand is a run of tokens up to a connective, in which the parentheses of a call of EXISTS or
REGEXP_CONTAINS are taken whole.

The reading has two steps: `symbols?` finds the operands among the tokens, and `Reader` puts them
together, with a `Frame` for each open parenthesis. -/

set_option autoImplicit false

namespace EventReport

/-- The truth value of several conditions joined. -/
def Connective.decide : Connective → List Bool → Bool
  | .and, bs => bs.all id
  | .or, bs => bs.any id

namespace Sql

/-- A formula over operands that are given by their tokens. -/
inductive Formula where
  | operand (tokens : List Token)
  | not (f : Formula)
  | and (f g : Formula)
  | or (f g : Formula)
  deriving DecidableEq, Repr

namespace Formula

def size : Formula → Nat
  | operand _ => 1
  | not f => f.size
  | and f g | or f g => f.size + g.size

/-- The operands from left to right, each with whether a NOT stands right before it. -/
def literals : Formula → List (Bool × List Token)
  | operand ts => [(false, ts)]
  | not (operand ts) => [(true, ts)]
  | not f => f.literals
  | and f g | or f g => f.literals ++ g.literals

/-- The value of the formula, whose operands from left to right have the values `v i`,
`v (i + 1)` and so on. -/
def eval (v : Nat → Bool) (i : Nat) : Formula → Bool
  | operand _ => v i
  | not f => !f.eval v i
  | and f g => f.eval v i && g.eval v (i + f.size)
  | or f g => f.eval v i || g.eval v (i + f.size)

/-- The value of the formula, whose `literals` from left to right have the values `v i`,
`v (i + 1)` and so on. -/
def evalLiterals (v : Nat → Bool) (i : Nat) : Formula → Bool
  | operand _ => v i
  | not (operand _) => v i
  | not f => !f.evalLiterals v i
  | and f g => f.evalLiterals v i && g.evalLiterals v (i + f.size)
  | or f g => f.evalLiterals v i || g.evalLiterals v (i + f.size)

def join : Connective → Formula → Formula → Formula
  | .and => and
  | .or => or

/-- Formulas joined from left to right; there is one at least. -/
def joinAll (k : Connective) : List Formula → Formula
  | [] => operand []
  | f :: fs => fs.foldl (join k) f

@[simp] theorem length_literals (f : Formula) : f.literals.length = f.size := by
  fun_induction literals f with
  | case1 | case2 => rfl
  | case3 f _ ih => exact ih
  | case4 f g ihf ihg | case5 f g ihf ihg => rw [List.length_append, ihf, ihg, size]

theorem literals_join (k : Connective) (f g : Formula) :
    (join k f g).literals = f.literals ++ g.literals := by
  cases k <;> rfl

theorem literals_joinAll (k : Connective) {fs : List Formula} (h : fs ≠ []) :
    (joinAll k fs).literals = fs.flatMap literals := by
  have hfold : ∀ (fs : List Formula) (f : Formula),
      (fs.foldl (join k) f).literals = f.literals ++ fs.flatMap literals := by
    intro fs
    induction fs with
    | nil => simp
    | cons g gs ih => intro f; simp [ih, literals_join]
  cases fs with
  | nil => exact absurd rfl h
  | cons f fs => exact hfold fs f

/-- The values of formulas whose `literals` follow one another. -/
def evalAll (v : Nat → Bool) (i : Nat) : List Formula → List Bool
  | [] => []
  | f :: fs => f.evalLiterals v i :: evalAll v (i + f.size) fs

theorem evalLiterals_joinAll (k : Connective) (v : Nat → Bool) {fs : List Formula} (h : fs ≠ [])
    (i : Nat) : (joinAll k fs).evalLiterals v i = k.decide (evalAll v i fs) := by
  have hfold : ∀ (fs : List Formula) (f : Formula),
      (fs.foldl (join k) f).evalLiterals v i =
        k.decide (f.evalLiterals v i :: evalAll v (i + f.size) fs) := by
    intro fs
    induction fs with
    | nil => intro f; cases k <;> simp [Connective.decide, evalAll]
    | cons g gs ih =>
      intro f
      rw [List.foldl_cons, ih, evalAll]
      cases k <;>
        simp [Connective.decide, join, evalLiterals, size, Bool.and_assoc, Bool.or_assoc,
          Nat.add_assoc]
  cases fs with
  | nil => exact absurd rfl h
  | cons f fs => exact hfold fs f

/-- From the `i`-th on, the values in `v` are those in `w`, negated where the list says so. -/
def AgreeFrom (v w : Nat → Bool) (i : Nat) (negated : List Bool) : Prop :=
  ∀ j b, negated[j]? = some b → w (i + j) = (v (i + j) ^^ b)

theorem agreeFrom_append {v w : Nat → Bool} {i : Nat} {a b : List Bool} :
    AgreeFrom v w i (a ++ b) ↔ AgreeFrom v w i a ∧ AgreeFrom v w (i + a.length) b := by
  constructor
  · intro h
    refine ⟨fun j c hj => h j c ?_, fun j c hj => ?_⟩
    · rw [List.getElem?_append_left (List.getElem?_eq_some_iff.mp hj).1, hj]
    · rw [Nat.add_assoc]
      exact h (a.length + j) c (by rw [List.getElem?_append_right (by omega)]; simpa using hj)
  · rintro ⟨ha, hb⟩ j c hj
    rcases Nat.lt_or_ge j a.length with hlt | hge
    · exact ha j c (by rwa [List.getElem?_append_left hlt] at hj)
    · rw [List.getElem?_append_right hge] at hj
      have := hb (j - a.length) c hj
      rwa [Nat.add_assoc, Nat.add_sub_cancel' hge] at this

/-- The values of the literals follow from those of the operands and the NOTs before them. -/
theorem eval_eq_evalLiterals {v w : Nat → Bool} (f : Formula) {i : Nat}
    (h : AgreeFrom v w i (f.literals.map (·.1))) : f.eval w i = f.evalLiterals v i := by
  fun_induction literals f generalizing i with
  | case1 ts => simpa [eval, evalLiterals] using h 0 false rfl
  | case2 ts => simpa [eval, evalLiterals] using h 0 true rfl
  | case3 f _ ih => simp only [eval, evalLiterals, ih h]
  | case4 f g ihf ihg | case5 f g ihf ihg =>
    rw [List.map_append, agreeFrom_append, List.length_map, length_literals] at h
    rw [eval, evalLiterals, ihf h.1, ihg h.2]

end Formula

/-! ## Finding the operands -/

/-- A part of a condition: an operand, a connective or a parenthesis. -/
inductive Symbol where
  | operand (tokens : List Token)
  | not
  | connective (k : Connective)
  | opening
  | closing
  deriving DecidableEq, Repr

/-- The symbol that a token is by itself. -/
def Symbol.ofToken? (t : Token) : Option Symbol :=
  if t.isKeyword "AND" then some (connective .and)
  else if t.isKeyword "OR" then some (connective .or)
  else if t.isKeyword "NOT" then some not
  else if t = .mark '(' then some opening
  else if t = .mark ')' then some closing
  else none

/-- The tokens are the name of a function whose call is an operand. -/
def isCallHead : List Token → Bool
  | [t] => t.isKeyword "EXISTS" || t.isKeyword "REGEXP_CONTAINS"
  | _ => false

/-- The operand that has been read, if there is one. -/
def readOperand (read : List Token) : List Symbol :=
  if read = [] then [] else [.operand read]

/-- The symbols of the rest of a condition; `read` are the tokens of an operand so far, and `depth`
counts the parentheses that are open within it. -/
def symbolsFrom? (read : List Token) : (depth : Nat) → List Token → Option (List Symbol)
  | 0, [] => some (readOperand read)
  | _ + 1, [] => none
  | 0, t :: ts =>
    if t = .mark '(' ∧ isCallHead read then symbolsFrom? (read ++ [t]) 1 ts
    else
      match Symbol.ofToken? t with
      | some s => (symbolsFrom? [] 0 ts).map (readOperand read ++ s :: ·)
      | none => symbolsFrom? (read ++ [t]) 0 ts
  | depth + 1, t :: ts =>
    if t = .mark '(' then symbolsFrom? (read ++ [t]) (depth + 2) ts
    else if t = .mark ')' then symbolsFrom? (read ++ [t]) depth ts
    else symbolsFrom? (read ++ [t]) (depth + 1) ts

def symbols? (ts : List Token) : Option (List Symbol) :=
  symbolsFrom? [] 0 (significant ts)

/-! ## Putting the operands together -/

/-- What has been read since a parenthesis: the formula before the last OR, the one after it and
before the last AND, and the NOTs before the operand that comes next. -/
structure Frame where
  disjunction : Option Formula := none
  conjunction : Option Formula := none
  negations : Nat := 0

namespace Frame

/-- An operand takes the NOTs before it, and then the AND. -/
def give (frame : Frame) (f : Formula) : Frame :=
  let f := Formula.not^[frame.negations] f
  { frame with
    conjunction := some (match frame.conjunction with
      | none => f
      | some g => .and g f)
    negations := 0 }

/-- The formula that has been read; an OR comes last. -/
def formula? (frame : Frame) : Option Formula :=
  frame.conjunction.map fun f =>
    match frame.disjunction with
    | none => f
    | some g => .or g f

end Frame

/-- A reader expects an operand or has been given one, within the parentheses around it. -/
inductive Reader where
  | expecting (frame : Frame) (outer : List Frame)
  | given (frame : Frame) (outer : List Frame)

namespace Reader

/-- The reader after a symbol, if the symbol may stand there. -/
def step : Reader → Symbol → Option Reader
  | expecting frame outer, .operand ts => some (given (frame.give (.operand ts)) outer)
  | expecting frame outer, .not =>
    some (expecting { frame with negations := frame.negations + 1 } outer)
  | expecting frame outer, .opening => some (expecting {} (frame :: outer))
  | given frame outer, .connective .and => some (expecting frame outer)
  | given frame outer, .connective .or =>
    some (expecting { disjunction := frame.formula? } outer)
  | given frame (next :: outer), .closing =>
    frame.formula?.map fun f => given (next.give f) outer
  | _, _ => none

def finish : Reader → Option Formula
  | given frame [] => frame.formula?
  | _ => none

/-- The formula after the rest of the symbols. -/
def run? : Reader → List Symbol → Option Formula
  | reader, [] => reader.finish
  | reader, s :: ss => (reader.step s).bind fun reader => reader.run? ss

end Reader

/-- The formula that tokens read as. -/
def Formula.ofTokens? (ts : List Token) : Option Formula :=
  (symbols? ts).bind (Reader.expecting {} []).run?

/-- The formula that a condition reads as. A backtick is a mark like others here. -/
def Formula.ofText? (text : String) : Option Formula :=
  (tokens? false text).bind ofTokens?

/-! ## Symbols -/

theorem symbolsFrom?_tokens {ts : List Token} (h : ∀ t ∈ ts, Symbol.ofToken? t = none)
    (read rest : List Token) :
    symbolsFrom? read 0 (ts ++ rest) = symbolsFrom? (read ++ ts) 0 rest := by
  induction ts generalizing read with
  | nil => simp
  | cons t ts ih =>
    obtain ⟨ht, hts⟩ := List.forall_mem_cons.mp h
    have hopen : t ≠ .mark '(' := by
      rintro rfl
      simp [Symbol.ofToken?, Token.isKeyword] at ht
    rw [List.cons_append, symbolsFrom?, if_neg (fun h => hopen h.1), ht]
    simp [ih hts]

/-- Within the parentheses of a call all tokens belong to the operand. -/
theorem symbolsFrom?_within {d e : Nat} {ts : List Token} (h : levelAfter d ts = some e)
    (read rest : List Token) :
    symbolsFrom? read (d + 1) (ts ++ rest) = symbolsFrom? (read ++ ts) (e + 1) rest := by
  induction ts generalizing read d with
  | nil => cases h; simp
  | cons t ts ih =>
    obtain ⟨d', ht, h⟩ := Option.bind_eq_some_iff.mp h
    have := ih h (read ++ [t])
    rw [List.append_assoc, List.singleton_append] at this
    rw [List.cons_append, symbolsFrom?, ← this]
    unfold Token.levelAfter at ht
    split at ht
    · rename_i ho
      cases ht
      rw [if_pos ho]
    · rename_i ho
      rw [if_neg ho]
      split at ht
      · rename_i hc
        split at ht
        · cases ht
        · cases ht
          rw [if_pos hc, show d - 1 + 1 = d by omega]
      · rename_i hc
        cases ht
        rw [if_neg hc]

theorem symbolsFrom?_call {read body : List Token} (hr : isCallHead read) (hb : Balanced body)
    (rest : List Token) :
    symbolsFrom? read 0 (.mark '(' :: (body ++ .mark ')' :: rest)) =
      symbolsFrom? (read ++ .mark '(' :: (body ++ [Token.mark ')'])) 0 rest := by
  rw [symbolsFrom?, if_pos ⟨rfl, hr⟩, symbolsFrom?_within hb, symbolsFrom?, if_neg (by decide),
    if_pos rfl]
  simp

/-- The tokens begin with one that ends an operand, or there are none. -/
def EndsOperand (ts : List Token) : Prop :=
  ∀ t ∈ ts.head?, ∃ s, Symbol.ofToken? t = some s ∧ s ≠ .opening

theorem symbolsFrom?_end {rest : List Token} (h : EndsOperand rest) (read : List Token) :
    symbolsFrom? read 0 rest = (symbolsFrom? [] 0 rest).map (readOperand read ++ ·) := by
  cases rest with
  | nil => simp [symbolsFrom?, readOperand]
  | cons t ts =>
    obtain ⟨s, hs, hne⟩ := h t rfl
    have hopen : t ≠ .mark '(' := by
      rintro rfl
      exact hne (Option.some.inj (hs.symm.trans (by decide)))
    rw [symbolsFrom?, if_neg (fun h => hopen h.1), symbolsFrom?, if_neg (fun h => hopen h.1), hs]
    simp [readOperand, Function.comp_def]

theorem symbolsFrom?_symbol {t : Token} {s : Symbol} (h : Symbol.ofToken? t = some s)
    (rest : List Token) :
    symbolsFrom? [] 0 (t :: rest) = (symbolsFrom? [] 0 rest).map (s :: ·) := by
  rw [symbolsFrom?, if_neg (fun h => by simp [isCallHead] at h), h]
  simp [readOperand]

/-- The tokens are read as the symbols if the operand before their end is over. -/
def Symbols (ts : List Token) (ss : List Symbol) : Prop :=
  ∀ rest, EndsOperand rest →
    symbolsFrom? [] 0 (ts ++ rest) = (symbolsFrom? [] 0 rest).map (ss ++ ·)

theorem symbols_operand {ts : List Token} (hne : ts ≠ [])
    (h : ∀ t ∈ ts, Symbol.ofToken? t = none) : Symbols ts [.operand ts] := by
  intro rest hrest
  rw [symbolsFrom?_tokens h, List.nil_append, symbolsFrom?_end hrest, readOperand, if_neg hne]

theorem symbols_call {t : Token} {body : List Token} (hcall : isCallHead [t])
    (ht : Symbol.ofToken? t = none) (hb : Balanced body) :
    Symbols (t :: .mark '(' :: (body ++ [Token.mark ')']))
      [.operand (t :: .mark '(' :: (body ++ [Token.mark ')']))] := by
  intro rest hrest
  have hsingle : ∀ u ∈ [t], Symbol.ofToken? u = none := by simpa using ht
  have hhead := symbolsFrom?_tokens hsingle []
  simp only [List.cons_append, List.append_assoc, List.nil_append] at hhead ⊢
  rw [hhead, symbolsFrom?_call hcall hb, symbolsFrom?_end hrest, readOperand, if_neg (by simp)]
  rfl

theorem Symbols.cons {t : Token} {s : Symbol} (h : Symbol.ofToken? t = some s)
    {ts : List Token} {ss : List Symbol} (hs : Symbols ts ss) : Symbols (t :: ts) (s :: ss) := by
  intro rest hrest
  rw [List.cons_append, symbolsFrom?_symbol h, hs rest hrest, Option.map_map]
  rfl

theorem Symbols.parens {ts : List Token} {ss : List Symbol} (h : Symbols ts ss) :
    Symbols (.mark '(' :: (ts ++ [Token.mark ')'])) (.opening :: (ss ++ [Symbol.closing])) := by
  intro rest _
  have hopen : Symbol.ofToken? (.mark '(') = some .opening := by decide
  have hclose : Symbol.ofToken? (.mark ')') = some .closing := by decide
  have hends : EndsOperand (.mark ')' :: rest) := by
    rintro t ⟨⟩
    exact ⟨.closing, hclose, by simp⟩
  rw [List.cons_append, List.append_assoc, symbolsFrom?_symbol hopen, List.singleton_append,
    h _ hends, symbolsFrom?_symbol hclose]
  simp [Function.comp_def]

theorem Symbol.ofToken?_keyword (k : Connective) :
    Symbol.ofToken? (.word k.keyword) = some (.connective k) := by
  cases k <;> decide

theorem endsOperand_members (k : Connective) (tss : List (List Token)) {rest : List Token}
    (h : EndsOperand rest) : EndsOperand (tss.flatMap (.word k.keyword :: ·) ++ rest) := by
  cases tss with
  | nil => exact h
  | cons ts tss =>
    rintro t ⟨⟩
    exact ⟨.connective k, Symbol.ofToken?_keyword k, by simp⟩

theorem Symbols.members {ts : List Token} {ss : List Symbol} (h : Symbols ts ss) (k : Connective)
    {tss : List (List Token)} {sss : List (List Symbol)} (hs : List.Forall₂ Symbols tss sss) :
    Symbols (ts ++ tss.flatMap (.word k.keyword :: ·))
      (ss ++ sss.flatMap (.connective k :: ·)) := by
  intro rest hrest
  induction hs generalizing ts ss with
  | nil => simpa using h rest hrest
  | @cons us vs tss sss hu _ ih =>
    have hfirst := h _ (endsOperand_members k (us :: tss) hrest)
    have hsecond := ih hu
    rw [List.append_assoc, hfirst, List.flatMap_cons, List.cons_append, List.cons_append,
      symbolsFrom?_symbol (Symbol.ofToken?_keyword k), hsecond]
    simp [Function.comp_def]

/-! ## Readings -/

/-- Where an operand is expected, the symbols are read as the formula. -/
def Reads (ss : List Symbol) (f : Formula) : Prop :=
  ∀ (frame : Frame) (outer : List Frame) (rest : List Symbol),
    (Reader.expecting frame outer).run? (ss ++ rest) =
      (Reader.given (frame.give f) outer).run? rest

theorem reads_operand (ts : List Token) : Reads [.operand ts] (.operand ts) :=
  fun _ _ _ => rfl

theorem Reads.not {ss : List Symbol} {f : Formula} (h : Reads ss f) :
    Reads (.not :: ss) (.not f) := by
  intro frame outer rest
  have hgive :
      Frame.give { frame with negations := frame.negations + 1 } f = frame.give (.not f) := by
    simp [Frame.give, Function.iterate_succ_apply]
  rw [List.cons_append, Reader.run?, Reader.step, Option.bind_some, h, hgive]

/-- Operands with ANDs before them join the conjunction. -/
theorem run?_ands {sss : List (List Symbol)} {fs : List Formula} (h : List.Forall₂ Reads sss fs)
    (f : Formula) (outer : List Frame) (rest : List Symbol) :
    (Reader.given ⟨none, some f, 0⟩ outer).run?
        (sss.flatMap (.connective .and :: ·) ++ rest) =
      (Reader.given ⟨none, some (fs.foldl .and f), 0⟩ outer).run? rest := by
  induction h generalizing f with
  | nil => rfl
  | @cons ss g sss fs hg _ ih =>
    rw [List.flatMap_cons, List.append_assoc, List.cons_append, Reader.run?, Reader.step,
      Option.bind_some, hg, List.foldl_cons, ← ih]
    rfl

theorem run?_ors {sss : List (List Symbol)} {fs : List Formula} (h : List.Forall₂ Reads sss fs)
    {frame : Frame} {f : Formula} (hf : frame.formula? = some f) (outer : List Frame)
    (rest : List Symbol) :
    ∃ last : Frame, last.formula? = some (fs.foldl .or f) ∧
      (Reader.given frame outer).run? (sss.flatMap (.connective .or :: ·) ++ rest) =
        (Reader.given last outer).run? rest := by
  induction h generalizing frame f with
  | nil => exact ⟨frame, hf, rfl⟩
  | @cons ss g sss fs hg _ ih =>
    -- The OR ends the conjunction before it. The frame changes, and what it stands for is kept.
    have hor : Frame.formula? (Frame.give { disjunction := some f } g) = some (.or f g) := rfl
    obtain ⟨last, hlast, hrun⟩ := ih hor
    refine ⟨last, hlast, ?_⟩
    rw [List.flatMap_cons, List.append_assoc, List.cons_append, Reader.run?, Reader.step,
      Option.bind_some, hf, hg, hrun]

/-- A group in parentheses is read as its members joined from left to right. -/
theorem Reads.group {ss : List Symbol} {f : Formula} {sss : List (List Symbol)}
    {fs : List Formula} (k : Connective) (hf : Reads ss f) (hfs : List.Forall₂ Reads sss fs) :
    Reads (.opening :: (ss ++ (sss.flatMap (.connective k :: ·) ++ [.closing])))
      (fs.foldl (Formula.join k) f) := by
  intro frame outer rest
  obtain ⟨last, hlast, hrun⟩ : ∃ last : Frame, last.formula? = some (fs.foldl (Formula.join k) f) ∧
      (Reader.given (Frame.give {} f) (frame :: outer)).run?
          (sss.flatMap (.connective k :: ·) ++ .closing :: rest) =
        (Reader.given last (frame :: outer)).run? (.closing :: rest) := by
    cases k with
    | and => exact ⟨_, rfl, run?_ands hfs f (frame :: outer) (.closing :: rest)⟩
    | or =>
      have hfirst : (Frame.give {} f).formula? = some f := rfl
      exact run?_ors hfs hfirst (frame :: outer) (.closing :: rest)
  simp only [List.cons_append, List.append_assoc, List.nil_append]
  rw [Reader.run?, Reader.step, Option.bind_some, hf, hrun, Reader.run?, Reader.step, hlast]
  rfl

/-- The tokens are read as the formula where an operand is expected. -/
def ReadsAs (ts : List Token) (f : Formula) : Prop :=
  ∃ ss, Symbols ts ss ∧ Reads ss f

theorem ReadsAs.group {ts : List Token} {f : Formula} {tss : List (List Token)}
    {fs : List Formula} (k : Connective) (h : ReadsAs ts f) (hs : List.Forall₂ ReadsAs tss fs) :
    ReadsAs (.mark '(' :: (ts ++ tss.flatMap (.word k.keyword :: ·) ++ [.mark ')']))
      (fs.foldl (Formula.join k) f) := by
  obtain ⟨ss, hsymbols, hreads⟩ := h
  obtain ⟨sss, hsymbols', hreads'⟩ : ∃ sss, List.Forall₂ Symbols tss sss ∧
      List.Forall₂ Reads sss fs := by
    induction hs with
    | nil => exact ⟨[], .nil, .nil⟩
    | cons h _ ih =>
      obtain ⟨us, hu, hr⟩ := h
      obtain ⟨sss, hss, hrs⟩ := ih
      exact ⟨us :: sss, .cons hu hss, .cons hr hrs⟩
  refine ⟨_, (hsymbols.members k hsymbols').parens, ?_⟩
  simpa only [List.append_assoc] using Reads.group k hreads hreads'

theorem ReadsAs.ofTokens? {ts : List Token} {f : Formula} (h : ReadsAs (significant ts) f) :
    Formula.ofTokens? ts = some f := by
  obtain ⟨ss, hsymbols, hreads⟩ := h
  have hend : EndsOperand [] := by simp [EndsOperand]
  have hall := hsymbols [] hend
  simp only [List.append_nil, symbolsFrom?, readOperand, if_true, Option.map_some] at hall
  have hrun := hreads {} [] []
  rw [List.append_nil] at hrun
  rw [Formula.ofTokens?, symbols?, hall, Option.bind_some, hrun]
  rfl

end Sql

end EventReport
