import EventReport.Proofs.Number.Decimal
import EventReport.Proofs.Outcome
import EventReport.Proofs.Sql.Token

/-! # What quoting writes

Escaped quoting writes tokens: a literal is one token whatever its value (`isLiteral_literal`,
`isLiteral_pattern`, `isLiteral_regexp`), an accepted identifier is one word, and an accepted number
is one or two words with signs before them (`IsNumber`). -/

set_option autoImplicit false

namespace EventReport.Sql

open Number

/-! ## Tokens side by side -/

/-- A blank between two tokens. -/
abbrev Token.blank : Token := .mark ' '

/-- The tokens without blanks. -/
def significant (ts : List Token) : List Token :=
  ts.filter (· ≠ .mark ' ')

theorem significant_append (a b : List Token) :
    significant (a ++ b) = significant a ++ significant b :=
  List.filter_append ..

/-- A word, or a mark that opens no quotes. -/
def Token.isPlain : Token → Bool
  | .word text => isWordText text
  | .mark c => !isWordChar c && c ≠ '\'' && c ≠ '`'
  | _ => false

theorem Token.valid_of_isPlain {names : Bool} {t : Token} (h : t.isPlain) : t.Valid names := by
  cases t with
  | word text => exact h
  | mark c =>
    simp only [isPlain, Bool.and_eq_true, Bool.not_eq_true', decide_eq_true_eq] at h
    exact ⟨by simp [h.1.1], h.1.2, fun hc => h.2 hc.1⟩
  | _ => cases h

theorem valid_of_all_isPlain {names : Bool} {ts : List Token} (h : ts.all Token.isPlain) :
    ∀ t ∈ ts, t.Valid names :=
  fun t ht => t.valid_of_isPlain (List.all_eq_true.mp h t ht)

/-- A chain may be cut at a member that goes with every neighbour. -/
theorem isChain_append_neutral {α : Type} {R : α → α → Prop} {c : α} (hl : ∀ a, R a c)
    (hr : ∀ b, R c b) {l₁ l₂ : List α} :
    (l₁ ++ c :: l₂).IsChain R ↔ l₁.IsChain R ∧ l₂.IsChain R := by
  simp only [List.isChain_append, List.isChain_cons, List.head?_cons, Option.mem_def,
    Option.some.injEq]
  constructor
  · rintro ⟨h1, ⟨-, h2⟩, -⟩
    exact ⟨h1, h2⟩
  · rintro ⟨h1, h2⟩
    exact ⟨h1, ⟨fun b _ => hr b, h2⟩, fun a _ b hb => hb ▸ hl a⟩

theorem separated_append_cons {t : Token} (ht : ¬ t.isWord) {a b : List Token} :
    Separated (a ++ t :: b) ↔ Separated a ∧ Separated b :=
  isChain_append_neutral (fun _ h => ht h.2) fun _ h => ht h.1

theorem separated_cons {t : Token} (ht : ¬ t.isWord) {a : List Token} :
    Separated (t :: a) ↔ Separated a := by
  have := separated_append_cons (a := []) (b := a) ht
  simpa [Separated] using this

@[simp] theorem separated_nil : Separated [] := List.isChain_nil

@[simp] theorem separated_singleton (t : Token) : Separated [t] := List.isChain_singleton t

@[simp] theorem separated_append_mark {c : Char} {a b : List Token} :
    Separated (a ++ .mark c :: b) ↔ Separated a ∧ Separated b :=
  separated_append_cons (by simp [Token.isWord])

@[simp] theorem separated_mark_cons {c : Char} {a : List Token} :
    Separated (.mark c :: a) ↔ Separated a :=
  separated_cons (by simp [Token.isWord])

@[simp] theorem separated_literal_cons {text : String} {a : List Token} :
    Separated (.literal text :: a) ↔ Separated a :=
  separated_cons (by simp [Token.isWord])

@[simp] theorem separated_word_mark {text : String} {c : Char} {a : List Token} :
    Separated (.word text :: .mark c :: a) ↔ Separated a := by
  have := separated_append_mark (c := c) (a := [.word text]) (b := a)
  simpa using this

/-! ## Tokens with separators between -/

/-- Lists of tokens with `sep` between neighbours. -/
def joinTokens (sep : List Token) : List (List Token) → List Token
  | [] => []
  | [part] => part
  | part :: next :: rest => part ++ sep ++ joinTokens sep (next :: rest)

theorem flatMap_joinTokens (sep : String) {seps : List Token}
    (hsep : seps.flatMap Token.chars = sep.toList) :
    ∀ {texts : List String} {parts : List (List Token)},
      List.Forall₂ (fun text ts => ts.flatMap Token.chars = text.toList) texts parts →
        (joinTokens seps parts).flatMap Token.chars = (Text.joined sep texts).toList
  | _, _, .nil => by simp [joinTokens]
  | _, _, .cons h .nil => h
  | _, _, .cons h (.cons h' t) => by
    have ih := flatMap_joinTokens sep hsep (.cons h' t)
    simp only [joinTokens, List.flatMap_append, h, hsep, ih, Text.joined_cons_cons,
      String.toList_append]

theorem mem_joinTokens {sep : List Token} {t : Token} :
    ∀ {parts : List (List Token)}, t ∈ joinTokens sep parts →
      t ∈ sep ∨ ∃ part ∈ parts, t ∈ part
  | [], h => by simp [joinTokens] at h
  | [part], h => .inr ⟨part, List.mem_singleton_self _, h⟩
  | part :: next :: rest, h => by
    simp only [joinTokens, List.mem_append] at h
    rcases h with (h | h) | h
    · exact .inr ⟨part, List.mem_cons_self, h⟩
    · exact .inl h
    · rcases mem_joinTokens h with h | ⟨p, hp, h⟩
      · exact .inl h
      · exact .inr ⟨p, List.mem_cons_of_mem _ hp, h⟩

/-- Parts between which a separator with a mark at each end stands do not touch. -/
theorem separated_joinTokens {c d : Char} {sep : List Token} (hsep : Separated sep) :
    ∀ {parts : List (List Token)}, (∀ part ∈ parts, Separated part) →
      Separated (joinTokens (.mark c :: sep ++ [Token.mark d]) parts)
  | [], _ => separated_nil
  | [part], h => h part (List.mem_singleton_self _)
  | part :: next :: rest, h => by
    have ih := separated_joinTokens (c := c) (d := d) hsep
      fun p (hp : p ∈ next :: rest) => h p (List.mem_cons_of_mem _ hp)
    simp only [List.cons_append] at ih
    simp only [joinTokens, List.append_assoc, List.cons_append, List.nil_append,
      separated_append_mark]
    exact ⟨h part List.mem_cons_self, hsep, ih⟩

/-! ## Building spellings -/

theorem spells_nil (names : Bool) : Spells names "" [] :=
  ⟨rfl, List.forall_mem_nil _, separated_nil⟩

theorem spells_plain {names : Bool} {text : String} {ts : List Token} (hp : ts.all Token.isPlain)
    (hs : Separated ts) (hc : ts.flatMap Token.chars = text.toList) : Spells names text ts :=
  ⟨hc, valid_of_all_isPlain hp, hs⟩

/-- Texts of several things, each of which is spelled by its tokens. -/
theorem spells_map {α : Type} {names : Bool} {text : α → String} {tokens : α → List Token}
    {as : List α} (h : ∀ a ∈ as, Spells names (text a) (tokens a)) :
    List.Forall₂ (Spells names) (as.map text) (as.map tokens) :=
  List.forall₂_map_left_iff.mpr (List.forall₂_map_right_iff.mpr (List.forall₂_same.mpr h))

/-- A word or a mark at the seam keeps texts apart. -/
theorem Spells.append {names : Bool} {a b : String} {ts us : List Token} (ha : Spells names a ts)
    (hb : Spells names b us)
    (h : (∀ t ∈ ts.getLast?, ¬ t.isWord) ∨ ∀ t ∈ us.head?, ¬ t.isWord) :
    Spells names (a ++ b) (ts ++ us) := by
  refine ⟨by rw [List.flatMap_append, ha.chars, hb.chars, String.toList_append],
    List.forall_mem_append.mpr ⟨ha.valid, hb.valid⟩,
    List.isChain_append.mpr ⟨ha.separated, hb.separated, fun t ht u hu hw => ?_⟩⟩
  rcases h with h | h
  · exact h t ht hw.1
  · exact h u hu hw.2

theorem Spells.parens {names : Bool} {text : String} {ts : List Token} (h : Spells names text ts) :
    Spells names ("(" ++ text ++ ")") (.mark '(' :: (ts ++ [Token.mark ')'])) := by
  refine ⟨by simp [Token.chars, h.chars], ?_, by simpa using h.separated⟩
  simp (disch := decide) only [List.forall_mem_cons, List.forall_mem_append,
    Token.valid_of_isPlain, true_and]
  exact ⟨h.valid, List.forall_mem_nil _⟩

theorem Spells.joined {names : Bool} {sep : String} {c d : Char} {mid : List Token}
    (hsep : Spells names sep (.mark c :: mid ++ [Token.mark d])) {texts : List String}
    {parts : List (List Token)} (h : List.Forall₂ (Spells names) texts parts) :
    Spells names (Text.joined sep texts) (joinTokens (.mark c :: mid ++ [Token.mark d]) parts) := by
  have hparts : ∀ part ∈ parts, (∀ t ∈ part, t.Valid names) ∧ Separated part := by
    intro part hpart
    obtain ⟨text, -, hs⟩ := exists_of_mem_right h part hpart
    exact ⟨hs.valid, hs.separated⟩
  refine ⟨flatMap_joinTokens sep hsep.chars (h.imp fun _ _ hs => hs.chars), ?_, ?_⟩
  · intro t ht
    rcases mem_joinTokens ht with ht | ⟨part, hpart, ht⟩
    · exact hsep.valid t ht
    · exact (hparts part hpart).1 t ht
  · have hmid := hsep.separated
    simp only [List.cons_append, separated_mark_cons, separated_append_mark] at hmid
    exact separated_joinTokens hmid.1 fun part hpart => (hparts part hpart).2

/-! ## Literals -/

theorem isLiteralBody_append {a b : List Char} (ha : isLiteralBody a) (hb : isLiteralBody b) :
    isLiteralBody (a ++ b) := by
  fun_induction isLiteralBody a with
  | case1 => exact hb
  | case2 c cs ih => simpa [isLiteralBody] using ih ha
  | case3 c cs hc ih =>
    simp only [Bool.and_eq_true, decide_eq_true_eq] at ha
    obtain ⟨⟨hq, hs⟩, ha⟩ := ha
    simp [isLiteralBody, hq, hs, ih ha]

theorem isLiteralBody_flatMap {f : Char → List Char} (h : ∀ c, isLiteralBody (f c)) :
    ∀ cs : List Char, isLiteralBody (cs.flatMap f)
  | [] => rfl
  | c :: cs => by
    rw [List.flatMap_cons]
    exact isLiteralBody_append (h c) (isLiteralBody_flatMap h cs)

theorem isLiteralBody_singleton {c : Char} (hq : c ≠ '\'') (hs : c ≠ '\\') :
    isLiteralBody [c] := by
  simp [isLiteralBody, hq, hs]

theorem isLiteralBody_of_forall {cs : List Char} (h : ∀ c ∈ cs, c ≠ '\'' ∧ c ≠ '\\') :
    isLiteralBody cs := by
  induction cs with
  | nil => rfl
  | cons c cs ih =>
    obtain ⟨hc, hcs⟩ := List.forall_mem_cons.mp h
    have hone : isLiteralBody ([c] ++ cs) :=
      isLiteralBody_append (isLiteralBody_singleton hc.1 hc.2) (ih hcs)
    exact hone

theorem isLiteralBody_escapeChar (c : Char) : isLiteralBody (escapeChar c) := by
  unfold escapeChar
  split
  · rfl
  · rfl
  · rename_i hs hq
    exact isLiteralBody_singleton hq hs

theorem isLiteralBody_escapePatternChar (c : Char) : isLiteralBody (escapePatternChar c) := by
  unfold escapePatternChar
  split
  · rfl
  · rfl
  · rfl
  · rfl
  · rename_i hs _ _ hq
    exact isLiteralBody_singleton hq hs

/-- The literal of a value is one literal, whatever the value. -/
theorem isLiteral_literal (value : String) : IsLiteral (Quoting.escaped.literal value) :=
  ⟨_, isLiteralBody_flatMap isLiteralBody_escapeChar value.toList, by
    simp [Quoting.literal, escapeText]⟩

theorem isLiteral_pattern {before after : String} (hb : isLiteralBody before.toList)
    (ha : isLiteralBody after.toList) (value : String) :
    IsLiteral (Quoting.escaped.pattern before value after) :=
  ⟨_, isLiteralBody_append (isLiteralBody_append hb
      (isLiteralBody_flatMap isLiteralBody_escapePatternChar value.toList)) ha, by
    simp [Quoting.pattern, escapePattern]⟩

theorem isLiteral_regexp (expression : String) : IsLiteral (Quoting.escaped.regexp expression) :=
  isLiteral_literal expression

/-! ## Identifiers -/

theorem isWordText_of_isIdentifier {name : String} (h : isIdentifier name) : isWordText name := by
  simpa [isIdentifier, isName, isWordText, isWordChar, Bool.or_assoc] using h

theorem identifier_eq_ok {name shown : String} (h : Quoting.escaped.identifier name = .ok shown) :
    shown = name ∧ isWordText name := by
  simp only [Quoting.identifier] at h
  split at h
  · rename_i hid
    exact ⟨(pure_eq_ok.mp h).symm, isWordText_of_isIdentifier hid⟩
  · cases h

/-- An identifier that is accepted is shown as it is. -/
theorem Quoting.identifier_eq {q : Quoting} {name shown : String}
    (h : q.identifier name = .ok shown) : shown = name := by
  cases q with
  | verbatim => exact (pure_eq_ok.mp h).symm
  | escaped => exact (identifier_eq_ok h).1

/-! ## Numbers -/

/-- A word that begins with a digit or a point. -/
def IsNumeral (text : String) : Prop :=
  isWordText text ∧ ∀ c ∈ text.toList.head?, c.isDigit ∨ c = '.'

def IsSign (c : Char) : Prop := c = '+' ∨ c = '-'

/-- A number without its sign: one numeral, or two with the sign of the exponent between. -/
inductive UnsignedTokens : List Token → Prop
  | plain {numeral : String} : IsNumeral numeral → UnsignedTokens [.word numeral]
  | exponent {numeral exponent : String} {c : Char} : IsNumeral numeral → IsSign c →
      IsNumeral exponent → UnsignedTokens [.word numeral, .mark c, .word exponent]

/-- The tokens of a number. -/
inductive NumberTokens : List Token → Prop
  | unsigned {ts : List Token} : UnsignedTokens ts → NumberTokens ts
  | signed {c : Char} {ts : List Token} : IsSign c → UnsignedTokens ts →
      NumberTokens (.mark c :: ts)

theorem valid_sign {c : Char} (h : IsSign c) (names : Bool) : (Token.mark c).Valid names := by
  rcases h with rfl | rfl <;> exact ⟨by decide, by decide, by simp⟩

theorem isWordChar_of_isDigit {c : Char} (h : c.isDigit) : isWordChar c := by
  simp [isWordChar, Char.isAlphanum, h]

theorem isNumeral_ofList {cs : List Char} (hne : cs ≠ []) (hcs : ∀ c ∈ cs, isWordChar c)
    (hhead : ∀ c ∈ cs.head?, c.isDigit ∨ c = '.') : IsNumeral (String.ofList cs) := by
  refine ⟨?_, by simpa using hhead⟩
  simp only [isWordText, String.toList_ofList, Bool.and_eq_true, decide_eq_true_eq]
  exact ⟨by simpa using hne, List.all_eq_true.mpr hcs⟩

theorem mem_mantissa {mantissa whole fraction : List Char}
    (h : SpellsMantissa mantissa whole fraction) : ∀ c ∈ mantissa, c.isDigit ∨ c = '.' := by
  have hdigits : ∀ {cs : List Char}, Digits cs → ∀ c ∈ cs, c.isDigit ∨ c = '.' :=
    fun h c hc => .inl (h.isDigit c hc)
  cases h with
  | whole hwhole => exact hdigits hwhole
  | point hwhole => exact List.forall_mem_append.mpr ⟨hdigits hwhole, by simp⟩
  | both hwhole hfraction =>
    exact List.forall_mem_append.mpr
      ⟨hdigits hwhole, List.forall_mem_cons.mpr ⟨.inr rfl, hdigits hfraction⟩⟩
  | fraction hfraction => exact List.forall_mem_cons.mpr ⟨.inr rfl, hdigits hfraction⟩

theorem isNumeral_mantissa {mantissa whole fraction : List Char}
    (h : SpellsMantissa mantissa whole fraction) {rest : List Char}
    (hrest : ∀ c ∈ rest, isWordChar c) :
    IsNumeral (String.ofList (mantissa ++ rest)) := by
  have hmem := mem_mantissa h
  have hne : mantissa ≠ [] := by
    cases h with
    | whole hwhole => exact hwhole.ne_nil
    | _ => simp
  have hword : ∀ c ∈ mantissa, isWordChar c := by
    intro c hc
    rcases hmem c hc with hdigit | rfl
    · exact isWordChar_of_isDigit hdigit
    · rfl
  refine isNumeral_ofList (by simp [hne]) (List.forall_mem_append.mpr ⟨hword, hrest⟩) ?_
  rw [List.head?_append_of_ne_nil _ hne]
  exact fun c hc => hmem c (List.mem_of_mem_head? hc)

theorem isNumeral_digits {digits : List Char} (h : Digits digits) :
    IsNumeral (String.ofList digits) :=
  isNumeral_ofList h.ne_nil (fun c hc => isWordChar_of_isDigit (h.isDigit c hc))
    fun c hc => .inl (h.isDigit c (List.mem_of_mem_head? hc))

/-- A number that can be read is spelled by the tokens of a number. -/
def IsNumber (text : String) : Prop :=
  ∃ ts, NumberTokens ts ∧ ∀ names, Spells names text ts

theorem spells_numeral {text : String} (h : IsNumeral text) (names : Bool) :
    Spells names text [.word text] :=
  ⟨by simp [Token.chars], List.forall_mem_singleton.mpr h.1, separated_singleton _⟩

/-- A number without its sign: a sign of the exponent parts the numeral before it from that after
it. -/
theorem spells_unsigned {mantissa whole fraction power : List Char} {k : ℤ}
    (hmantissa : SpellsMantissa mantissa whole fraction) (hpower : SpellsPower power k) :
    ∃ ts, UnsignedTokens ts ∧ ∀ names, Spells names (String.ofList (mantissa ++ power)) ts := by
  cases hpower with
  | absent =>
    have hnil : ∀ c ∈ ([] : List Char), isWordChar c := by simp
    have hnumeral := isNumeral_mantissa hmantissa hnil
    exact ⟨_, .plain hnumeral, spells_numeral hnumeral⟩
  | @power letter sign digits s hletter hsign hdigits =>
    have hword : ∀ c ∈ [letter], isWordChar c := by
      rcases hletter with rfl | rfl <;> simp [isWordChar]
    have split : ∀ {c : Char}, IsSign c → ∃ ts, UnsignedTokens ts ∧ ∀ names,
        Spells names (String.ofList (mantissa ++ letter :: c :: digits)) ts := by
      intro c hc
      have hbefore := isNumeral_mantissa hmantissa hword
      have hafter := isNumeral_digits hdigits
      refine ⟨_, .exponent hbefore hc hafter, fun names => ⟨by simp [Token.chars], ?_, by simp⟩⟩
      exact List.forall_mem_cons.mpr ⟨hbefore.1, List.forall_mem_cons.mpr
        ⟨valid_sign hc names, List.forall_mem_singleton.mpr hafter.1⟩⟩
    cases hsign with
    | plus => exact split (.inl rfl)
    | minus => exact split (.inr rfl)
    | absent =>
      have hnumeral := isNumeral_mantissa hmantissa (List.forall_mem_append.mpr
        ⟨hword, fun c hc => isWordChar_of_isDigit (hdigits.isDigit c hc)⟩)
      exact ⟨_, .plain hnumeral, spells_numeral hnumeral⟩

/-- A sign before the tokens of a number. -/
theorem isNumber_signed {c : Char} (hc : IsSign c) {cs : List Char} {ts : List Token}
    (hts : UnsignedTokens ts) (h : ∀ names, Spells names (String.ofList cs) ts) :
    IsNumber (String.ofList (c :: cs)) := by
  refine ⟨.mark c :: ts, .signed hc hts, fun names => ?_⟩
  obtain ⟨hchars, hvalid, hsep⟩ := h names
  refine ⟨?_, List.forall_mem_cons.mpr ⟨valid_sign hc names, hvalid⟩, by simpa using hsep⟩
  rw [String.toList_ofList] at *
  rw [List.flatMap_cons, hchars]
  simp [Token.chars]

/-- A text that is accepted as a number is spelled by the tokens of one. -/
theorem isNumber_of_isFiniteNumber {cs : List Char} (h : isFiniteNumber cs) :
    IsNumber (String.ofList cs) := by
  obtain ⟨l, hl, -⟩ := isFiniteNumber_eq_true.mp h
  have hnumber := (Literal.spellsNumber_of_read? hl).1
  generalize l.value = x at hnumber
  obtain ⟨hsign, hmantissa, hpower⟩ := hnumber
  obtain ⟨ts, hts, hspells⟩ := spells_unsigned hmantissa hpower
  cases hsign with
  | absent => exact ⟨ts, .unsigned hts, hspells⟩
  | plus => exact isNumber_signed (.inl rfl) hts hspells
  | minus => exact isNumber_signed (.inr rfl) hts hspells

/-- A number consists of signs and numerals. -/
theorem NumberTokens.sign_or_numeral {ts : List Token} (h : NumberTokens ts) :
    ∀ t ∈ ts, (∃ c, IsSign c ∧ t = .mark c) ∨ ∃ text, IsNumeral text ∧ t = .word text := by
  have unsigned : ∀ {ts : List Token}, UnsignedTokens ts →
      ∀ t ∈ ts, (∃ c, IsSign c ∧ t = .mark c) ∨ ∃ text, IsNumeral text ∧ t = .word text := by
    intro ts hts t ht
    cases hts with
    | plain hn => exact .inr ⟨_, hn, List.mem_singleton.mp ht⟩
    | exponent hn hc hx =>
      simp only [List.mem_cons, List.not_mem_nil, or_false] at ht
      rcases ht with rfl | rfl | rfl
      · exact .inr ⟨_, hn, rfl⟩
      · exact .inl ⟨_, hc, rfl⟩
      · exact .inr ⟨_, hx, rfl⟩
  intro t ht
  cases h with
  | unsigned hts => exact unsigned hts t ht
  | signed hc hts =>
    rcases List.mem_cons.mp ht with rfl | ht
    · exact .inl ⟨_, hc, rfl⟩
    · exact unsigned hts t ht

def numberTokens (value : String) : List Token :=
  (tokens? true value).getD []

theorem IsNumber.tokens {value : String} (h : IsNumber value) :
    NumberTokens (numberTokens value) ∧ ∀ names, Spells names value (numberTokens value) := by
  obtain ⟨ts, hts, hs⟩ := h
  have : numberTokens value = ts := by rw [numberTokens, tokens?_of_spells (hs true)]; rfl
  rw [this]
  exact ⟨hts, hs⟩

theorem number_eq_ok {text value : String} (h : Quoting.escaped.number text = .ok value) :
    IsNumber value := by
  simp only [Quoting.number] at h
  split at h
  · rename_i hn
    obtain rfl := pure_eq_ok.mp h
    exact isNumber_of_isFiniteNumber hn
  · cases h

end EventReport.Sql
