import EventReport.Json.Token
import EventReport.Json.Value
import EventReport.Proofs.Number.Digits

/-! # Spellings of a JSON text

`Spells` says which texts spell a list of tokens: blanks stand between the lexemes wherever one
likes, a text between quotes has its characters as they are, by letter or by number, and a number
has its exponent with either letter. The rules are those of the format and know nothing of how a
text is read.

A text is cut into the tokens that it spells (`tokens_of_spells`), and tokens that have a lexeme
each are spelt by some text (`exists_spells`). -/

set_option autoImplicit false

namespace EventReport.Json

open Number

/-! ## Lexemes -/

/-- One digit at least, and nothing else. -/
def IsDigits (cs : List Char) : Prop :=
  cs ≠ [] ∧ cs.all Char.isDigit

instance (cs : List Char) : Decidable (IsDigits cs) := by
  unfold IsDigits; infer_instance

/-- The parts of the number are digits, and a zero at the front stands alone. -/
def Numeral.Valid (n : Numeral) : Prop :=
  IsDigits n.whole ∧ (n.whole.head? = some '0' → n.whole.length = 1) ∧
    (∀ digits ∈ n.fraction, IsDigits digits) ∧ ∀ e ∈ n.exponent, IsDigits e.2

instance (n : Numeral) : Decidable n.Valid := by
  unfold Numeral.Valid; infer_instance

/-- Spells an exponent: its letter is small or large, and a plus sign can be left out. -/
inductive SpellsExponent : List Char → Option (Bool × List Char) → Prop
  | absent : SpellsExponent [] none
  | unsigned {letter : Char} (digits : List Char) : letter = 'e' ∨ letter = 'E' →
      SpellsExponent (letter :: digits) (some (false, digits))
  | plus {letter : Char} (digits : List Char) : letter = 'e' ∨ letter = 'E' →
      SpellsExponent (letter :: '+' :: digits) (some (false, digits))
  | minus {letter : Char} (digits : List Char) : letter = 'e' ∨ letter = 'E' →
      SpellsExponent (letter :: '-' :: digits) (some (true, digits))

/-- What stands before the exponent. -/
def Numeral.mantissa (n : Numeral) : List Char :=
  (if n.negative then ['-'] else []) ++ n.whole ++ (n.fraction.map ('.' :: ·)).getD []

/-- Spells a part of a text between quotes. A letter after a backslash can stand for a character,
and four hexadecimal digits can stand for any unit of a character's code. -/
inductive SpellsPiece : List Char → Piece → Prop
  | plain {c : Char} : c ≠ '"' → c ≠ '\\' → 0x20 ≤ c.toNat → SpellsPiece [c] (.char c)
  | letter {c e : Char} : escapeChar? c = some e → SpellsPiece ['\\', c] (.char e)
  | unit {a b c d : Char} {unit : Nat} : hexUnit? a b c d = some unit →
      SpellsPiece ['\\', 'u', a, b, c, d] (unitPiece unit)

inductive SpellsPieces : List Char → List Piece → Prop
  | nil : SpellsPieces [] []
  | cons {cs rest : List Char} {piece : Piece} {pieces : List Piece} : SpellsPiece cs piece →
      SpellsPieces rest pieces → SpellsPieces (cs ++ rest) (piece :: pieces)

/-- The lexemes of a token. -/
inductive Lexeme : List Char → Token → Prop
  | openBrace : Lexeme ['\x7b'] .openBrace
  | closeBrace : Lexeme ['\x7d'] .closeBrace
  | openBracket : Lexeme ['['] .openBracket
  | closeBracket : Lexeme [']'] .closeBracket
  | comma : Lexeme [','] .comma
  | colon : Lexeme [':'] .colon
  | null : Lexeme ['n', 'u', 'l', 'l'] .null
  | yes : Lexeme ['t', 'r', 'u', 'e'] (.bool true)
  | no : Lexeme ['f', 'a', 'l', 's', 'e'] (.bool false)
  | number {n : Numeral} {exponent : List Char} : n.Valid → SpellsExponent exponent n.exponent →
      Lexeme (n.mantissa ++ exponent) (.number n)
  | text {cs : List Char} {pieces : List Piece} : SpellsPieces cs pieces →
      Lexeme ('"' :: cs ++ ['"']) (.text ((spell pieces).map String.ofList))

/-- The character would go on with a number that stands before it. -/
def continuesNumber (c : Char) : Bool :=
  c.isDigit || c = '.' || c = 'e' || c = 'E'

/-- The text spells the tokens, with blanks between them. No number runs into what follows it,
which in a value is a blank, a comma or a bracket. -/
inductive Spells : List Char → List Token → Prop
  | nil {blanks : List Char} : (∀ c ∈ blanks, isSpace c) → Spells blanks []
  | cons {blanks lexeme rest : List Char} {t : Token} {ts : List Token} :
      (∀ c ∈ blanks, isSpace c) → Lexeme lexeme t →
      (∀ n, t = .number n → ∀ c ∈ rest.head?, continuesNumber c = false) → Spells rest ts →
      Spells (blanks ++ (lexeme ++ rest)) (t :: ts)

/-- A lexeme that is no number, without blanks before it. -/
theorem Spells.lexeme {lexeme rest : List Char} {t : Token} {ts : List Token}
    (h : Lexeme lexeme t) (hnumber : ∀ n, t ≠ .number n) (hrest : Spells rest ts) :
    Spells (lexeme ++ rest) (t :: ts) := by
  rw [← List.nil_append (lexeme ++ rest)]
  exact .cons nofun h (fun n hn => absurd hn (hnumber n)) hrest

/-- A lexeme of one character. -/
theorem Spells.char {c : Char} {rest : List Char} {t : Token} {ts : List Token}
    (h : Lexeme [c] t) (hnumber : ∀ n, t ≠ .number n) (hrest : Spells rest ts) :
    Spells (c :: rest) (t :: ts) :=
  .lexeme h hnumber hrest

/-! ## Numbers are read -/

theorem spanSign_of_isDigits {digits : List Char} (h : IsDigits digits) (rest : List Char) :
    spanSign (digits ++ rest) = (false, digits ++ rest) := by
  obtain ⟨hne, hdigits⟩ := h
  obtain ⟨c, cs, rfl⟩ := List.exists_cons_of_ne_nil hne
  have hc : c.isDigit := List.all_eq_true.mp hdigits c List.mem_cons_self
  unfold spanSign
  split <;> simp_all +decide

section Numbers

variable {n : Numeral} {rest : List Char} (hrest : ∀ c ∈ rest.head?, continuesNumber c = false)
include hrest

theorem scanExponent_of_none : scanExponent n rest = (.number n, rest) := by
  cases rest with
  | nil => rfl
  | cons c cs =>
    have hc := hrest c rfl
    simp only [continuesNumber, Bool.or_eq_false_iff, decide_eq_false_iff_not] at hc
    rw [scanExponent, if_neg (by simp [hc])]

/-- The digits of an exponent after its letter, with whatever sign. -/
theorem scanExponent_cons {letter : Char} {cs digits : List Char} {negative : Bool}
    (hletter : letter = 'e' ∨ letter = 'E')
    (hsign : spanSign (cs ++ rest) = (negative, digits ++ rest)) (h : IsDigits digits) :
    scanExponent n (letter :: cs ++ rest) =
      (.number { n with exponent := some (negative, digits) }, rest) := by
  have hdigits : spanDigits (digits ++ rest) = (digits, rest) :=
    spanDigits_append (List.all_eq_true.mp h.2) fun c hc => by
      have := hrest c hc
      simp only [continuesNumber, Bool.or_eq_false_iff] at this
      exact this.1.1.1
  rw [List.cons_append, scanExponent, if_pos hletter]
  simp only [hsign, hdigits]
  rw [if_neg h.1]

theorem scanExponent_spelt {cs : List Char} {e : Option (Bool × List Char)}
    (hn : n.exponent = none) (hcs : SpellsExponent cs e) (h : ∀ p ∈ e, IsDigits p.2) :
    scanExponent n (cs ++ rest) = (.number { n with exponent := e }, rest) := by
  cases hcs with
  | absent =>
    rw [List.nil_append, scanExponent_of_none hrest]
    cases n
    simp_all
  | unsigned digits hletter =>
    exact scanExponent_cons hrest hletter (spanSign_of_isDigits (h _ rfl) rest) (h _ rfl)
  | plus digits hletter => exact scanExponent_cons hrest hletter rfl (h _ rfl)
  | minus digits hletter => exact scanExponent_cons hrest hletter rfl (h _ rfl)

end Numbers

theorem notDigit_of_spellsExponent {cs rest : List Char} {e : Option (Bool × List Char)}
    (hrest : ∀ c ∈ rest.head?, continuesNumber c = false) (hcs : SpellsExponent cs e) :
    ∀ c ∈ (cs ++ rest).head?, c.isDigit = false ∧ c ≠ '.' := by
  cases hcs with
  | absent =>
    intro c hc
    have := hrest c hc
    simp only [continuesNumber, Bool.or_eq_false_iff, decide_eq_false_iff_not] at this
    exact this.1.1
  | unsigned digits hletter | plus digits hletter | minus digits hletter =>
    rintro _ ⟨⟩
    rcases hletter with rfl | rfl <;> decide

theorem scanFraction_spelt {n : Numeral} {cs rest : List Char} {fraction : Option (List Char)}
    {e : Option (Bool × List Char)} (hrest : ∀ c ∈ rest.head?, continuesNumber c = false)
    (hfraction : n.fraction = none) (hexponent : n.exponent = none) (hcs : SpellsExponent cs e)
    (hdigits : ∀ digits ∈ fraction, IsDigits digits) (he : ∀ p ∈ e, IsDigits p.2) :
    scanFraction n ((fraction.map ('.' :: ·)).getD [] ++ (cs ++ rest)) =
      (.number { n with fraction, exponent := e }, rest) := by
  have hfollow := notDigit_of_spellsExponent hrest hcs
  cases fraction with
  | none =>
    have hpoint : ∀ ds, cs ++ rest ≠ '.' :: ds := fun ds h => by
      rw [h] at hfollow
      exact (hfollow '.' rfl).2 rfl
    rw [Option.map_none, Option.getD_none, List.nil_append, scanFraction.eq_def]
    split
    · exact absurd ‹_› (hpoint _)
    · rw [scanExponent_spelt hrest hexponent hcs he]
      cases n
      simp_all
  | some digits =>
    obtain ⟨hne, hall⟩ := hdigits digits rfl
    rw [Option.map_some, Option.getD_some, List.cons_append, scanFraction]
    simp only [spanDigits_append (List.all_eq_true.mp hall) fun c hc => (hfollow c hc).1]
    rw [if_neg hne]
    exact scanExponent_spelt hrest hexponent hcs he

theorem scanNumber_spelt {n : Numeral} {cs rest : List Char} (h : n.Valid)
    (hrest : ∀ c ∈ rest.head?, continuesNumber c = false) (hcs : SpellsExponent cs n.exponent) :
    scanNumber n.negative (n.whole ++ ((n.fraction.map ('.' :: ·)).getD [] ++ (cs ++ rest))) =
      (.number n, rest) := by
  obtain ⟨⟨hne, hwhole⟩, hzero, hfraction, hexponent⟩ := h
  have hfollow : ∀ c ∈ ((n.fraction.map ('.' :: ·)).getD [] ++ (cs ++ rest)).head?,
      c.isDigit = false := by
    cases n.fraction with
    | none => exact fun c hc => (notDigit_of_spellsExponent hrest hcs c hc).1
    | some digits =>
      rintro _ ⟨⟩
      rfl
  rw [scanNumber]
  simp only [spanDigits_append (List.all_eq_true.mp hwhole) hfollow]
  split
  · exact absurd ‹_› hne
  · rename_i hdouble
    have := hzero (by rw [hdouble]; rfl)
    rw [hdouble] at this
    cases this
  · rw [scanFraction_spelt hrest rfl rfl hcs hfraction hexponent]

/-! ## Texts are read -/

/-- A character that is no quote and no backslash. -/
theorem scanText_cons {c : Char} (hquote : c ≠ '"') (hbackslash : c ≠ '\\') (pieces : List Piece)
    (rest : List Char) : scanText pieces (c :: rest) =
      if c.toNat < 0x20 then (.brokenText .malformed .malformed, rest)
      else scanText (.char c :: pieces) rest := by
  rw [scanText.eq_def]
  split <;> simp_all

theorem scanText_piece {cs : List Char} {piece : Piece} (h : SpellsPiece cs piece)
    (pieces : List Piece) (rest : List Char) :
    scanText pieces (cs ++ rest) = scanText (piece :: pieces) rest := by
  cases h with
  | plain hquote hbackslash hcontrol =>
    rw [List.singleton_append, scanText_cons hquote hbackslash, if_neg (by omega)]
  | @letter c e he =>
    have hnumber : c ≠ 'u' := by
      rintro rfl
      cases he
    rw [List.cons_append, List.singleton_append, scanText.eq_def]
    split <;> grind
  | unit hunit =>
    simp only [List.cons_append, List.nil_append]
    rw [scanText, hunit]

theorem scanText_pieces {cs : List Char} {pieces : List Piece} (h : SpellsPieces cs pieces)
    (rest : List Char) : ∀ before,
      scanText before (cs ++ '"' :: rest) =
        (.text ((spell (before.reverse ++ pieces)).map String.ofList), rest) := by
  induction h with
  | nil =>
    intro before
    rw [List.nil_append, scanText, List.append_nil]
  | cons hpiece _ ih =>
    intro before
    rw [List.append_assoc, scanText_piece hpiece, ih]
    simp

/-! ## Tokens are read -/

theorem tokensAfter_of_dropWhile_nil {read : List Token} {cs : List Char}
    (h : cs.dropWhile isSpace = []) : tokensAfter read cs = read.reverse := by
  rw [tokensAfter]
  split <;> simp_all

theorem tokensAfter_of_dropWhile_cons {read : List Token} {c : Char} {cs rest : List Char}
    (h : cs.dropWhile isSpace = c :: rest) :
    tokensAfter read cs =
      if (scanToken c rest).1.isBroken then ((scanToken c rest).1 :: read).reverse
      else tokensAfter ((scanToken c rest).1 :: read) (scanToken c rest).2 := by
  rw [tokensAfter]
  split <;> simp_all

-- What was read before is carried along untouched, so a text can be cut at any token.
theorem tokensAfter_append (earlier read : List Token) (cs : List Char) :
    tokensAfter (read ++ earlier) cs = earlier.reverse ++ tokensAfter read cs := by
  induction read, cs using tokensAfter.induct with
  | case1 read cs h =>
    rw [tokensAfter_of_dropWhile_nil h, tokensAfter_of_dropWhile_nil h, List.reverse_append]
  | case2 read cs c rest h scan hbroken =>
    rw [tokensAfter_of_dropWhile_cons h, tokensAfter_of_dropWhile_cons h, if_pos hbroken,
      if_pos hbroken, ← List.cons_append, List.reverse_append]
  | case3 read cs c rest h scan hwhole ih =>
    rw [tokensAfter_of_dropWhile_cons h, tokensAfter_of_dropWhile_cons h, if_neg hwhole,
      if_neg hwhole, ← List.cons_append, ih]

/-- One token that is not broken, after blanks. -/
theorem tokens_cons {blanks cs rest : List Char} {c : Char} {token : Token}
    (hblanks : ∀ c ∈ blanks, isSpace c) (hspace : isSpace c = false)
    (h : scanToken c cs = (token, rest)) (hwhole : token.isBroken = false) :
    tokens (blanks ++ c :: cs) = token :: tokens rest := by
  have hc : (blanks ++ c :: cs).dropWhile isSpace = c :: cs := by
    rw [List.dropWhile_append_of_pos hblanks, List.dropWhile_cons_of_neg (by simp [hspace])]
  rw [tokens, tokensAfter_of_dropWhile_cons hc, h, if_neg (by simp [hwhole])]
  exact tokensAfter_append [token] [] rest

theorem isSpace_of_isDigit {c : Char} (h : c.isDigit) : isSpace c = false := by
  cases hspace : isSpace c with
  | false => rfl
  | true =>
    simp only [isSpace, Bool.or_eq_true, decide_eq_true_eq] at hspace
    rcases hspace with ((rfl | rfl) | rfl) | rfl <;> cases h

theorem scanToken_of_isDigit {c : Char} (h : c.isDigit) (cs : List Char) :
    scanToken c cs = scanNumber false (c :: cs) := by
  unfold scanToken
  split
  any_goals cases h
  exact if_pos h

theorem tokens_of_lexeme {blanks lexeme rest : List Char} {t : Token}
    (hblanks : ∀ c ∈ blanks, isSpace c) (h : Lexeme lexeme t)
    (hrest : ∀ n, t = .number n → ∀ c ∈ rest.head?, continuesNumber c = false) :
    tokens (blanks ++ (lexeme ++ rest)) = t :: tokens rest := by
  cases h with
  | @number n exponent hn hexponent =>
    have hscan := scanNumber_spelt hn (hrest n rfl) hexponent
    have htext : n.mantissa ++ exponent ++ rest = (if n.negative then ['-'] else []) ++
        (n.whole ++ ((n.fraction.map ('.' :: ·)).getD [] ++ (exponent ++ rest))) := by
      simp [Numeral.mantissa]
    rw [htext]
    cases hnegative : n.negative with
    | true =>
      rw [hnegative] at hscan
      exact tokens_cons hblanks rfl hscan rfl
    | false =>
      -- Without a sign the number begins with its first digit.
      obtain ⟨c, cs, hwhole⟩ := List.exists_cons_of_ne_nil hn.1.1
      have hc : c.isDigit :=
        List.all_eq_true.mp hn.1.2 c (by rw [hwhole]; exact List.mem_cons_self)
      rw [hnegative, hwhole, List.cons_append] at hscan
      rw [if_neg Bool.false_ne_true, List.nil_append, hwhole, List.cons_append]
      have hdigit := (scanToken_of_isDigit hc _).trans hscan
      exact tokens_cons hblanks (isSpace_of_isDigit hc) hdigit rfl
  | text hpieces =>
    rw [List.append_assoc, List.cons_append]
    exact tokens_cons hblanks rfl (scanText_pieces hpieces rest []) rfl
  | _ => exact tokens_cons hblanks rfl rfl rfl

/-- **A text is cut into the tokens that it spells.** -/
theorem tokens_of_spells {cs : List Char} {ts : List Token} (h : Spells cs ts) :
    tokens cs = ts := by
  induction h with
  | nil hblanks =>
    exact tokensAfter_of_dropWhile_nil (List.dropWhile_eq_nil_iff.mpr hblanks)
  | cons hblanks hlexeme hrest _ ih => rw [tokens_of_lexeme hblanks hlexeme hrest, ih]

/-! ## Tokens are spelt -/

theorem hexUnit?_control :
    ∀ n < 0x20, hexUnit? '0' '0' (hexDigit (n / 16)) (hexDigit (n % 16)) = some n := by
  decide

/-- A character is spelt as it is written. -/
theorem spellsPiece_textChar (c : Char) : SpellsPiece (textChar c) (.char c) := by
  unfold textChar
  split
  any_goals exact .letter rfl
  next hquote hbackslash _ _ _ _ _ =>
  split
  · rename_i hcontrol
    have hpiece : unitPiece c.toNat = .char c := by
      rw [unitPiece, if_neg (by omega), if_neg (by omega), Char.ofNat_toNat]
    rw [← hpiece]
    exact .unit (hexUnit?_control _ hcontrol)
  · exact .plain hquote hbackslash (by omega)

theorem spellsPieces_flatMap (cs : List Char) :
    SpellsPieces (cs.flatMap textChar) (cs.map .char) := by
  induction cs with
  | nil => exact .nil
  | cons c cs ih => exact .cons (spellsPiece_textChar c) ih

theorem spell_chars (cs : List Char) : spell (cs.map .char) = some cs := by
  induction cs with
  | nil => rfl
  | cons c cs ih => rw [List.map_cons, spell, ih, Option.map_some]

theorem lexeme_writtenText (s : String) : Lexeme (writtenText s) (.text (some s)) := by
  have h := Lexeme.text (spellsPieces_flatMap s.toList)
  rwa [spell_chars, Option.map_some, String.ofList_toList] at h

/-- The token has a lexeme. -/
def Token.Spellable (t : Token) : Prop :=
  ∃ lexeme, Lexeme lexeme t

theorem spellable_number {n : Numeral} (h : n.Valid) : (Token.number n).Spellable := by
  obtain ⟨exponent, hexponent⟩ : ∃ exponent, SpellsExponent exponent n.exponent := by
    cases n.exponent with
    | none => exact ⟨_, .absent⟩
    | some e =>
      obtain ⟨_ | _, digits⟩ := e
      · exact ⟨_, .unsigned digits (.inl rfl)⟩
      · exact ⟨_, .minus digits (.inl rfl)⟩
  exact ⟨_, .number h hexponent⟩

/-- A text that no string holds is spelt by half of a surrogate pair. -/
theorem spellable_text (content : Option String) : (Token.text content).Spellable := by
  cases content with
  | none =>
    have hlead : SpellsPiece ['\\', 'u', 'd', '8', '0', '0'] (unitPiece 0xd800) :=
      .unit (by decide)
    rw [show unitPiece 0xd800 = .lead 0xd800 by decide] at hlead
    exact ⟨_, .text (.cons hlead .nil)⟩
  | some s => exact ⟨_, lexeme_writtenText s⟩

/-- Tokens can be spelt with a blank before each. -/
theorem exists_spells {ts : List Token} (h : ∀ t ∈ ts, t.Spellable) :
    ∃ cs, Spells cs ts ∧ ∀ c ∈ cs.head?, continuesNumber c = false := by
  induction ts with
  | nil => exact ⟨[], .nil nofun, nofun⟩
  | cons t ts ih =>
    obtain ⟨⟨lexeme, hlexeme⟩, hts⟩ := List.forall_mem_cons.mp h
    obtain ⟨rest, hrest, hend⟩ := ih hts
    have hblank : ∀ c ∈ [' '], isSpace c := List.forall_mem_singleton.mpr rfl
    refine ⟨[' '] ++ (lexeme ++ rest), .cons hblank hlexeme (fun _ _ => hend) hrest, ?_⟩
    rintro _ ⟨⟩
    decide

end EventReport.Json
