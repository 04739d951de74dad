import EventReport.Json.Error

/-! # Tokens of a JSON text

`tokens` cuts a text into tokens, up to the first that cannot be finished. A text between quotes may
hold a surrogate that stands alone: no string spells it, so a reader refuses it, but whoever only
skips the text passes over it.
-/

namespace EventReport.Json

open Number

/-- A token. A broken one carries two reasons: for a reader, and for one who skips the value. -/
inductive Token where
  | openBrace
  | closeBrace
  | openBracket
  | closeBracket
  | comma
  | colon
  | null
  | bool (b : Bool)
  | number (n : Numeral)
  | text (content : Option String)
  | brokenText (read skipped : Break)
  | brokenBare (read skipped : Break)
  deriving DecidableEq, Repr

/-- A token with the text that follows it. -/
abbrev Scan := Token × List Char

/-! ## Numbers -/

/-- A number that lacks a digit: a reader sees whether the text goes on, one who skips does not. -/
def missingDigit (rest : List Char) : Scan :=
  (.brokenBare (if rest = [] then .ended else .malformed) .malformed, rest)

/-- The exponent of a number, if one follows. -/
def scanExponent (n : Numeral) : List Char → Scan
  | [] => (.number n, [])
  | c :: cs =>
    if c = 'e' ∨ c = 'E' then
      let (negative, unsigned) := spanSign cs
      let (digits, rest) := spanDigits unsigned
      if digits = [] then missingDigit rest
      else (.number { n with exponent := some (negative, digits) }, rest)
    else (.number n, c :: cs)

/-- The fraction and the exponent of a number, if they follow. -/
def scanFraction (n : Numeral) : List Char → Scan
  | '.' :: cs =>
    let (digits, rest) := spanDigits cs
    if digits = [] then missingDigit rest
    else scanExponent { n with fraction := some digits } rest
  | cs => scanExponent n cs

/-- A number after its sign. A zero stands alone before the point. -/
def scanNumber (negative : Bool) (cs : List Char) : Scan :=
  let (digits, rest) := spanDigits cs
  match digits with
  | [] => missingDigit rest
  | '0' :: _ :: _ => (.brokenBare .malformed .malformed, rest)
  | _ => scanFraction ⟨negative, digits, none, none⟩ rest

/-! ## Words -/

/-- The rest of a word that has begun. -/
def scanWord (token : Token) : (word : List Char) → List Char → Scan
  | [], cs => (token, cs)
  | _ :: _, [] => (.brokenBare .ended .ended, [])
  | w :: word, c :: cs =>
    if c = w then scanWord token word cs else (.brokenBare .malformed .malformed, cs)

/-! ## Texts -/

/-- A part of a text between quotes: a character, or one half of a surrogate pair. -/
inductive Piece where
  | char (c : Char)
  | lead (unit : Nat)
  | trail (unit : Nat)
  deriving DecidableEq, Repr

/-- The character of a surrogate pair. -/
def pairChar (lead trail : Nat) : Char :=
  Char.ofNat (0x10000 + (lead - 0xd800) * 0x400 + (trail - 0xdc00))

/-- The characters that the pieces spell, if no surrogate stands alone. -/
def spell : List Piece → Option (List Char)
  | [] => some []
  | .char c :: rest => (spell rest).map (c :: ·)
  | .lead l :: .trail t :: rest => (spell rest).map (pairChar l t :: ·)
  | .lead _ :: _ => none
  | .trail _ :: _ => none

/-- The reason a reader gives when a text breaks off after these pieces, which are given backwards:
a surrogate that stood alone came first. One half of a pair at the end is still open. -/
def breakAfter (pieces : List Piece) : Break :=
  let settled :=
    match pieces with
    | .lead _ :: before => before
    | _ => pieces
  if (spell settled.reverse).isSome then .ended else .malformed

/-- The value of a hexadecimal digit. -/
def hexDigit? (c : Char) : Option Nat :=
  if c.isDigit then some (c.toNat - '0'.toNat)
  else if 'a' ≤ c ∧ c ≤ 'f' then some (c.toNat - 'a'.toNat + 10)
  else if 'A' ≤ c ∧ c ≤ 'F' then some (c.toNat - 'A'.toNat + 10)
  else none

/-- The value of four hexadecimal digits. -/
def hexUnit? (a b c d : Char) : Option Nat := do
  return (← hexDigit? a) * 4096 + (← hexDigit? b) * 256 + (← hexDigit? c) * 16 + (← hexDigit? d)

/-- The piece that a code unit is. -/
def unitPiece (unit : Nat) : Piece :=
  if 0xd800 ≤ unit ∧ unit < 0xdc00 then .lead unit
  else if 0xdc00 ≤ unit ∧ unit < 0xe000 then .trail unit
  else .char (Char.ofNat unit)

/-- The character of an escape of one letter. -/
def escapeChar? : Char → Option Char
  | '"' => some '"'
  | '\\' => some '\\'
  | '/' => some '/'
  | 'b' => some '\x08'
  | 'f' => some '\x0c'
  | 'n' => some '\n'
  | 'r' => some '\r'
  | 't' => some '\t'
  | _ => none

/-- The bytes that a text takes up. -/
def utf8Length (cs : List Char) : Nat :=
  (String.ofList cs).utf8ByteSize

/-- A text after its opening quote; the pieces before are given backwards. An escape by number takes
four bytes, so a text that ends within them has ended too early. -/
def scanText (pieces : List Piece) : List Char → Scan
  | [] => (.brokenText (breakAfter pieces) .ended, [])
  | '"' :: rest => (.text ((spell pieces.reverse).map String.ofList), rest)
  | '\\' :: 'u' :: a :: b :: c :: d :: rest =>
    match hexUnit? a b c d with
    | some unit => scanText (unitPiece unit :: pieces) rest
    | none => (.brokenText .malformed .malformed, rest)
  | '\\' :: 'u' :: rest =>
    if utf8Length rest < 4 then (.brokenText (breakAfter pieces) .ended, [])
    else (.brokenText .malformed .malformed, [])
  | ['\\'] => (.brokenText (breakAfter pieces) .ended, [])
  | '\\' :: c :: rest =>
    match escapeChar? c with
    | some e => scanText (.char e :: pieces) rest
    | none => (.brokenText .malformed .malformed, rest)
  | c :: rest =>
    if c.toNat < 0x20 then (.brokenText .malformed .malformed, rest)
    else scanText (.char c :: pieces) rest

/-! ## The text as a whole -/

/-- The blank characters of JSON. -/
def isSpace (c : Char) : Bool :=
  c = ' ' || c = '\n' || c = '\t' || c = '\r'

/-- The token that begins with the character `c`. -/
def scanToken (c : Char) (rest : List Char) : Scan :=
  match c with
  | '\x7b' => (.openBrace, rest)
  | '\x7d' => (.closeBrace, rest)
  | '[' => (.openBracket, rest)
  | ']' => (.closeBracket, rest)
  | ',' => (.comma, rest)
  | ':' => (.colon, rest)
  | 'n' => scanWord .null ['u', 'l', 'l'] rest
  | 't' => scanWord (.bool true) ['r', 'u', 'e'] rest
  | 'f' => scanWord (.bool false) ['a', 'l', 's', 'e'] rest
  | '"' => scanText [] rest
  | '-' => scanNumber true rest
  | c =>
    if c.isDigit then scanNumber false (c :: rest) else (.brokenBare .malformed .malformed, rest)

/-- Nothing after a broken token can be read. -/
def Token.isBroken : Token → Bool
  | brokenText .. => true
  | brokenBare .. => true
  | _ => false

/-! ## Every token takes up some of the text -/

theorem length_spanDigits (cs : List Char) : (spanDigits cs).2.length ≤ cs.length := by
  simpa [spanDigits] using (List.dropWhile_suffix Char.isDigit).length_le

theorem length_spanSign (cs : List Char) : (spanSign cs).2.length ≤ cs.length := by
  unfold spanSign
  split <;> simp

theorem length_scanExponent (n : Numeral) (cs : List Char) :
    (scanExponent n cs).2.length ≤ cs.length := by
  unfold scanExponent
  split
  · simp
  · next c cs =>
    split
    · have := length_spanDigits (spanSign cs).2
      have := length_spanSign cs
      simp only [missingDigit, List.length_cons]
      split <;> simp only <;> omega
    · simp

theorem length_scanFraction (n : Numeral) (cs : List Char) :
    (scanFraction n cs).2.length ≤ cs.length := by
  unfold scanFraction
  split
  · next cs =>
    have := length_spanDigits cs
    simp only [missingDigit, List.length_cons]
    split
    · simp only; omega
    · exact Nat.le_trans (length_scanExponent _ _) (by omega)
  · exact length_scanExponent _ _

theorem length_scanNumber (negative : Bool) (cs : List Char) :
    (scanNumber negative cs).2.length ≤ (spanDigits cs).2.length := by
  unfold scanNumber
  simp only [missingDigit]
  split
  · exact Nat.le_refl _
  · exact Nat.le_refl _
  · exact length_scanFraction _ _

theorem length_scanWord (token : Token) (word cs : List Char) :
    (scanWord token word cs).2.length ≤ cs.length := by
  fun_induction scanWord token word cs <;> simp_all
  omega

theorem length_scanText (pieces : List Piece) (cs : List Char) :
    (scanText pieces cs).2.length ≤ cs.length := by
  fun_induction scanText pieces cs <;> simp_all <;> omega

theorem length_scanToken (c : Char) (rest : List Char) :
    (scanToken c rest).2.length ≤ rest.length := by
  have := length_spanDigits rest
  have := length_scanNumber true rest
  have := length_scanNumber false (c :: rest)
  unfold scanToken
  split
  any_goals exact Nat.le_refl _
  any_goals exact length_scanWord _ _ _
  · exact length_scanText _ _
  · omega
  · split
    · have : spanDigits (c :: rest) = (c :: (spanDigits rest).1, (spanDigits rest).2) := by
        simp_all [spanDigits]
      simp only [this] at *
      omega
    · exact Nat.le_refl _

/-- The tokens of a text up to the first broken one; `read` holds those before, backwards. -/
def tokensAfter (read : List Token) (cs : List Char) : List Token :=
  match _h : cs.dropWhile isSpace with
  | [] => read.reverse
  | c :: rest =>
    let scan := scanToken c rest
    if scan.1.isBroken then (scan.1 :: read).reverse else tokensAfter (scan.1 :: read) scan.2
  termination_by cs.length
  decreasing_by
    have := length_scanToken c rest
    have := (List.dropWhile_suffix (l := cs) isSpace).length_le
    simp only [_h, List.length_cons] at this
    omega

/-- The tokens of a text up to the first broken one. -/
def tokens (cs : List Char) : List Token :=
  tokensAfter [] cs

end EventReport.Json
