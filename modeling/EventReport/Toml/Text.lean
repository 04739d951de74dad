import EventReport.Json.Token
import EventReport.Toml.Scan

/-! # Texts in TOML

A text stands between quotes or between apostrophes, one of them for a text within one line and
three for a text of several lines. Between quotes a backslash begins an escape.
-/

namespace EventReport.Toml

/-- The character of an escape of one letter. -/
def escapeChar? : Char → Option Char
  | 'b' => some '\x08'
  | 't' => some '\t'
  | 'n' => some '\n'
  | 'f' => some '\x0c'
  | 'r' => some '\r'
  | '"' => some '"'
  | '\\' => some '\\'
  | _ => none

/-- The character that hexadecimal digits number, if there is one. -/
def numberedChar? (digits : List Char) : Option Char := do
  let values ← digits.mapM Json.hexDigit?
  let n := values.foldl (fun n d => n * 16 + d) 0
  if n.isValidChar then some (Char.ofNat n) else none

/-- The text that follows a character. -/
def after (c : Char) (rest : Option (List Char × List Char)) : Option (List Char × List Char) :=
  rest.map fun (cs, rest) => (c :: cs, rest)

/-- Reads a text within one line after its opening quote. -/
def readBasic : Scan (List Char)
  | [] => none
  | '"' :: rest => some ([], rest)
  | '\\' :: 'u' :: a :: b :: c :: d :: rest => do
    let e ← numberedChar? [a, b, c, d]
    after e (readBasic rest)
  | '\\' :: 'U' :: a :: b :: c :: d :: e :: f :: g :: h :: rest => do
    let i ← numberedChar? [a, b, c, d, e, f, g, h]
    after i (readBasic rest)
  | '\\' :: c :: rest => do
    let e ← escapeChar? c
    after e (readBasic rest)
  | c :: rest => if isPrinting c && c ≠ '\\' then after c (readBasic rest) else none

/-- A line break comes next, after blanks. -/
def endsLine (cs : List Char) : Bool :=
  (newline? (skipBlanks cs)).isSome

/-- Reads a text of several lines after its opening quotes. Up to two quotes can stand before those
that close it. A backslash at the end of a line takes away blanks and line breaks up to the next
character; while it does, `skipping` holds. -/
def readBasicLines (skipping : Bool) : Scan (List Char)
  | [] => none
  | '"' :: '"' :: '"' :: '"' :: '"' :: rest => some (['"', '"'], rest)
  | '"' :: '"' :: '"' :: '"' :: rest => some (['"'], rest)
  | '"' :: '"' :: '"' :: rest => some ([], rest)
  | '\\' :: 'u' :: a :: b :: c :: d :: rest => do
    let e ← numberedChar? [a, b, c, d]
    after e (readBasicLines false rest)
  | '\\' :: 'U' :: a :: b :: c :: d :: e :: f :: g :: h :: rest => do
    let i ← numberedChar? [a, b, c, d, e, f, g, h]
    after i (readBasicLines false rest)
  | '\\' :: c :: rest =>
    match escapeChar? c with
    | some e => after e (readBasicLines false rest)
    | none =>
      if c = '\n' || c = '\r' && rest.head? = some '\n' || isBlank c && endsLine rest then
        readBasicLines true rest
      else none
  | '\r' :: '\n' :: rest =>
    if skipping then readBasicLines true rest else after '\n' (readBasicLines false rest)
  | c :: rest =>
    if skipping && (isBlank c || c = '\n') then readBasicLines true rest
    else if (isPrinting c && c ≠ '\\') || c = '\n' then after c (readBasicLines false rest)
    else none

/-- Reads a text within one line after its opening apostrophe. -/
def readLiteral : Scan (List Char)
  | [] => none
  | '\'' :: rest => some ([], rest)
  | c :: rest => if isPrinting c then after c (readLiteral rest) else none

/-- Reads a text of several lines after its opening apostrophes. -/
def readLiteralLines : Scan (List Char)
  | [] => none
  | '\'' :: '\'' :: '\'' :: '\'' :: '\'' :: rest => some (['\'', '\''], rest)
  | '\'' :: '\'' :: '\'' :: '\'' :: rest => some (['\''], rest)
  | '\'' :: '\'' :: '\'' :: rest => some ([], rest)
  | '\r' :: '\n' :: rest => after '\n' (readLiteralLines rest)
  | c :: rest => if isPrinting c || c = '\n' then after c (readLiteralLines rest) else none

/-- The text without a line break at its front. -/
def skipNewline (cs : List Char) : List Char :=
  (newline? cs).getD cs

/-- Reads a text. -/
def readText : Scan String := fun cs =>
  let found :=
    match cs with
    | '"' :: '"' :: '"' :: rest => readBasicLines false (skipNewline rest)
    | '"' :: rest => readBasic rest
    | '\'' :: '\'' :: '\'' :: rest => readLiteralLines (skipNewline rest)
    | '\'' :: rest => readLiteral rest
    | _ => none
  found.map fun (content, rest) => (String.ofList content, rest)

/-! ## Keys -/

/-- The characters of a key without quotes. -/
def isBareKey (c : Char) : Bool :=
  c.isAlphanum || c = '_' || c = '-'

/-- Reads one part of a key. -/
def readKeyPart : Scan String
  | '"' :: rest => (readBasic rest).map fun (content, rest) => (String.ofList content, rest)
  | '\'' :: rest => (readLiteral rest).map fun (content, rest) => (String.ofList content, rest)
  | cs =>
    match cs.takeWhile isBareKey with
    | [] => none
    | content => some (String.ofList content, cs.dropWhile isBareKey)

/-- The number of parts that a key must stay below. -/
def keyPartLimit : Nat := 80

/-- Reads at most `parts` parts of a key, with dots between and blanks around them. -/
def readParts : (parts : Nat) → Scan (List String)
  | 0, _ => none
  | parts + 1, cs => do
    let (part, rest) ← readKeyPart (skipBlanks cs)
    match skipBlanks rest with
    | '.' :: rest =>
      let (more, rest) ← readParts parts rest
      return (part :: more, rest)
    | rest => return ([part], rest)

/-- Reads a key. -/
def readKey : Scan (List String) :=
  readParts (keyPartLimit - 1)

end EventReport.Toml
