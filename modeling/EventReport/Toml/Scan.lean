/-! # Characters of a TOML text

The classes of characters that the parts of a TOML text are made of, and what stands between those
parts: blanks, comments and the ends of lines. A `Scan` takes a part off the front of a text.
-/

namespace EventReport.Toml

/-- Takes a part off the front of a text and gives what follows it. -/
abbrev Scan (α : Type) := List Char → Option (α × List Char)

/-- A space or a tab. -/
def isBlank (c : Char) : Bool :=
  c = ' ' || c = '\t'

/-- The characters of a comment or of a text within one line. -/
def isPrinting (c : Char) : Bool :=
  c = '\t' || (0x20 ≤ c.toNat && c ≠ '\x7f')

/-- The text after the blanks at its front. -/
def skipBlanks (cs : List Char) : List Char :=
  cs.dropWhile isBlank

/-- The text after the line break at its front, if there is one. -/
def newline? : List Char → Option (List Char)
  | '\n' :: cs => some cs
  | '\r' :: '\n' :: cs => some cs
  | _ => none

/-- The text after the blanks and the comment at its front, if it has them. -/
def skipComment (cs : List Char) : List Char :=
  match skipBlanks cs with
  | '#' :: rest => rest.dropWhile isPrinting
  | rest => rest

/-- The text after the end of its first line, of which only blanks and a comment are left. -/
def endLine? (cs : List Char) : Option (List Char) :=
  match skipComment cs with
  | [] => some []
  | rest => newline? rest

/-- The text after the blanks, comments and line breaks at its front; at most `lines` of them. -/
def skipLines : (lines : Nat) → List Char → List Char
  | 0, cs => cs
  | lines + 1, cs =>
    match newline? (skipComment cs) with
    | some rest => skipLines lines rest
    | none => skipBlanks cs

/-- The text after the blanks, comments and line breaks at its front. -/
def skipSpace (cs : List Char) : List Char :=
  skipLines cs.length cs

/-- The text after the character `c` at its front. -/
def char? (c : Char) : List Char → Option (List Char)
  | d :: cs => if d = c then some cs else none
  | [] => none

/-- The text after the word at its front. -/
def word? : (word : List Char) → List Char → Option (List Char)
  | [], cs => some cs
  | c :: word, cs => (char? c cs).bind (word? word)

end EventReport.Toml
