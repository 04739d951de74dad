import EventReport.Text.PrintTable
import EventReport.Text.Ranges

/-! # Quoted texts in messages

`quoted s` shows a text on one line between double quotes: a backslash stands before a double quote
and a backslash, four control characters have a letter or digit of their own, and every other
character that cannot be seen is written by its code point.
-/

namespace EventReport.Text

/-- The character's code point in hexadecimal, as `\u` and braces. -/
def byCodePoint (c : Char) : List Char :=
  ['\\', 'u', '\x7b'] ++ Nat.toDigits 16 c.toNat ++ ['\x7d']

/-- The spelling of one character between double quotes. -/
def quotedChar (c : Char) : List Char :=
  match c with
  | '\x00' => ['\\', '0']
  | '\t' => ['\\', 't']
  | '\r' => ['\\', 'r']
  | '\n' => ['\\', 'n']
  | '\\' => ['\\', '\\']
  | '"' => ['\\', '"']
  | c => if inRanges unprintable c then byCodePoint c else [c]

/-- The text between double quotes. -/
def quoted (s : String) : String :=
  String.ofList ('"' :: s.toList.flatMap quotedChar ++ ['"'])

end EventReport.Text
