import EventReport.Json.Number
import EventReport.Text.Join

/-! # JSON values

A `Value` is what a document holds, as far as the library writes documents. `Value.compact` writes
it without blanks, with the members of an object in their order.
-/

namespace EventReport.Json

/-- A value of a document. -/
inductive Value where
  | bool (b : Bool)
  | text (s : String)
  | real (x : Number.Real64)
  | array (items : List Value)
  | object (members : List (String × Value))
  deriving Repr

/-- A hexadecimal digit. -/
def hexDigit (n : Nat) : Char :=
  if n < 10 then Char.ofNat ('0'.toNat + n) else Char.ofNat ('a'.toNat + (n - 10))

/-- A character between quotes. Control characters without a letter of their own are written by
number. -/
def textChar (c : Char) : List Char :=
  match c with
  | '"' => ['\\', '"']
  | '\\' => ['\\', '\\']
  | '\x08' => ['\\', 'b']
  | '\x0c' => ['\\', 'f']
  | '\n' => ['\\', 'n']
  | '\r' => ['\\', 'r']
  | '\t' => ['\\', 't']
  | c =>
    if c.toNat < 0x20 then
      ['\\', 'u', '0', '0', hexDigit (c.toNat / 16), hexDigit (c.toNat % 16)]
    else [c]

/-- A text between quotes. -/
def writtenText (s : String) : List Char :=
  '"' :: s.toList.flatMap textChar ++ ['"']

namespace Value

mutual

/-- Writes the value. -/
def write : Value → List Char
  | bool b => (if b then "true" else "false").toList
  | text s => writtenText s
  | real x => (realText x).toList
  | array items => '[' :: writeItems items ++ [']']
  | object members => '\x7b' :: writeMembers members ++ ['\x7d']

/-- Writes the items of an array with commas between. -/
def writeItems : List Value → List Char
  | [] => []
  | [item] => write item
  | item :: next :: rest => write item ++ ',' :: writeItems (next :: rest)

/-- Writes the members of an object with commas between. -/
def writeMembers : List (String × Value) → List Char
  | [] => []
  | [(key, value)] => writtenText key ++ ':' :: write value
  | (key, value) :: next :: rest =>
    writtenText key ++ ':' :: write value ++ ',' :: writeMembers (next :: rest)

end

/-- The text of the value, without blanks. -/
def compact (v : Value) : String :=
  String.ofList v.write

end Value

end EventReport.Json
