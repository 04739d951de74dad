import EventReport.Json.Number
import EventReport.Text.Join
import EventReport.Text.Quoted

/-! # Faults of a JSON document

A `DecodeError` is the first fault that a reader of a document meets: the text breaks off or is no
JSON (`Break`), or it holds something other than what is asked for. `DecodeError.message` words it.
-/

namespace EventReport.Json

open Number

/-- Why a text cannot be read on: it is no JSON at this place, or it ends too early. -/
inductive Break where
  | malformed
  | ended
  deriving DecidableEq, Repr

/-- What stands in a document where something else is asked for. -/
inductive Found where
  | null
  | bool (b : Bool)
  | number (value : NumberValue)
  | text (s : String)
  | sequence
  | map
  deriving DecidableEq, Repr

/-- What a reader asks for. -/
inductive Expected where
  | text
  | bool
  | sequence
  | real
  | unit
  | record (name : String)
  deriving DecidableEq, Repr

/-- The first fault that a reader meets. -/
inductive DecodeError where
  | broken (reason : Break)
  | wrongType (found : Found) (expected : Expected)
  | missingField (label : String)
  | duplicateField (label : String)
  | wrongLength (count : Nat) (record : String) (fields : Nat)
  | unknownVariant (name : String) (known : List String)
  deriving DecidableEq, Repr

namespace Break

/-- The reason in words. -/
def message : Break → String
  | malformed => "malformed JSON"
  | ended => "unexpected end of JSON"

end Break

namespace Found

/-- Names the value found. -/
def message : Found → String
  | null => "null"
  | bool b => "boolean `" ++ (if b then "true" else "false") ++ "`"
  | number (.integer i) => "integer `" ++ toString i ++ "`"
  | number (.real x) => "floating point `" ++ realText x ++ "`"
  | text s => "string " ++ Text.quoted s
  | sequence => "sequence"
  | map => "map"

end Found

namespace Expected

/-- Names what is asked for. -/
def message : Expected → String
  | text => "a string"
  | bool => "a boolean"
  | sequence => "a sequence"
  | real => "f64"
  | unit => "unit"
  | record name => "struct " ++ name

end Expected

namespace DecodeError

/-- Words the fault. -/
def message : DecodeError → String
  | broken reason => reason.message
  | wrongType found expected =>
    "invalid type: " ++ found.message ++ ", expected " ++ expected.message
  | missingField label => "missing field `" ++ label ++ "`"
  | duplicateField label => "duplicate field `" ++ label ++ "`"
  | wrongLength count record fields =>
    "invalid length " ++ toString count ++ ", expected struct " ++ record ++ " with " ++
      toString fields ++ (if fields = 1 then " element" else " elements")
  | unknownVariant name known =>
    "unknown variant `" ++ name ++ "`, expected one of " ++
      Text.joined ", " (known.map fun k => "`" ++ k ++ "`")

end DecodeError

end EventReport.Json
