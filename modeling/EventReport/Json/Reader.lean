import EventReport.Json.Node

/-! # Readers

A `Reader` takes a value out of a node or gives the first fault. Every array and object that is read
uses up one of `depthLimit` levels; what is only skipped uses none. A `Layout` describes a record:
its fields in order, what each holds, and what stands in for it when it is absent. One layout reads
a record both from an object and from an array of its fields in order.
-/

namespace EventReport.Json

/-- Takes a value out of a node. -/
abbrev Reader (α : Type) := Node → Except DecodeError α

/-- The number of arrays and objects that can lie within each other in what is read. -/
def depthLimit : Nat := 127

namespace Node

/-- The fault of a node that is not what is asked for. -/
def mismatch (expected : Expected) : Node → DecodeError
  | .null => .wrongType .null expected
  | .bool b => .wrongType (.bool b) expected
  | .number n =>
    match n.value? with
    | some value => .wrongType (.number value) expected
    | none => .broken .malformed
  | .text (some s) => .wrongType (.text s) expected
  | .text none => .broken .malformed
  | .array .. => .wrongType .sequence expected
  | .object .. => .wrongType .map expected
  | .broken read _ _ => .broken read

/-- Passes over a node, which need only be well formed. -/
def skip : Reader Unit
  | .array _ (some stop) => throw (.broken stop.skipped)
  | .object _ (some stop) => throw (.broken stop.skipped)
  | .broken _ _ skipped => throw (.broken skipped)
  | _ => pure ()

end Node

/-! ## Plain values -/

/-- Reads a text. -/
def readText : Reader String
  | .text (some s) => pure s
  | node => throw (node.mismatch .text)

/-- Reads a truth value. -/
def readBool : Reader Bool
  | .bool b => pure b
  | node => throw (node.mismatch .bool)

/-- Reads a number as a floating point number. -/
def readReal : Reader Number.Real64
  | .number n =>
    match n.value?.bind NumberValue.toReal? with
    | some x => pure x
    | none => throw (.broken .malformed)
  | node => throw (node.mismatch .real)

/-- Reads a value or null. -/
def readOptional {α : Type} (reader : Reader α) : Reader (Option α)
  | .null => pure none
  | node => some <$> reader node

/-! ## Names from a fixed list -/

/-- The value of a name. -/
def lookupVariant {α : Type} (known : List (String × α)) : Option String → Except DecodeError α
  | none => throw (.broken .malformed)
  | some name =>
    match known.lookup name with
    | some value => pure value
    | none => throw (.unknownVariant name (known.map (·.1)))

/-- Makes sure that a name in an object has no value. -/
def readUnit : Reader Unit
  | .null => pure ()
  | node => throw (node.mismatch .unit)

/-- Reads a name from a list: a text, or an object with the name as its only key and no value. -/
def readVariant {α : Type} (known : List (String × α)) (depth : Nat) : Reader α
  | .text content => lookupVariant known content
  | .object members stop =>
    match depth, members, stop with
    | 0, _, _ => throw (.broken .malformed)
    | _ + 1, [], none => throw (.broken .malformed)
    | _ + 1, [], some stop => throw (.broken stop.read)
    | _ + 1, (key, node) :: more, stop => do
      let value ← lookupVariant known key
      readUnit node
      match more, stop with
      | _ :: _, _ => throw (.broken .malformed)
      | [], none => pure value
      | [], some stop => throw (.broken (if stop.comma then .malformed else stop.read))
  | .broken _ variant _ => throw (.broken variant)
  | _ => throw (.broken .malformed)

/-! ## Sequences -/

/-- Reads an array by reading each of its items. -/
def readEach {α : Type} (item : Reader α) : Reader (List α)
  | .array items stop => do
    let values ← items.mapM item
    match stop with
    | none => pure values
    | some stop => throw (.broken stop.read)
  | node => throw (node.mismatch .sequence)

/-- The reader of an array where no level is left. -/
def readTooDeepList {α : Type} : Reader (List α)
  | .array .. => throw (.broken .malformed)
  | node => throw (node.mismatch .sequence)

/-- Reads an array, its items with the levels that it leaves. -/
def readList {α : Type} (item : Nat → Reader α) : Nat → Reader (List α)
  | 0 => readTooDeepList
  | depth + 1 => readEach (item depth)

/-! ## Records -/

/-- What stands in for a field that is absent: nothing; a value, where the record is an object; or a
value in both forms of the record. -/
inductive Absence (α : Type) where
  | required
  | inObject (value : α)
  | always (value : α)

/-- A record: its name, its fields in order, their labels and readers, what stands in for those that
are absent, and how it is put together from a supply of its fields. -/
structure Layout (α : Type) where
  name : String
  Field : Type
  decEq : DecidableEq Field
  fields : List Field
  label : Field → String
  Value : Field → Type
  reader : (f : Field) → Reader (Value f)
  absence : (f : Field) → Absence (Value f)
  build : ((f : Field) → Except DecodeError (Value f)) → Except DecodeError α

namespace Layout

variable {α : Type} (layout : Layout α)

/-- The fields that have been read. -/
def Draft := (f : layout.Field) → Option (layout.Value f)

/-- No field has been read. -/
def Draft.empty : layout.Draft := fun _ => none

variable {layout} in
/-- The draft with one field more. -/
def Draft.set (draft : layout.Draft) (f : layout.Field) (value : layout.Value f) : layout.Draft :=
  fun g => match layout.decEq f g with
    | isTrue h => some (h ▸ value)
    | isFalse _ => draft g

/-- The field with a label. -/
def field? (key : String) : Option layout.Field :=
  layout.fields.find? fun f => layout.label f = key

/-- Reads the members of an object in order. A label that is no field's is passed over, a label that
comes twice is a fault when it comes again. -/
def readMembers (draft : layout.Draft) :
    List (Option String × Node) → Except DecodeError layout.Draft
  | [] => pure draft
  | (none, _) :: _ => throw (.broken .malformed)
  | (some key, node) :: rest =>
    match layout.field? key with
    | none => do
      node.skip
      readMembers draft rest
    | some f =>
      if (draft f).isSome then throw (.duplicateField key)
      else do
        let value ← layout.reader f node
        readMembers (draft.set f value) rest

/-- A field of a record in the form of an object. -/
def memberOr (draft : layout.Draft) (f : layout.Field) : Except DecodeError (layout.Value f) :=
  match draft f, layout.absence f with
  | some value, _ => pure value
  | none, .inObject value => pure value
  | none, .always value => pure value
  | none, .required => throw (.missingField (layout.label f))

/-- Reads the items of an array as fields in order. -/
def readItems (draft : layout.Draft) (stop : Option Stop) :
    List layout.Field → List Node → Except DecodeError layout.Draft
  | [], _ :: _ => throw (.broken .malformed)
  | _, [] =>
    match stop with
    | none => pure draft
    | some stop => throw (.broken stop.read)
  | f :: fields, node :: rest => do
    let value ← layout.reader f node
    readItems (draft.set f value) stop fields rest

/-- The place of a field among the fields. -/
def place (f : layout.Field) : Nat :=
  layout.fields.findIdx fun g => (layout.decEq f g).decide

/-- A field of a record in the form of an array. -/
def itemOr (draft : layout.Draft) (f : layout.Field) : Except DecodeError (layout.Value f) :=
  match draft f, layout.absence f with
  | some value, _ => pure value
  | none, .always value => pure value
  | none, _ => throw (.wrongLength (layout.place f) layout.name layout.fields.length)

/-- Reads a record from an object or an array. -/
def read : Reader α
  | .object members stop => do
    let draft ← layout.readMembers (.empty layout) members
    match stop with
    | none => layout.build (layout.memberOr draft)
    | some stop => throw (.broken stop.read)
  | .array items stop => do
    let draft ← layout.readItems (.empty layout) stop layout.fields items
    layout.build (layout.itemOr draft)
  | node => throw (node.mismatch (.record layout.name))

end Layout

/-- The reader of a record where no level is left. -/
def readTooDeep {α : Type} (name : String) : Reader α
  | .object .. => throw (.broken .malformed)
  | .array .. => throw (.broken .malformed)
  | node => throw (node.mismatch (.record name))

/-- Reads a record with the layout for the levels that it leaves. -/
def readRecord {α : Type} (name : String) (layout : Nat → Layout α) : Nat → Reader α
  | 0 => readTooDeep name
  | depth + 1 => (layout depth).read

/-- Reads a whole text. -/
def decode {α : Type} (reader : Nat → Reader α) (text : String) : Except DecodeError α :=
  (Document.ofText text.toList).read (reader depthLimit)

end EventReport.Json
