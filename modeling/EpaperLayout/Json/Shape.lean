import EpaperLayout.Json.Draft
import EpaperLayout.Text.Quoted

/-!
# Reading values out of drafts

A *shape* says how a value of some type is written in JSON.  Reading walks
through the draft in the order of the text and answers with the first problem:
a fault of the text or a *mismatch* between the text and the shape.

**Records.** A record may be written as an object, whose fields come in any
order, or as an array of the field values in their declared order.  Every field
may occur once.  A field that is not required may be missing, in an array only
together with all fields after it.  An unknown field is a mismatch in a closed
record and is skipped in an open one.
-/

namespace EpaperLayout
namespace Json

/-- How a well-formed text differs from the shape it should have. -/
inductive Mismatch where
  | missingField (key : String)
  | duplicateField (key : String)
  | unknownField (key : String) (known : List String)
  | unknownVariant (name : String) (known : List String)
  | invalidType (found expected : String)
  | invalidValue (found : Int) (expected : String)
  | invalidLength (found : Nat) (expected : String)
  /-- A string that is no value of the type it is read as. -/
  | refused (message : String)
deriving DecidableEq, Repr

namespace Mismatch

/-- Names between backquotes, separated by commas. -/
def listed (names : List String) : String :=
  String.intercalate ", " (names.map fun name => s!"`{name}`")

/-- The message for a mismatch. -/
def message : Mismatch → String
  | .missingField key => s!"missing field `{key}`"
  | .duplicateField key => s!"duplicate field `{key}`"
  | .unknownField key known => s!"unknown field `{key}`, expected one of {listed known}"
  | .unknownVariant name known => s!"unknown variant `{name}`, expected one of {listed known}"
  | .invalidType found expected => s!"invalid type: {found}, expected {expected}"
  | .invalidValue found expected => s!"invalid value: integer `{found}`, expected {expected}"
  | .invalidLength found expected => s!"invalid length {found}, expected {expected}"
  | .refused text => text

end Mismatch

/-- Why no value is read from a text. -/
inductive ReadError where
  | fault (fault : Fault)
  | mismatch (mismatch : Mismatch)
deriving DecidableEq, Repr

/-- A way to read values of a type. -/
abbrev Reader (α : Type) :=
  Draft → Except ReadError α

/-- The description of a value in a mismatch. -/
def describe : Draft → Except Fault String
  | .null => .ok "null"
  | .bool value => .ok s!"boolean `{value}`"
  | .number numeral =>
    match numeral.number with
    | .integer value => .ok s!"integer `{value}`"
    | .double value => .ok s!"floating point `{doubleText value}`"
    | .outOfRange => .error .malformed
  | .string (some text) => .ok s!"string {Text.quoted text}"
  | .string none => .error .malformed
  | .array .. => .ok "sequence"
  | .object .. => .ok "map"
  | .broken here => .error here.seen

/-- The error for a value of another type than the expected one. -/
def wrongType (expected : String) (draft : Draft) : ReadError :=
  match describe draft with
  | .ok found => .mismatch (.invalidType found expected)
  | .error fault => .fault fault

/-- Reads a string. -/
def readText : Reader String
  | .string (some text) => .ok text
  | draft => .error (wrongType "a string" draft)

/-- Reads a whole number between two bounds. -/
def readInt (low high : Int) (expected : String) : Reader Int
  | .number numeral =>
    match numeral.number with
    | .integer value =>
      if low ≤ value ∧ value ≤ high then .ok value
      else .error (.mismatch (.invalidValue value expected))
    | _ => .error (wrongType expected (.number numeral))
  | draft => .error (wrongType expected draft)

/-- Reads an unsigned 32-bit number. -/
def readUInt32 : Reader UInt32 := fun draft =>
  (readInt 0 4294967295 "u32" draft).map fun value => UInt32.ofNat value.toNat

/-- Reads an unsigned 16-bit number. -/
def readUInt16 : Reader UInt16 := fun draft =>
  (readInt 0 65535 "u16" draft).map fun value => UInt16.ofNat value.toNat

/-- Reads a signed 32-bit number. -/
def readInt32 : Reader Int32 := fun draft =>
  (readInt (-2147483648) 2147483647 "i32" draft).map Int32.ofInt

/-- Reads a value that may be null. -/
def readOptional {α : Type} (reader : Reader α) : Reader (Option α)
  | .null => .ok none
  | draft => (reader draft).map some

/-- Reads the items of an array. -/
def readArray {α : Type} (reader : Reader α) : Reader (List α)
  | .array items ending =>
    match items.mapM reader, ending with
    | .ok values, none => .ok values
    | .ok _, some here => .error (.fault here.seen)
    | .error error, _ => .error error
  | draft => .error (wrongType "a sequence" draft)

/-- A name out of a list, read as the value that it names. -/
def variantOf {α : Type} (variants : List (String × α)) (name : String) :
    Except ReadError α :=
  match variants.lookup name with
  | some value => .ok value
  | none => .error (.mismatch (.unknownVariant name (variants.map Prod.fst)))

/-- Reads a name out of a list; an object with the name as its only key and null as its value
writes it too. -/
def readVariant {α : Type} (variants : List (String × α)) : Reader α
  | .string (some name) => variantOf variants name
  | .object ((some name, content) :: others) ending => do
    let value ← variantOf variants name
    match content with
    | .null =>
      match others, ending with
      | [], none => return value
      | [], some here => throw (.fault here.seen)
      | _ :: _, _ => throw (.fault .malformed)
    | _ => throw (wrongType "unit" content)
  | .object [] (some here) => .error (.fault here.seen)
  | .broken here => .error (.fault here.seen)
  | _ => .error (.fault .malformed)

/-- A field of a record. -/
structure Field (α : Type) where
  key : String
  /-- Whether the field must be written. -/
  required : Bool
  /-- Reads the field and puts it into the record. -/
  put : Draft → α → Except ReadError α

/-- A field whose value is put in place by `set`. -/
def Field.of {α β : Type} (key : String) (required : Bool) (reader : Reader β)
    (set : β → α → α) : Field α where
  key := key
  required := required
  put draft record := (reader draft).map fun value => set value record

/-- The shape of a record. -/
structure Record (α : Type) where
  /-- The name of the record in mismatches. -/
  name : String
  /-- Whether unknown fields are refused. -/
  closed : Bool
  fields : List (Field α)
  /-- The record before any field is put into it. -/
  blank : α

namespace Record

variable {α : Type}

/-- Reads the fields of an object into the record; `seen` holds the keys read so far. -/
def readMembers (shape : Record α) (seen : List String) (record : α) :
    List (Option String × Draft) → Except ReadError (List String × α)
  | [] => .ok (seen, record)
  | (none, _) :: _ => .error (.fault .malformed)
  | (some key, draft) :: rest =>
    match shape.fields.find? fun field => field.key == key with
    | some field =>
      if seen.contains key then .error (.mismatch (.duplicateField key))
      else
        match field.put draft record with
        | .ok updated => readMembers shape (key :: seen) updated rest
        | .error error => .error error
    | none =>
      if shape.closed then
        .error (.mismatch (.unknownField key (shape.fields.map Field.key)))
      else
        match draft.skipFault? with
        | some fault => .error (.fault fault)
        | none => readMembers shape seen record rest

/-- Reads the items of an array into the fields from number `index` on. -/
def readPositional (shape : Record α) (ending : Option Break) (record : α) :
    (index : Nat) → List (Field α) → List Draft → Except ReadError α
  | _, [], [] =>
    match ending with
    | some here => .error (.fault here.seen)
    | none => .ok record
  | _, [], _ :: _ => .error (.fault .malformed)
  | index, field :: fields, [] =>
    match ending with
    | some here => .error (.fault here.seen)
    | none =>
      if field.required then
        .error (.mismatch (.invalidLength index
          s!"{shape.name} with {shape.fields.length} elements"))
      else readPositional shape ending record (index + 1) fields []
  | index, field :: fields, item :: items =>
    match field.put item record with
    | .ok updated => readPositional shape ending updated (index + 1) fields items
    | .error error => .error error

/-- Reads a record. -/
def read (shape : Record α) : Reader α
  | .object members ending =>
    match readMembers shape [] shape.blank members, ending with
    | .error error, _ => .error error
    | .ok _, some here => .error (.fault here.seen)
    | .ok (seen, record), none =>
      match shape.fields.find? fun field => field.required && !seen.contains field.key with
      | some field => .error (.mismatch (.missingField field.key))
      | none => .ok record
  | .array items ending => readPositional shape ending shape.blank 0 shape.fields items
  | draft => .error (wrongType shape.name draft)

end Record

/-- Reads a whole text as a value. -/
def readDocument {α : Type} (reader : Reader α) (text : String) : Except ReadError α :=
  let document := Document.ofText text
  match reader document.root with
  | .ok value => if document.trailing then .error (.fault .malformed) else .ok value
  | .error error => .error error

end Json
end EpaperLayout
