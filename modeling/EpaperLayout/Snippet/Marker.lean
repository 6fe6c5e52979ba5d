import EpaperLayout.Snippet.Escape
import EpaperLayout.Text.Quoted
import EpaperLayout.Text.Word

/-!
# Markers

A marker is a line comment that carries data: after optional blanks an at sign
and one of three tags, then *fields* `key=value` separated by blanks.  A key
consists of ASCII letters, digits and underscores.  A value is either a bare
word, which holds no blank, quote or backslash, or escaped text in double quotes.
No key may occur twice.

**Reading.** `Marker.ofComment` answers with nothing for a comment that is no
marker, with the first error for a marker whose fields cannot be read, and else
with the tag and the fields in their order, values unescaped.

**Writing.** A marker line consists of the slashes, the tag and the fields, each
written `Bare` or `Quoted` as its writer chooses.
-/

namespace EpaperLayout
namespace Snippet

/-- What a marker describes. -/
inductive MarkerTag where
  /-- The device, once in a routine. -/
  | device
  /-- A page, once in a branch. -/
  | page
  /-- A widget. -/
  | widget
deriving DecidableEq, Repr

namespace MarkerTag

/-- All tags. -/
def all : List MarkerTag :=
  [.device, .page, .widget]

/-- The name of a tag. -/
def name : MarkerTag → String
  | .device => "device"
  | .page => "page"
  | .widget => "widget"

/-- The tag as it stands in a marker. -/
def text (tag : MarkerTag) : String :=
  s!"@{tag.name}"

/-- The tag with the given name. -/
def ofName? (s : String) : Option MarkerTag :=
  all.find? fun tag => tag.name == s

/-- The message for a name that no tag has. -/
def unknownMessage (s : String) : String :=
  s!"unknown marker tag '@{s}'"

end MarkerTag

/-- A key with its value. -/
abbrev MarkerField :=
  String × String

/-- Why the fields of a marker cannot be read. -/
inductive FieldError where
  | expectedName (rest : String)
  | expectedEquals (key : String)
  | unterminated (key : String)
  | badEscape (key : String) (error : EscapeError)
  | unexpectedInBare (c : Char) (key : String)
  | missingValue (key : String)
  | unexpectedAfter (c : Char) (key : String)
  | repeated (key : String)
deriving DecidableEq, Repr

/-- The message for fields that cannot be read. -/
def FieldError.message : FieldError → String
  | .expectedName rest => s!"expected a field name at {Text.quoted rest}"
  | .expectedEquals key => s!"expected '=' after field '{key}'"
  | .unterminated key => s!"unterminated string in field '{key}'"
  | .badEscape key error => s!"field '{key}': {error.message}"
  | .unexpectedInBare c key => s!"unexpected '{c}' in unquoted field '{key}'"
  | .missingValue key => s!"missing value for field '{key}'"
  | .unexpectedAfter c key => s!"unexpected '{c}' after field '{key}'"
  | .repeated key => s!"field '{key}' appears more than once"

/-- The escaped text up to the closing quote, and what follows the quote; nothing if there is no
closing quote. -/
def splitAtQuote? : List Char → Option (List Char × List Char)
  | [] => none
  | c :: rest =>
    if c = '"' then some ([], rest)
    else if c = '\\' then
      match rest with
      | [] => none
      | d :: after =>
        match splitAtQuote? after with
        | some (raw, following) => some (c :: d :: raw, following)
        | none => none
    else
      match splitAtQuote? rest with
      | some (raw, following) => some (c :: raw, following)
      | none => none

/-- A character that no bare value holds. -/
def isRefusedInBare (c : Char) : Bool :=
  c = '"' || c = '\\'

/-- Reads the value of the field with the given key, and what follows it. -/
def readValue (key : String) (cs : List Char) : Except FieldError (String × List Char) :=
  match cs with
  | '"' :: rest =>
    match splitAtQuote? rest with
    | none => .error (.unterminated key)
    | some (raw, following) =>
      match unescapeChars raw with
      | .error error => .error (.badEscape key error)
      | .ok value => .ok (String.ofList value, following)
  | _ =>
    let value := cs.takeWhile fun c => !Text.isBlank c
    let following := cs.dropWhile fun c => !Text.isBlank c
    match value.find? isRefusedInBare with
    | some c => .error (.unexpectedInBare c key)
    | none =>
      if value.isEmpty then .error (.missingValue key)
      else .ok (String.ofList value, following)

/-- Reads the field at the start of a text, and what follows it. -/
def readField (cs : List Char) : Except FieldError (MarkerField × List Char) :=
  let name := cs.takeWhile Text.isIdentifierChar
  let key := String.ofList name
  if name.isEmpty then .error (.expectedName (String.ofList cs))
  else
    match cs.dropWhile Text.isIdentifierChar with
    | '=' :: rest =>
      match readValue key rest with
      | .error error => .error error
      | .ok (value, []) => .ok ((key, value), [])
      | .ok (value, c :: following) =>
        if Text.isBlank c then .ok ((key, value), c :: following)
        else .error (.unexpectedAfter c key)
    | _ => .error (.expectedEquals key)

/-- What follows a closing quote is shorter than the text. -/
theorem splitAtQuote?_length {cs raw following : List Char}
    (h : splitAtQuote? cs = some (raw, following)) : following.length < cs.length := by
  fun_induction splitAtQuote? cs generalizing raw following <;> grind

/-- What follows a value is no longer than the text. -/
theorem readValue_length {key value : String} {cs following : List Char}
    (h : readValue key cs = .ok (value, following)) : following.length ≤ cs.length := by
  unfold readValue at h
  split at h
  · next rest =>
    split at h
    · simp at h
    · next raw after heq =>
      split at h
      · simp at h
      · simp only [Except.ok.injEq, Prod.mk.injEq] at h
        have := splitAtQuote?_length heq
        simp only [List.length_cons, ← h.2]
        omega
  · simp only at h
    split at h
    · simp at h
    · split at h
      · simp at h
      · simp only [Except.ok.injEq, Prod.mk.injEq] at h
        rw [← h.2]
        exact (List.dropWhile_sublist _).length_le

/-- What follows a field is shorter than the text. -/
theorem readField_length {field : MarkerField} {cs following : List Char}
    (h : readField cs = .ok (field, following)) : following.length < cs.length := by
  unfold readField at h
  simp only at h
  split at h
  · simp at h
  · split at h
    · next rest heq =>
      have hdrop : (cs.dropWhile Text.isIdentifierChar).length ≤ cs.length :=
        (List.dropWhile_sublist _).length_le
      rw [heq, List.length_cons] at hdrop
      split at h
      · simp at h
      · next value hvalue =>
        have := readValue_length hvalue
        simp only [Except.ok.injEq, Prod.mk.injEq] at h
        rw [← h.2]
        omega
      · next value c after hvalue =>
        have := readValue_length hvalue
        split at h
        · simp only [Except.ok.injEq, Prod.mk.injEq] at h
          rw [← h.2]
          omega
        · simp at h
    · simp at h

/-- Reads the fields of a text after the fields `earlier`. -/
def readFieldsAfter (earlier : List MarkerField) (cs : List Char) :
    Except FieldError (List MarkerField) :=
  match _htrim : Text.trimLeft cs with
  | [] => .ok []
  | c :: rest =>
    match _hfield : readField (c :: rest) with
    | .error error => .error error
    | .ok (field, following) =>
      if earlier.any fun known => known.1 == field.1 then .error (.repeated field.1)
      else
        match readFieldsAfter (earlier ++ [field]) following with
        | .ok fields => .ok (field :: fields)
        | .error error => .error error
termination_by cs.length
decreasing_by
  have hlt := readField_length _hfield
  have hle : (Text.trimLeft cs).length ≤ cs.length := (List.dropWhile_sublist _).length_le
  rw [_htrim] at hle
  omega

/-- Reads the fields of a text. -/
def readFields (cs : List Char) : Except FieldError (List MarkerField) :=
  readFieldsAfter [] cs

/-- A tag with its fields. -/
structure Marker where
  tag : MarkerTag
  fields : List MarkerField
deriving DecidableEq, Repr

namespace Marker

/-- The tag at the start of a text and what follows it, if the name of the tag ends a word. -/
def splitTag? (cs : List Char) : Option (MarkerTag × List Char) :=
  MarkerTag.all.findSome? fun tag =>
    let name := tag.name.toList
    if name.isPrefixOf cs && Text.endsWord (cs.drop name.length) then
      some (tag, cs.drop name.length)
    else none

/-- Reads the text of a line comment; nothing if it is no marker. -/
def ofComment (body : List Char) : Option (Except FieldError Marker) :=
  match Text.trimLeft body with
  | '@' :: rest =>
    match splitTag? rest with
    | some (tag, fields) =>
      if fields.contains '\n' then none
      else some ((readFields fields).map fun fields => { tag, fields })
    | none => none
  | _ => none

/-- The value of the field with the given key. -/
def get? (marker : Marker) (key : String) : Option String :=
  marker.fields.lookup key

end Marker

/-- The way a field is written. -/
inductive WrittenField where
  | bare (key value : String)
  | escaped (key value : String)
deriving DecidableEq, Repr

/-- The text of a field with the blank before it. -/
def WrittenField.text : WrittenField → String
  | .bare key value => s!" {key}={value}"
  | .escaped key value => s!" {key}=" ++ stringLiteral value

/-- The line of a marker. -/
def markerLine (tag : MarkerTag) (fields : List WrittenField) : String :=
  s!"// {tag.text}" ++ String.join (fields.map WrittenField.text)

end Snippet
end EpaperLayout
