import EpaperLayout.Text.Numeral

/-!
# JSON values and their written forms

A JSON value as this library writes it: all numbers are whole, and the fields of
an object keep their order.

**Compact form.** No blanks at all.

**Pretty form.** Every item of an array and every field of an object stands on a
line of its own, two blanks deeper than the brackets around it; empty arrays and
objects are written without a line break.

In both forms a string escapes the quote, the backslash and the control
characters below the space, and shows every other character as it is.
-/

namespace EpaperLayout

/-- A JSON value with whole numbers. -/
inductive Json where
  | null
  | bool (value : Bool)
  | int (value : Int)
  | string (value : String)
  | array (items : List Json)
  | object (fields : List (String × Json))
deriving Repr, Inhabited

namespace Json

/-- The escape of one character in a string. -/
def escapeChar (c : Char) : List Char :=
  if c = '"' then ['\\', '"']
  else if c = '\\' then ['\\', '\\']
  else if c = '\n' then ['\\', 'n']
  else if c = '\r' then ['\\', 'r']
  else if c = '\t' then ['\\', 't']
  else if c.toNat = 0x08 then ['\\', 'b']
  else if c.toNat = 0x0C then ['\\', 'f']
  else if c.toNat < 0x20 then
    ['\\', 'u', '0', '0'] ++ (Text.paddedDigits 16 2 c.toNat).map Text.lowerDigit
  else [c]

/-- A string between quotes. -/
def stringChars (s : String) : List Char :=
  '"' :: s.toList.flatMap escapeChar ++ ['"']

/-- A value that is neither an array nor an object. -/
def scalarChars : Json → List Char
  | .bool true => "true".toList
  | .bool false => "false".toList
  | .int value => (toString value).toList
  | .string value => stringChars value
  | _ => "null".toList

mutual

/-- The compact form of a value. -/
def compactChars : Json → List Char
  | .array items => '[' :: compactItems items ++ [']']
  | .object fields => '{' :: compactFields fields ++ ['}']
  | value => scalarChars value

/-- The items of an array, with commas between them. -/
def compactItems : List Json → List Char
  | [] => []
  | [item] => compactChars item
  | item :: rest => compactChars item ++ ',' :: compactItems rest

/-- The fields of an object, with commas between them. -/
def compactFields : List (String × Json) → List Char
  | [] => []
  | [(key, value)] => stringChars key ++ ':' :: compactChars value
  | (key, value) :: rest =>
    stringChars key ++ ':' :: compactChars value ++ ',' :: compactFields rest

end

/-- The start of a line at the nesting depth. -/
def lineStart (depth : Nat) : List Char :=
  '\n' :: List.replicate (2 * depth) ' '

mutual

/-- The pretty form of a value that stands at the nesting depth. -/
def prettyChars (depth : Nat) : Json → List Char
  | .array [] => ['[', ']']
  | .array items => '[' :: prettyItems (depth + 1) items ++ lineStart depth ++ [']']
  | .object [] => ['{', '}']
  | .object fields => '{' :: prettyFields (depth + 1) fields ++ lineStart depth ++ ['}']
  | value => scalarChars value

/-- The items of an array on lines of their own, with commas between them. -/
def prettyItems (depth : Nat) : List Json → List Char
  | [] => []
  | [item] => lineStart depth ++ prettyChars depth item
  | item :: rest => lineStart depth ++ prettyChars depth item ++ ',' :: prettyItems depth rest

/-- The fields of an object on lines of their own, with commas between them. -/
def prettyFields (depth : Nat) : List (String × Json) → List Char
  | [] => []
  | [(key, value)] => lineStart depth ++ stringChars key ++ ':' :: ' ' :: prettyChars depth value
  | (key, value) :: rest =>
    lineStart depth ++ stringChars key ++ ':' :: ' ' :: prettyChars depth value
      ++ ',' :: prettyFields depth rest

end

/-- The text of a value on a single line. -/
def compact (value : Json) : String :=
  String.ofList value.compactChars

/-- The text of a value on indented lines. -/
def pretty (value : Json) : String :=
  String.ofList (value.prettyChars 0)

/-- A field of an object that is left out when there is no value. -/
def field? (key : String) (value : Option Json) : List (String × Json) :=
  (value.map fun present => (key, present)).toList

/-- A string, or null when there is none. -/
def ofString? : Option String → Json
  | some s => .string s
  | none => .null

/-- A whole number, or null when there is none. -/
def ofNat? : Option Nat → Json
  | some n => .int n
  | none => .null

end Json
end EpaperLayout
