import EpaperLayout.Toml.Scalar

/-!
# Reading TOML

The grammar of TOML texts.  A text is read statement by statement, and has a
table exactly if all of it is well-formed and nothing is defined twice.

**Lines.** A line ends with a line feed or with a carriage return and a line feed;
no other control character but the tabulator may stand anywhere.

**Nesting.** Arrays and tables in braces nest up to eighty levels.  Inside them
lines may end anywhere between the items, and a comma may follow the last one.

**Recursion.** The functions recurse on the number of characters, or on a number
that exceeds every chain of calls; `readTable?` supplies it from the length of
the text.
-/

namespace EpaperLayout
namespace Toml

/-- A blank between tokens. -/
def isBlank (c : Char) : Bool :=
  c = ' ' || c = '\t'

/-- A control character that may stand nowhere within a line. -/
def isRefused (c : Char) : Bool :=
  (c.toNat < 0x20 && c ≠ '\t') || c.toNat = 0x7F

/-- A character of a key without quotes. -/
def isKeyChar (c : Char) : Bool :=
  Text.isIdentifierChar c || c = '-'

/-- The text after blanks. -/
def skipBlanks (cs : List Char) : List Char :=
  cs.dropWhile isBlank

/-- The text after a line end, if it begins with one. -/
def afterLineEnd? : List Char → Option (List Char)
  | '\n' :: rest => some rest
  | '\r' :: '\n' :: rest => some rest
  | _ => none

/-- The text from the end of the line on, after blanks and a comment. -/
def toLineEnd? (cs : List Char) : Option (List Char) :=
  let rest := skipBlanks cs
  let stop := match rest with
    | '#' :: comment => comment.dropWhile fun c => !isRefused c
    | _ => rest
  if stop.isEmpty || (afterLineEnd? stop).isSome then some stop else none

/-- The character with the code point that `width` hexadecimal digits write. -/
def codePoint? (width : Nat) (cs : List Char) : Option (Char × List Char) := do
  let digits := cs.take width
  if digits.length < width then none
  let value ← Text.hexadecimal? digits
  if value.isValidChar then some (Char.ofNat value, cs.drop width) else none

/-- The character that an escape stands for; `cs` follows the backslash. -/
def escape? : List Char → Option (Char × List Char)
  | 'x' :: rest => codePoint? 2 rest
  | 'u' :: rest => codePoint? 4 rest
  | 'U' :: rest => codePoint? 8 rest
  | c :: rest =>
    (([('b', '\x08'), ('t', '\t'), ('n', '\n'), ('f', '\x0C'), ('r', '\r'), ('e', '\x1B'),
      ('"', '"'), ('\\', '\\')] : List (Char × Char)).lookup c).map fun d => (d, rest)
  | [] => none

/-- Reads a string in double quotes after its opening quote. -/
def basicString? : (count : Nat) → List Char → Option (List Char × List Char)
  | 0, _ => none
  | count + 1, cs =>
    match cs with
    | '"' :: rest => some ([], rest)
    | '\\' :: rest => do
      let (c, after) ← escape? rest
      let (text, following) ← basicString? count after
      return (c :: text, following)
    | c :: rest =>
      if isRefused c then none
      else do
        let (text, following) ← basicString? count rest
        return (c :: text, following)
    | [] => none

/-- Reads a string in single quotes after its opening quote. -/
def literalString? (cs : List Char) : Option (List Char × List Char) :=
  let text := cs.takeWhile fun c => c ≠ '\'' && !isRefused c
  match cs.drop text.length with
  | '\'' :: rest => some (text, rest)
  | _ => none

/-- The text after a line end that follows the opening quotes of a long string. -/
def dropLineEnd (cs : List Char) : List Char :=
  (afterLineEnd? cs).getD cs

/-- The text after blanks and line ends. -/
def skipBlankLines : List Char → List Char
  | '\r' :: '\n' :: rest => skipBlankLines rest
  | c :: rest => if isBlank c || c = '\n' then skipBlankLines rest else c :: rest
  | [] => []

/-- The text after blanks and line ends, if there is a line end before anything else. -/
def afterJoinedLines? (cs : List Char) : Option (List Char) := do
  return skipBlankLines (← afterLineEnd? (skipBlanks cs))

/-- Reads a long string after its opening quotes; `escapes` tells whether a backslash is special. -/
def longString? (quote : Char) (escapes : Bool) : (count : Nat) → List Char →
    Option (List Char × List Char)
  | 0, _ => none
  | count + 1, cs =>
    let continued (c : Char) (rest : List Char) : Option (List Char × List Char) := do
      let (text, following) ← longString? quote escapes count rest
      return (c :: text, following)
    match cs with
    | [] => none
    | c :: rest =>
      if c = quote then
        let quotes := cs.takeWhile (· = quote)
        if quotes.length < 3 then continued c rest
        else if 5 < quotes.length then none
        else some (quotes.drop 3, cs.drop quotes.length)
      else
        match afterLineEnd? cs with
        | some after => continued '\n' after
        | none =>
          if escapes && c = '\\' then
            match afterJoinedLines? rest with
            | some after => longString? quote escapes count after
            | none => do
              let (d, after) ← escape? rest
              continued d after
          else if isRefused c then none
          else continued c rest

/-- Reads a string of any form. -/
def string? (cs : List Char) : Option (String × List Char) := do
  let (text, rest) ← match cs with
    | '"' :: '"' :: '"' :: rest =>
      longString? '"' true (cs.length + 1) (dropLineEnd rest)
    | '\'' :: '\'' :: '\'' :: rest =>
      longString? '\'' false (cs.length + 1) (dropLineEnd rest)
    | '"' :: rest => basicString? (cs.length + 1) rest
    | '\'' :: rest => literalString? rest
    | _ => none
  return (String.ofList text, rest)

/-- Reads a key without dots. -/
def simpleKey? (cs : List Char) : Option (String × List Char) := do
  let (text, rest) ← match cs with
    | '"' :: rest => basicString? (cs.length + 1) rest
    | '\'' :: rest => literalString? rest
    | _ =>
      let text := cs.takeWhile isKeyChar
      if text.isEmpty then none else some (text, cs.dropWhile isKeyChar)
  return (String.ofList text, rest)

/-- Reads a dotted key. -/
def dottedKey? : (count : Nat) → List Char → Option (List String × List Char)
  | 0, _ => none
  | count + 1, cs => do
    let (key, rest) ← simpleKey? (skipBlanks cs)
    match skipBlanks rest with
    | '.' :: after => do
      let (keys, following) ← dottedKey? count after
      return (key :: keys, following)
    | following => return ([key], following)

/-- A character of a number, a date or a truth value. -/
def isScalarChar (c : Char) : Bool :=
  Text.isIdentifierChar c || c = '-' || c = '+' || c = '.' || c = ':'

/-- The run of characters of a scalar at the start of a text.  A blank between a date and a time
belongs to it. -/
def scalarRun (cs : List Char) : List Char :=
  let run := cs.takeWhile isScalarChar
  match cs.drop run.length with
  | ' ' :: next :: rest =>
    if (afterDate? run).any List.isEmpty && Text.isDigit next then
      run ++ ' ' :: (next :: rest).takeWhile isScalarChar
    else run
  | _ => run

/-- The text after blanks, comments and line ends. -/
def skipLines : (count : Nat) → List Char → Option (List Char)
  | 0, cs => some cs
  | count + 1, cs =>
    let rest := skipBlanks cs
    match rest with
    | '#' :: _ => do
      match ← toLineEnd? rest with
      | [] => some []
      | stop => skipLines count (dropLineEnd stop)
    | _ =>
      match afterLineEnd? rest with
      | some after => skipLines count after
      | none => some rest

/-- Deepest nesting of arrays and tables in braces. -/
def nestingLimit : Nat := 80

mutual

/-- Reads a value that stands `depth` levels deep. -/
def value? (depth : Nat) : (calls : Nat) → List Char → Option (Value × List Char)
  | 0, _ => none
  | calls + 1, cs =>
    match cs with
    | '[' :: rest => do
      if nestingLimit ≤ depth then none
      let (items, following) ← items? (depth + 1) calls rest
      return (.array items, following)
    | '{' :: rest => do
      if nestingLimit ≤ depth then none
      let (entries, following) ← pairs? (depth + 1) calls [] rest
      return (.table .closed entries, following)
    | c :: _ =>
      if c = '"' || c = '\'' then do
        let (text, following) ← string? cs
        return (.string text, following)
      else do
        let run := scalarRun cs
        return (← scalar? run, cs.drop run.length)
    | [] => none

/-- Reads the rest of an array. -/
def items? (depth : Nat) : (calls : Nat) → List Char → Option (List Value × List Char)
  | 0, _ => none
  | calls + 1, cs => do
    match ← skipLines cs.length cs with
    | ']' :: rest => return ([], rest)
    | text => do
      let (item, afterItem) ← value? depth calls text
      match ← skipLines afterItem.length afterItem with
      | ',' :: rest => do
        let (items, following) ← items? depth calls rest
        return (item :: items, following)
      | ']' :: rest => return ([item], rest)
      | _ => none

/-- Reads the rest of a table in braces after some entries. -/
def pairs? (depth : Nat) : (calls : Nat) → Entries → List Char → Option (Entries × List Char)
  | 0, _, _ => none
  | calls + 1, entries, cs => do
    match ← skipLines cs.length cs with
    | '}' :: rest => return (entries, rest)
    | text => do
      let (path, afterKey) ← dottedKey? (text.length + 1) text
      match afterKey with
      | '=' :: written => do
        let (value, afterValue) ← value? depth calls (skipBlanks written)
        let changed ← Entries.putPair value true path entries
        match ← skipLines afterValue.length afterValue with
        | ',' :: rest => pairs? depth calls changed rest
        | '}' :: rest => return (changed, rest)
        | _ => none
      | _ => none

end

/-- Reads the key of a header between its brackets. -/
def headerKey? (closing : List Char) (cs : List Char) : Option (List String × List Char) := do
  let (path, rest) ← dottedKey? (cs.length + 1) cs
  if closing.isPrefixOf rest then some (path, rest.drop closing.length) else none

/-- Reads a statement. -/
def statement? (cs : List Char) : Option (Statement × List Char) :=
  match cs with
  | '[' :: '[' :: rest => do
    let (path, following) ← headerKey? [']', ']'] rest
    return (.arrayHeader path, following)
  | '[' :: rest => do
    let (path, following) ← headerKey? [']'] rest
    return (.header path, following)
  | _ => do
    let (path, afterKey) ← dottedKey? (cs.length + 1) cs
    match afterKey with
    | '=' :: written => do
      let (value, following) ← value? 0 (2 * cs.length + 2) (skipBlanks written)
      return (.pair path value, following)
    | _ => none

/-- Reads all statements. -/
def statements? : (count : Nat) → List Char → Option (List Statement)
  | 0, _ => none
  | count + 1, cs => do
    match ← skipLines cs.length cs with
    | [] => return []
    | text => do
      let (statement, following) ← statement? text
      match ← toLineEnd? following with
      | [] => return [statement]
      | stop => return statement :: (← statements? count (dropLineEnd stop))

/-- The text without a byte order mark. -/
def dropByteOrderMark : List Char → List Char
  | c :: rest => if c.toNat = 0xFEFF then rest else c :: rest
  | [] => []

/-- The table that a text writes. -/
def readTable? (text : String) : Option Entries := do
  let cs := dropByteOrderMark text.toList
  Entries.ofStatements (← statements? (cs.length + 1) cs)

end Toml
end EpaperLayout
