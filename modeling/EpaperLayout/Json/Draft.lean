import EpaperLayout.Json.Number
import EpaperLayout.Text.Utf8

/-!
# JSON texts as far as they are well-formed

A *draft* is the tree of a JSON text up to the point where the text stops being
well-formed.  There the tree ends with a *break*, so a reader that walks through
a draft in the order of the text meets whatever comes first: a value that does
not suit it, or the break.

**Faults.** A break is either malformed or truncated text.  A value that is read
and a value that is skipped are held to slightly different rules: only when a
string is read must its surrogate escapes form pairs, and only when a number is
read does a text that ends inside it count as truncated.  A break therefore
names the fault of either case.

**Recursion.** Values nest without a bound.  The functions below recurse on a
number that exceeds every possible nesting; `Document.ofText` supplies it from
the length of the text.
-/

namespace EpaperLayout
namespace Json

/-- What is wrong with a text. -/
inductive Fault where
  | malformed
  | truncated
deriving DecidableEq, Repr

/-- The point where a text stops being well-formed. -/
structure Break where
  /-- The fault when the value is read. -/
  seen : Fault
  /-- The fault when the value is skipped. -/
  skipped : Fault
deriving DecidableEq, Repr

/-- A break with the same fault in both cases. -/
def Break.of (fault : Fault) : Break where
  seen := fault
  skipped := fault

/-- The tree of a text as far as it is well-formed. -/
inductive Draft where
  | null
  | bool (value : Bool)
  | number (numeral : Numeral)
  /-- A string; it has no text if one of its surrogate escapes stands alone. -/
  | string (text : Option String)
  /-- The items of an array, and the break in place of its end. -/
  | array (items : List Draft) (ending : Option Break)
  /-- The fields of an object, and the break in place of its end. -/
  | object (fields : List (Option String × Draft)) (ending : Option Break)
  /-- No value: the text is not well-formed from here on. -/
  | broken (here : Break)
deriving Repr, Inhabited

namespace Draft

mutual

/-- The first fault in a value that is skipped. -/
def skipFault? : Draft → Option Fault
  | .broken here => some here.skipped
  | .array items ending => (itemsFault? items).or (ending.map Break.skipped)
  | .object fields ending => (fieldsFault? fields).or (ending.map Break.skipped)
  | _ => none

/-- The first fault in items that are skipped. -/
def itemsFault? : List Draft → Option Fault
  | [] => none
  | item :: rest => (skipFault? item).or (itemsFault? rest)

/-- The first fault in fields that are skipped. -/
def fieldsFault? : List (Option String × Draft) → Option Fault
  | [] => none
  | (_, value) :: rest => (skipFault? value).or (fieldsFault? rest)

end

end Draft

/-- The four blanks that JSON allows between its tokens. -/
def isBlank (c : Char) : Bool :=
  c = ' ' || c = '\t' || c = '\n' || c = '\r'

/-- The text from the first character that is not a blank. -/
def skipBlanks (cs : List Char) : List Char :=
  cs.dropWhile isBlank

/-- The text after the given word, or what stands in its way. -/
def afterWord : (word : List Char) → List Char → Except Fault (List Char)
  | [], cs => .ok cs
  | _ :: _, [] => .error .truncated
  | w :: word, c :: cs => if c = w then afterWord word cs else .error .malformed

/-- What reading a string comes to. -/
inductive StringReading where
  | closed (text : Option (List Char)) (rest : List Char)
  | broken (here : Break)
deriving Repr

/-- Where a reader stands inside a string. -/
inductive StringMode where
  | plain
  | escape
  /-- Inside a code point escape, with the digits so far. -/
  | hex (digits : List Char)
deriving Repr

/-- What a reader knows inside a string. -/
structure StringState where
  mode : StringMode := .plain
  /-- A leading surrogate that waits for its partner. -/
  leading : Option Nat := none
  /-- The text so far, reversed. -/
  text : List Char := []
  /-- Whether all surrogates so far had a partner. -/
  paired : Bool := true
deriving Repr

namespace StringState

/-- Adds a character to the text; a surrogate that waits then stays alone. -/
def push (state : StringState) (c : Char) : StringState where
  text := c :: state.text
  paired := state.paired && state.leading.isNone

/-- A break with the given fault; a lone surrogate before it is found first by a reader. -/
def breakHere (state : StringState) (fault : Fault) : StringReading :=
  .broken { seen := if state.paired then fault else .malformed, skipped := fault }

/-- Adds the code unit of an escape. -/
def pushUnit (state : StringState) (unit : Nat) : StringState :=
  match state.leading with
  | some leading =>
    if 0xDC00 ≤ unit ∧ unit ≤ 0xDFFF then
      let c := Char.ofNat (0x10000 + (leading - 0xD800) * 0x400 + (unit - 0xDC00))
      { text := c :: state.text, paired := state.paired }
    else { text := state.text, paired := false }
  | none =>
    if 0xD800 ≤ unit ∧ unit ≤ 0xDBFF then
      { text := state.text, paired := state.paired, leading := some unit }
    else if 0xDC00 ≤ unit ∧ unit ≤ 0xDFFF then { text := state.text, paired := false }
    else { text := Char.ofNat unit :: state.text, paired := state.paired }

end StringState

/-- The character that a backslash and the given letter stand for. -/
def simpleEscape? (c : Char) : Option Char :=
  if c = '"' then some '"'
  else if c = '\\' then some '\\'
  else if c = '/' then some '/'
  else if c = 'b' then some '\x08'
  else if c = 'f' then some '\x0C'
  else if c = 'n' then some '\n'
  else if c = 'r' then some '\r'
  else if c = 't' then some '\t'
  else none

/-- Reads a string after its opening quote. -/
def readString (state : StringState) : List Char → StringReading
  | [] => state.breakHere .truncated
  | c :: rest =>
    match state.mode with
    | .plain =>
      if c = '"' then
        .closed (if state.paired && state.leading.isNone then some state.text.reverse else none)
          rest
      else if c = '\\' then readString { state with mode := .escape } rest
      else if c.toNat < 0x20 then state.breakHere .malformed
      else readString (state.push c) rest
    | .escape =>
      if c = 'u' then
        if Text.byteSize rest < 4 then state.breakHere .truncated
        else readString { state with mode := .hex [] } rest
      else
        match simpleEscape? c with
        | some d => readString (state.push d) rest
        | none => state.breakHere .malformed
    | .hex digits =>
      if !Text.isHexDigit c then state.breakHere .malformed
      else if digits.length < 3 then readString { state with mode := .hex (digits ++ [c]) } rest
      else readString (state.pushUnit ((Text.hexadecimal? (digits ++ [c])).getD 0)) rest

/-- The digits at the start of a text, and what follows them. -/
def takeDigits (cs : List Char) : List Char × List Char :=
  (cs.takeWhile Text.isDigit, cs.dropWhile Text.isDigit)

/-- The break at a place where a digit is missing. -/
def missingDigit : List Char → Break
  | [] => { seen := .truncated, skipped := .malformed }
  | _ :: _ => .of .malformed

/-- Reads the exponent of a numeral, if there is one. -/
def readExponent (cs : List Char) : Except Break (Option Exponent × List Char) :=
  match cs with
  | c :: rest =>
    if c = 'e' || c = 'E' then
      let (negative, rest) := match rest with
        | '-' :: rest => (true, rest)
        | '+' :: rest => (false, rest)
        | _ => (false, rest)
      match takeDigits rest with
      | ([], after) => .error (missingDigit after)
      | (digits, after) => .ok (some { negative, digits }, after)
    else .ok (none, cs)
  | [] => .ok (none, cs)

/-- Reads the fraction of a numeral, if there is one. -/
def readFraction (cs : List Char) : Except Break (Option (List Char) × List Char) :=
  match cs with
  | '.' :: rest =>
    match takeDigits rest with
    | ([], after) => .error (missingDigit after)
    | (digits, after) => .ok (some digits, after)
  | _ => .ok (none, cs)

/-- Reads a numeral after its sign. -/
def readUnsigned (negative : Bool) (cs : List Char) : Except Break (Numeral × List Char) := do
  let (whole, afterWhole) ← match takeDigits cs with
    | ([], after) => .error (missingDigit after)
    | ('0' :: _ :: _, _) => .error (.of .malformed)
    | digits => .ok digits
  let (fraction, afterFraction) ← readFraction afterWhole
  let (exponent, rest) ← readExponent afterFraction
  return ({ negative, whole, fraction, exponent }, rest)

/-- Reads a numeral. -/
def readNumeral (cs : List Char) : Except Break (Numeral × List Char) :=
  match cs with
  | '-' :: rest => readUnsigned true rest
  | _ => readUnsigned false cs

/-- A value that has been read, and the rest of the text unless it is broken. -/
structure Reading where
  draft : Draft
  rest : Option (List Char)
deriving Repr

/-- A reading that ends at a break. -/
def Reading.broken (here : Break) : Reading where
  draft := .broken here
  rest := none

/-- A word that stands for a value. -/
def readWord (word : List Char) (value : Draft) (cs : List Char) : Reading :=
  match afterWord word cs with
  | .ok rest => { draft := value, rest := some rest }
  | .error fault => .broken (.of fault)

/-- The items or fields of a container from some point on, its break, and the rest of the text. -/
structure Contents (α : Type) where
  members : List α
  ending : Option Break
  rest : Option (List Char)
deriving Repr

/-- Nothing more in a container, because it ends here. -/
def Contents.closed {α : Type} (rest : List Char) : Contents α where
  members := []
  ending := none
  rest := some rest

/-- Nothing more in a container, because the text breaks here. -/
def Contents.broken {α : Type} (here : Break) : Contents α where
  members := []
  ending := some here
  rest := none

/-- A member of a container in front of others. -/
def Contents.cons {α : Type} (member : α) (contents : Contents α) : Contents α :=
  { contents with members := member :: contents.members }

/-- A member of a container that is broken itself. -/
def Contents.last {α : Type} (member : α) : Contents α where
  members := [member]
  ending := none
  rest := none

/-- Reads the opening of a field: its key and the colon. -/
def readKey (cs : List Char) : Except (Contents (Option String × Draft))
    (Option String × List Char) :=
  match readString {} cs with
  | .broken here => .error (.broken here)
  | .closed text rest =>
    let key := text.map String.ofList
    match skipBlanks rest with
    | ':' :: after => .ok (key, after)
    | [] => .error (.last (key, .broken (.of .truncated)))
    | _ :: _ => .error (.last (key, .broken (.of .malformed)))

mutual

/-- Reads a value. -/
def readValue : (nesting : Nat) → List Char → Reading
  | 0, _ => .broken (.of .malformed)
  | nesting + 1, cs =>
    match skipBlanks cs with
    | [] => .broken (.of .truncated)
    | 'n' :: rest => readWord ['u', 'l', 'l'] .null rest
    | 't' :: rest => readWord ['r', 'u', 'e'] (.bool true) rest
    | 'f' :: rest => readWord ['a', 'l', 's', 'e'] (.bool false) rest
    | '"' :: rest =>
      match readString {} rest with
      | .closed text after => { draft := .string (text.map String.ofList), rest := some after }
      | .broken here => .broken here
    | '[' :: rest =>
      let contents := readItems nesting true rest
      { draft := .array contents.members contents.ending, rest := contents.rest }
    | '{' :: rest =>
      let contents := readFields nesting true rest
      { draft := .object contents.members contents.ending, rest := contents.rest }
    | c :: rest =>
      if c = '-' || Text.isDigit c then
        match readNumeral (c :: rest) with
        | .ok (numeral, after) => { draft := .number numeral, rest := some after }
        | .error here => .broken here
      else .broken (.of .malformed)

/-- Reads the rest of an array; `first` tells that no item came before. -/
def readItems : (nesting : Nat) → (first : Bool) → List Char → Contents Draft
  | 0, _, _ => .broken (.of .malformed)
  | nesting + 1, first, cs =>
    let item (text : List Char) : Contents Draft :=
      let reading := readValue nesting text
      match reading.rest with
      | some rest => .cons reading.draft (readItems nesting false rest)
      | none => .last reading.draft
    match skipBlanks cs with
    | [] => .broken (.of .truncated)
    | ']' :: rest => .closed rest
    | ',' :: rest =>
      if first then .last (.broken (.of .malformed))
      else
        match skipBlanks rest with
        | ']' :: _ => .broken (.of .malformed)
        | text => item text
    | text => if first then item text else .broken (.of .malformed)

/-- Reads the rest of an object; `first` tells that no field came before. -/
def readFields : (nesting : Nat) → (first : Bool) → List Char →
    Contents (Option String × Draft)
  | 0, _, _ => .broken (.of .malformed)
  | nesting + 1, first, cs =>
    let field (text : List Char) : Contents (Option String × Draft) :=
      match readKey text with
      | .error contents => contents
      | .ok (key, afterKey) =>
        let reading := readValue nesting afterKey
        match reading.rest with
        | some rest => .cons (key, reading.draft) (readFields nesting false rest)
        | none => .last (key, reading.draft)
    match skipBlanks cs with
    | [] => .broken (.of .truncated)
    | '}' :: rest => .closed rest
    | ',' :: rest =>
      if first then .broken (.of .malformed)
      else
        match skipBlanks rest with
        | '"' :: text => field text
        | [] => .broken (.of .truncated)
        | _ :: _ => .broken (.of .malformed)
    | '"' :: text => if first then field text else .broken (.of .malformed)
    | _ :: _ => .broken (.of .malformed)

end

/-- A whole text: its value, and whether anything but blanks follows it. -/
structure Document where
  root : Draft
  trailing : Bool
deriving Repr

/-- Reads a whole text. -/
def Document.ofText (text : String) : Document :=
  let cs := text.toList
  let reading := readValue (2 * cs.length + 2) cs
  match reading.rest with
  | some rest => { root := reading.draft, trailing := !(skipBlanks rest).isEmpty }
  | none => { root := reading.draft, trailing := false }

end Json
end EpaperLayout
