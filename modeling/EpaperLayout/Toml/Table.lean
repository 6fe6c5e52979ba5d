/-!
# TOML tables

A TOML text is a sequence of statements: a *pair* gives a key its value in the
table that was opened last, a *header* opens a table, and an *array header* opens
a further table in an array of tables.  The statements put together are the
table of the whole text.

**Keys** are dotted paths.  The tables on the way are made when they are needed:
*implicit* ones by headers, *dotted* ones by pairs.

**No redefinition.** A key gets one value only.  A header opens no table that a
header or pair has made before, except an implicit one, and it does so once; a
pair adds nothing to a table that has a header of its own or was written in
braces, and puts nothing directly into an implicit one.
-/

namespace EpaperLayout
namespace Toml

/-- How a table came to be. -/
inductive TableKind where
  /-- On the way to a table with a header. -/
  | implicit
  /-- On the way of a dotted key. -/
  | dotted
  /-- By a header of its own. -/
  | explicit
  /-- Written in braces. -/
  | closed
deriving DecidableEq, Repr

/-- A TOML value.  Doubles and dates are kept as they are written. -/
inductive Value where
  | string (text : String)
  | integer (value : Int)
  | float (written : String)
  | boolean (value : Bool)
  | dateTime (written : String)
  | array (items : List Value)
  /-- An array of tables, the last one first. -/
  | tables (items : List (List (String × Value)))
  | table (kind : TableKind) (entries : List (String × Value))
deriving Repr, Inhabited

/-- The keys of a table with their values, in the order of the text. -/
abbrev Entries :=
  List (String × Value)

namespace Entries

/-- The entries with the value of a key replaced or added. -/
def set (entries : Entries) (key : String) (value : Value) : Entries :=
  match entries with
  | [] => [(key, value)]
  | (other, old) :: rest =>
    if other = key then (key, value) :: rest else (other, old) :: set rest key value

/-- Gives the last key of a dotted path its value.  `direct` tells whether the entries may hold it
themselves. -/
def putPair (value : Value) (direct : Bool) : (path : List String) → Entries → Option Entries
  | [], _ => none
  | [key], entries =>
    if !direct || (entries.lookup key).isSome then none else some (entries.set key value)
  | key :: rest, entries =>
    match entries.lookup key with
    | none => do
      let inner ← putPair value true rest []
      return entries.set key (.table .dotted inner)
    | some (.table kind inner) =>
      if kind = .explicit || kind = .closed then none
      else do
        let changed ← putPair value (kind = .dotted) rest inner
        return entries.set key (.table kind changed)
    | some (.tables (last :: others)) => do
      let changed ← putPair value false rest last
      return entries.set key (.tables (changed :: others))
    | some _ => none

/-- Changes the table that a path of headers leads to, and makes the tables on the way. -/
def within (change : Entries → Option Entries) : (path : List String) → Entries → Option Entries
  | [], entries => change entries
  | key :: rest, entries =>
    match entries.lookup key with
    | none => do return entries.set key (.table .implicit (← within change rest []))
    | some (.table kind inner) =>
      if kind = .closed then none
      else do return entries.set key (.table kind (← within change rest inner))
    | some (.tables (last :: others)) => do
      return entries.set key (.tables ((← within change rest last) :: others))
    | some _ => none

/-- Opens the table with the key. -/
def openTable (key : String) (entries : Entries) : Option Entries :=
  match entries.lookup key with
  | none => some (entries.set key (.table .explicit []))
  | some (.table .implicit inner) => some (entries.set key (.table .explicit inner))
  | some _ => none

/-- Opens a further table in the array with the key. -/
def openFurther (key : String) (entries : Entries) : Option Entries :=
  match entries.lookup key with
  | none => some (entries.set key (.tables [[]]))
  | some (.tables items) => some (entries.set key (.tables ([] :: items)))
  | some _ => none

end Entries

/-- A statement of a text. -/
inductive Statement where
  | pair (path : List String) (value : Value)
  | header (path : List String)
  | arrayHeader (path : List String)
deriving Repr

/-- A table that is being put together. -/
structure Assembly where
  root : Entries := []
  /-- The path of the table that was opened last. -/
  current : List String := []
deriving Repr

/-- Takes one statement. -/
def Assembly.take (assembly : Assembly) : Statement → Option Assembly
  | .pair path value => do
    let root ← assembly.root.within (Entries.putPair value true path) assembly.current
    return { assembly with root }
  | .header path => do
    let root ← assembly.root.within (Entries.openTable (path.getLast?.getD "")) path.dropLast
    return { root, current := path }
  | .arrayHeader path => do
    let root ← assembly.root.within (Entries.openFurther (path.getLast?.getD "")) path.dropLast
    return { root, current := path }

/-- The table of the statements; nothing if something is defined twice. -/
def Entries.ofStatements (statements : List Statement) : Option Entries :=
  (statements.foldlM Assembly.take {}).map Assembly.root

end Toml
end EpaperLayout
