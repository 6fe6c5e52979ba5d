import EpaperLayout.Layout.Page

/-!
# Validation reports

A report lists what is wrong with a layout.  A *problem* makes the layout
unusable; it has a kind, a message, the place where it was found and sometimes
a suggestion.  A *warning* is only a remark.  A layout is valid when its report
has no problem.
-/

namespace EpaperLayout

/-- The kinds of problems. -/
inductive ProblemKind where
  | emptyDevice
  | missingIdentifier
  | ordinalMismatch
  | duplicateIdentifier
  | outOfBounds
  | zeroSize
  | missingDataPoint
  | invalidDataPoint
  | styleKeyNotAllowed
  | invalidStyleValue
deriving DecidableEq, Repr

namespace ProblemKind

/-- All kinds in the order of their declaration. -/
def all : List ProblemKind :=
  [.emptyDevice, .missingIdentifier, .ordinalMismatch, .duplicateIdentifier, .outOfBounds,
    .zeroSize, .missingDataPoint, .invalidDataPoint, .styleKeyNotAllowed, .invalidStyleValue]

/-- The name of a kind in output for programs. -/
def code : ProblemKind → String
  | .emptyDevice => "empty_device"
  | .missingIdentifier => "missing_identifier"
  | .ordinalMismatch => "ordinal_mismatch"
  | .duplicateIdentifier => "duplicate_identifier"
  | .outOfBounds => "out_of_bounds"
  | .zeroSize => "zero_size"
  | .missingDataPoint => "missing_data_point"
  | .invalidDataPoint => "invalid_data_point"
  | .styleKeyNotAllowed => "style_key_not_allowed"
  | .invalidStyleValue => "invalid_style_value"

/-- The name of a kind in output for people. -/
def label : ProblemKind → String
  | .emptyDevice => "Empty Device"
  | .missingIdentifier => "Missing Identifier"
  | .ordinalMismatch => "Ordinal Mismatch"
  | .duplicateIdentifier => "Duplicate Identifier"
  | .outOfBounds => "Out of Bounds"
  | .zeroSize => "Zero Size"
  | .missingDataPoint => "Missing Data Point"
  | .invalidDataPoint => "Invalid Data Point"
  | .styleKeyNotAllowed => "Style Key Not Allowed"
  | .invalidStyleValue => "Invalid Style Value"

/-- The kind with the given name. -/
def ofCode? (s : String) : Option ProblemKind :=
  all.find? fun kind => kind.code == s

end ProblemKind

/-- One thing that makes a layout unusable. -/
structure Problem where
  kind : ProblemKind
  /-- Ordinal of the page where it was found. -/
  page : Option UInt32 := none
  /-- Identifier of the widget where it was found. -/
  widget : Option String := none
  message : String
  /-- How it could be mended. -/
  suggestion : Option String := none
deriving DecidableEq, Repr

namespace Problem

/-- The place of a problem in brackets, with a blank after it; empty without a place. -/
def place (problem : Problem) : String :=
  match problem.page, problem.widget with
  | some page, some widget => s!"[Page {page.toNat} / {widget}] "
  | some page, none => s!"[Page {page.toNat}] "
  | none, some widget => s!"[{widget}] "
  | none, none => ""

/-- The text of a problem for people. -/
def text (problem : Problem) : String :=
  let line := s!"{problem.place}{problem.kind.label}: {problem.message}"
  match problem.suggestion with
  | some suggestion => s!"{line}\n    → {suggestion}"
  | none => line

end Problem

/-- What validation found. -/
structure Report where
  errors : List Problem := []
  warnings : List String := []
deriving DecidableEq, Repr, Inhabited

namespace Report

/-- Whether the layout can be used. -/
def isValid (report : Report) : Bool :=
  report.errors.isEmpty

/-- Whether a problem of the kind was found. -/
def has (report : Report) (kind : ProblemKind) : Bool :=
  report.errors.any fun problem => problem.kind == kind

/-- The kinds of the problems found, in the order of their declaration. -/
def kinds (report : Report) : List ProblemKind :=
  ProblemKind.all.filter report.has

/-- Numbered lines under a heading with their count; nothing for an empty list. -/
def section? (noun : String) (items : List String) : Option String :=
  if items.isEmpty then none
  else
    let numbered := items.zipIdx.map fun (item, index) => s!"  {index + 1}. {item}\n"
    some (s!"{items.length} {noun}:\n" ++ String.join numbered)

/-- The whole report for people: the problems, an empty line, the warnings. -/
def text (report : Report) : String :=
  let problems := section? "validation errors" (report.errors.map Problem.text)
  let warnings := section? "warnings" report.warnings
  String.intercalate "\n" (problems.toList ++ warnings.toList)

end Report
end EpaperLayout
