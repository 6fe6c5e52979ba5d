import EpaperLayout.Layout.Validation
import EpaperLayout.Snippet.MarkerData

/-!
# What reading and writing snippets comes to

**Errors.** A snippet is refused because its text is no document with sections,
because it has no page dispatch, because the dispatch has no pages, or because
the layout breaks a rule.  All but the last are faults of the input.

**Warnings.** Everything else that is odd about a snippet is skipped or mended
and leads to a warning, most of them with the number of a line.
-/

namespace EpaperLayout
namespace Snippet

/-- Why a snippet is refused. -/
inductive SnippetError where
  /-- The text is no document whose root is a mapping. -/
  | invalidYaml (message : String) (line column : Option Nat)
  /-- The document has no page dispatch. -/
  | unrecognized (reason : String)
  /-- The dispatch on the line has no branch for a page. -/
  | noPages (line : Nat)
  /-- The layout breaks a rule. -/
  | invalidLayout (report : Report)
deriving DecidableEq, Repr

namespace SnippetError

/-- The name of an error in output for programs. -/
def code : SnippetError → String
  | .invalidYaml .. => "invalid_yaml"
  | .unrecognized _ => "unrecognized_display_structure"
  | .noPages _ => "no_pages_found"
  | .invalidLayout _ => "invalid_layout"

/-- Whether the text of the snippet is at fault. -/
def isInputError : SnippetError → Bool
  | .invalidLayout _ => false
  | _ => true

/-- The message for a snippet that is refused. -/
def message : SnippetError → String
  | .invalidYaml message (some line) (some column) =>
    s!"invalid YAML at line {line}, column {column}: {message}"
  | .invalidYaml message _ _ => s!"invalid YAML: {message}"
  | .unrecognized reason => s!"unrecognized display structure: {reason}"
  | .noPages line => s!"no pages found: the page dispatch on line {line} has no `case` branches"
  | .invalidLayout report => s!"invalid layout:\n{report.text}"

end SnippetError

/-- What is odd about a snippet. -/
inductive Oddity where
  /-- A section that belongs to another part of the configuration. -/
  | foreignSection (name : String)
  /-- Markers stand in the branch for all other pages. -/
  | markersInDefault
  | tooManyPages
  /-- A branch has another number than its page will have. -/
  | renumbered (number : UInt32) (ordinal : UInt32)
  /-- The number of a branch is no number of a page. -/
  | labelOutOfRange (digits : String) (ordinal : UInt32)
  | malformedMarker (error : FieldError)
  | malformedData (tag : MarkerTag) (error : DataError)
  /-- A device marker stands in a branch. -/
  | deviceInBranch
  | extraPage
  | missingPage (ordinal : UInt32)
  | renamedPage (id renamed : String)
  | invalidWidget (id : String) (problems : List Problem)
  | duplicateWidget (id : String)
  /-- A page or widget marker stands outside the branches. -/
  | outsideBranch (tag : MarkerTag)
  | extraDevice
  /-- The snippet was written for another device. -/
  | otherDevice (exported imported : String)
deriving DecidableEq, Repr

/-- The message for what is odd about a snippet. -/
def Oddity.message : Oddity → String
  | .foreignSection name => s!"ignored '{name}' section; it belongs to the base configuration"
  | .markersInDefault => "markers in the default branch are ignored"
  | .tooManyPages => "too many pages; branch ignored"
  | .renumbered number ordinal => s!"case {number.toNat} imported as page {ordinal.toNat}"
  | .labelOutOfRange digits ordinal =>
    s!"case label {digits} is out of range; imported as page {ordinal.toNat}"
  | .malformedMarker error => s!"skipped malformed marker: {error.message}"
  | .malformedData tag error => s!"skipped malformed {tag.text} marker: {error.message}"
  | .deviceInBranch => "@device marker inside a page branch is ignored"
  | .extraPage => "extra @page marker in branch is ignored"
  | .missingPage ordinal => s!"page {ordinal.toNat} has no @page marker; using defaults"
  | .renamedPage id renamed => s!"duplicate page id '{id}' renamed to '{renamed}'"
  | .invalidWidget id problems =>
    let reasons := String.intercalate "; " (problems.map Problem.text)
    s!"skipped invalid widget '{id}': {reasons}"
  | .duplicateWidget id => s!"skipped duplicate widget id '{id}'"
  | .outsideBranch tag => s!"{tag.text} marker outside a page branch is ignored"
  | .extraDevice => "extra @device marker is ignored"
  | .otherDevice exported imported =>
    s!"snippet was exported from device '{exported}'; importing as '{imported}'"

/-- A warning about a snippet. -/
structure Warning where
  /-- The line of the document, if the oddity has a place. -/
  line : Option Nat := none
  oddity : Oddity
deriving DecidableEq, Repr

namespace Warning

/-- The message of a warning without its line. -/
def message (warning : Warning) : String :=
  warning.oddity.message

/-- The message of a warning with its line. -/
def text (warning : Warning) : String :=
  match warning.line with
  | some line => s!"line {line}: {warning.message}"
  | none => warning.message

end Warning
end Snippet
end EpaperLayout
