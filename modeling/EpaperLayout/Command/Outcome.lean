import EpaperLayout.Disk.Tree

/-!
# What a command comes to

A command reads and changes a disk and writes two texts: its *output* and, for
what the user should notice besides, its *notes*.  It succeeds or fails.

**Failures** are of two kinds.  Input is *rejected* because it breaks a rule, or
the command *breaks off* because the disk or the program itself is in the way.
The kind decides the exit code.
-/

namespace EpaperLayout
namespace Command

/-- The kinds of failures. -/
inductive FailureKind where
  | rejected
  | brokenOff
deriving DecidableEq, Repr

/-- The exit code for a failure. -/
def FailureKind.exitCode : FailureKind → UInt8
  | .rejected => 1
  | .brokenOff => 2

/-- Why a command fails. -/
structure Failure where
  kind : FailureKind
  message : String
deriving DecidableEq, Repr

/-- What a command comes to. -/
structure Outcome where
  tree : Disk.Tree
  output : String := ""
  notes : String := ""
  failure : Option Failure := none

namespace Outcome

/-- An outcome without any output. -/
def failed (tree : Disk.Tree) (kind : FailureKind) (message : String) : Outcome where
  tree := tree
  failure := some { kind, message }

/-- The exit code. -/
def exitCode (outcome : Outcome) : UInt8 :=
  match outcome.failure with
  | some failure => failure.kind.exitCode
  | none => 0

end Outcome

/-- The text of a line. -/
def line (text : String) : String :=
  text ++ "\n"

end Command
end EpaperLayout
