import EpaperLayout.Yaml.Fault

/-!
# YAML values

A value is what a node stands for once its tag and its text have been looked at
and all aliases have been followed.  A tag of an application's own stays with its
value; looking something up in a value sees through such tags.

**Equality.** Two mappings are the same if they hold the same pairs in any order.
Doubles are kept as bits, with one representative for both zeros and one for all
that are no number.
-/

namespace EpaperLayout
namespace Yaml

/-- The value of a node. -/
inductive Value where
  | null
  | bool (value : Bool)
  | int (value : Int)
  | float (bits : UInt64)
  | string (text : String)
  | sequence (items : List Value)
  | mapping (entries : List (Value × Value))
  | tagged (tag : String) (value : Value)
deriving Repr, Inhabited

namespace Value

mutual

/-- Whether two values are the same. -/
def same : Value → Value → Bool
  | .null, .null => true
  | .bool a, .bool b => a == b
  | .int a, .int b => a == b
  | .float a, .float b => a == b
  | .string a, .string b => a == b
  | .sequence xs, .sequence ys => sameItems xs ys
  | .mapping xs, .mapping ys => xs.length == ys.length && sameEntries xs ys
  | .tagged tag a, .tagged other b => tag == other && same a b
  | _, _ => false

/-- Whether two lists of values are the same. -/
def sameItems : List Value → List Value → Bool
  | [], [] => true
  | x :: xs, y :: ys => same x y && sameItems xs ys
  | _, _ => false

/-- Whether the first mapping's entries are all entries of the second. -/
def sameEntries : List (Value × Value) → List (Value × Value) → Bool
  | [], _ => true
  | (key, value) :: rest, others =>
    (others.any fun other => same key other.1 && same value other.2) && sameEntries rest others

end

/-- The value under its tags. -/
def untagged : Value → Value
  | .tagged _ value => untagged value
  | value => value

/-- The entries of a mapping. -/
def entries? (value : Value) : Option (List (Value × Value)) :=
  match value.untagged with
  | .mapping entries => some entries
  | _ => none

/-- The text of a string. -/
def text? (value : Value) : Option String :=
  match value.untagged with
  | .string text => some text
  | _ => none

/-- The entry of a mapping under a string. -/
def get? (value : Value) (key : String) : Option Value := do
  let entries ← value.entries?
  let entry ← entries.find? fun entry => entry.1.same (.string key)
  return entry.2

/-- A tag does not hide what is under it. -/
@[simp] theorem get?_tagged (tag : String) (value : Value) (key : String) :
    (Value.tagged tag value).get? key = value.get? key := by
  simp [get?, entries?, untagged]

end Value
end Yaml
end EpaperLayout
