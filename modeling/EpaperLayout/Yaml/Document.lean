import EpaperLayout.Yaml.Node
import EpaperLayout.Yaml.Scalar

/-!
# YAML documents

A text with one document is read as the value of that document.  The tree of the
document is walked in the order of the text, and the first problem counts: a
scalar that does not suit its tag, a key that a mapping has already, collections
nested too deep, aliases that stand for too much, or the place where the tree
ends because the text makes no sense any more.

**Limits.** Collections nest up to 128 levels, also through aliases.  Aliases may
be followed a hundred times for every event of the document.
-/

namespace EpaperLayout
namespace Yaml

/-- What is needed to follow aliases. -/
structure Surroundings where
  /-- The anchored nodes, the last in the text first. -/
  anchored : List (Nat × Node)
  /-- How often aliases may be followed. -/
  jumps : Nat
  /-- The fault where nodes are missing. -/
  fault : Fault

/-- Deepest nesting of collections. -/
def nestingLimit : Nat := 128

/-- How often aliases may be followed for every event. -/
def jumpsPerEvent : Nat := 100

/-- Walking through a tree, while counting how often aliases were followed. -/
abbrev Walk :=
  StateT Nat (Except Fault)

/-- The value of a node on some level of nesting; `tagged` tells that its tag has been seen. -/
abbrev Resolve :=
  (tagged : Bool) → Node → Walk Value

namespace Surroundings

/-- The node that an alias stands for. -/
def follow (around : Surroundings) (anchor : Nat) : Walk Node := do
  modify (· + 1)
  if around.jumps < (← get) then throw { cause := .expansion, mark := none }
  match around.anchored.lookup anchor with
  | some node => return node
  | none => throw around.fault

/-- The value of a node without a tag to be kept. -/
def resolveContent (around : Surroundings) (inner : Option Resolve) (tagged : Bool) :
    Node → Walk Value
  | .scalar properties text plain =>
    match scalarValue (if tagged then none else properties.tag) text plain with
    | .ok value => return value
    | .error cause => throw (.marked properties.mark cause)
  | .sequence properties items =>
    match inner with
    | none => throw (.marked properties.mark .nesting)
    | some resolve => return .sequence (← items.mapM (resolve false))
  | .mapping properties pairs =>
    match inner with
    | none => throw (.marked properties.mark .nesting)
    | some resolve => do
      let entries ← pairs.foldlM (fun entries pair => do
        let key ← resolve tagged pair.1
        if entries.any fun entry : Value × Value => entry.1.same key then
          throw (.marked properties.mark .duplicateKey)
        return entries ++ [(key, ← resolve false pair.2)]) []
      return .mapping entries
  | _ => throw around.fault

/-- The properties of a node. -/
def properties? : Node → Option Properties
  | .scalar properties _ _ | .sequence properties _ | .mapping properties _ => some properties
  | _ => none

/-- The value of a node that is no alias, with its tag if it is an application's own. -/
def resolveTagged (around : Surroundings) (inner : Option Resolve) (tagged : Bool)
    (node : Node) : Walk Value := do
  let name := if tagged then none else ((properties? node).bind Properties.tag).bind tagName?
  match name with
  | some name => return .tagged name (← around.resolveContent inner true node)
  | none => around.resolveContent inner tagged node

/-- The value of a node; `inner` gives the values of the nodes in it. -/
def resolveNode (around : Surroundings) (inner : Option Resolve) : Resolve
  | _, .alias anchor _ => do around.resolveTagged inner false (← around.follow anchor)
  | tagged, node => around.resolveTagged inner tagged node

/-- The value of a node, under which collections may nest to the given depth. -/
def resolve (around : Surroundings) : (depth : Nat) → Resolve
  | 0 => around.resolveNode none
  | depth + 1 => around.resolveNode (some (around.resolve depth))

end Surroundings

/-- The value of the only document of a text. -/
def Value.ofText (text : String) : Except Fault Value := do
  let stream := EventStream.ofTokens (TokenStream.ofText text)
  let severalDocuments : Fault := { cause := .severalDocuments, mark := none }
  let root := Node.ofEvents stream.events
  let around : Surroundings := {
    anchored := root.anchored.reverse
    jumps := jumpsPerEvent * stream.events.length
    fault := stream.fault.getD severalDocuments }
  if stream.events.isEmpty && stream.fault.isNone then return .null
  let value ← (around.resolve nestingLimit false root).run' 0
  match stream.fault with
  | some fault => throw fault
  | none => if stream.continued then throw severalDocuments else return value

end Yaml
end EpaperLayout
