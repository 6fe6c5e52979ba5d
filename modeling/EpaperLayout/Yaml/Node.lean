import EpaperLayout.Yaml.Event

/-!
# The tree of a YAML document

The events of a document put together as a tree.  Where the events end too early
the tree has a *missing* node in every collection that is still open, so that a
walk in the order of the text meets it before anything that would come later.
-/

namespace EpaperLayout
namespace Yaml

/-- A node of a document. -/
inductive Node where
  | alias (anchor : Nat) (mark : Mark)
  | scalar (properties : Properties) (text : String) (plain : Bool)
  | sequence (properties : Properties) (items : List Node)
  | mapping (properties : Properties) (pairs : List (Node × Node))
  /-- The events end here. -/
  | missing
deriving Repr, Inhabited

namespace Node

/-- A collection that is still open. -/
structure Frame where
  properties : Properties
  isMapping : Bool
  /-- The members so far, reversed: items, or keys and values by turns. -/
  members : List Node := []

/-- Keys and values put together. -/
def paired : List Node → List (Node × Node)
  | key :: value :: rest => (key, value) :: paired rest
  | [key] => [(key, .missing)]
  | [] => []

/-- The collection with the members of a frame. -/
def Frame.node (frame : Frame) : Node :=
  if frame.isMapping then .mapping frame.properties (paired frame.members.reverse)
  else .sequence frame.properties frame.members.reverse

/-- A tree that is being put together. -/
structure Growth where
  /-- The open collections, the innermost first. -/
  frames : List Frame := []
  root : Option Node := none

namespace Growth

/-- Adds a node to the innermost open collection. -/
def add (growth : Growth) (node : Node) : Growth :=
  match growth.frames with
  | frame :: outer =>
    { growth with frames := { frame with members := node :: frame.members } :: outer }
  | [] => { growth with root := some node }

/-- Opens a collection. -/
def opened (growth : Growth) (properties : Properties) (isMapping : Bool) : Growth :=
  { growth with frames := { properties, isMapping } :: growth.frames }

/-- Closes the innermost open collection. -/
def closed (growth : Growth) : Growth :=
  match growth.frames with
  | frame :: outer => { growth with frames := outer }.add frame.node
  | [] => growth

/-- Takes one event. -/
def take (growth : Growth) : Event → Growth
  | .alias anchor mark => growth.add (.alias anchor mark)
  | .scalar properties text plain => growth.add (.scalar properties text plain)
  | .sequenceStart properties => growth.opened properties false
  | .mappingStart properties => growth.opened properties true
  | .sequenceEnd | .mappingEnd => growth.closed

end Growth

/-- The node with a missing node in every frame around it. -/
def finish (node : Node) : List Frame → Node
  | [] => node
  | frame :: outer => finish { frame with members := node :: frame.members }.node outer

/-- The tree of events. -/
def ofEvents (events : List Event) : Node :=
  let growth := events.foldl Growth.take {}
  match growth.root with
  | some root => root
  | none => finish .missing growth.frames

mutual

/-- The anchored nodes of a tree with the numbers of their anchors, in the order of the text. -/
def anchored : Node → List (Nat × Node)
  | .scalar properties text plain =>
    properties.anchor.toList.map fun anchor => (anchor, .scalar properties text plain)
  | .sequence properties items =>
    (properties.anchor.toList.map fun anchor => (anchor, .sequence properties items))
      ++ anchoredItems items
  | .mapping properties pairs =>
    (properties.anchor.toList.map fun anchor => (anchor, .mapping properties pairs))
      ++ anchoredPairs pairs
  | .alias .. | .missing => []

/-- The anchored nodes of a list of trees. -/
def anchoredItems : List Node → List (Nat × Node)
  | [] => []
  | item :: rest => anchored item ++ anchoredItems rest

/-- The anchored nodes of a list of pairs of trees. -/
def anchoredPairs : List (Node × Node) → List (Nat × Node)
  | [] => []
  | (key, value) :: rest => anchored key ++ anchored value ++ anchoredPairs rest

end

end Node
end Yaml
end EpaperLayout
