import Flowgraph.Graph.Node
import Flowgraph.Handler.Basic

/-!
# The catalog of node types

What an editor needs to know about each built-in type: how it looks, and by which ports edges enter
and leave.
-/

namespace Flowgraph

/-- **An entry of the catalog.** -/
structure Catalog.Entry where
  type : NodeType
  label : String
  color : String
  icon : String
  inputs : List String
  outputs : List String
  deriving DecidableEq, Repr

namespace Catalog

/-- The port by which edges enter a node. -/
def input : String := "input"

/-- The entry of a built-in type. -/
def entry : NodeType → Entry
  | .trigger => ⟨.trigger, "Trigger", "#22c55e", "Zap", [], [Port.next]⟩
  | .message => ⟨.message, "Send Message", "#3b82f6", "MessageSquare", [input], [Port.next]⟩
  | .condition =>
    ⟨.condition, "Condition", "#f59e0b", "GitBranch", [input], [Port.holds, Port.fails]⟩
  | .agent => ⟨.agent, "AI Agent", "#8b5cf6", "Bot", [input], [Port.response]⟩
  | .delay => ⟨.delay, "Delay", "#64748b", "Clock", [input], [Port.next]⟩
  | .tag => ⟨.tag, "Add Tag", "#22c55e", "Tag", [input], [Port.next]⟩
  | .end => ⟨.end, "End", "#ef4444", "Square", [input], []⟩

/-- **Every entry**, in the order of an editor's palette. -/
def entries : List Entry := NodeType.all.map entry

/-- The entry of a type. -/
def lookup (type : String) : Option Entry := (NodeType.ofName? type).map entry

namespace Entry

/-- The data of a list of ports. -/
def ports (names : List String) : Json := .arr (names.map .str)

/-- The data of an entry. -/
def toJson (e : Entry) : Json :=
  Json.ofMembers [("type", .str e.type.name), ("label", .str e.label), ("color", .str e.color),
    ("icon", .str e.icon), ("inputs", ports e.inputs), ("outputs", ports e.outputs)]

end Entry

end Catalog

end Flowgraph
